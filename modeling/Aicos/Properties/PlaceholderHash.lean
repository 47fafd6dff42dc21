import Aicos.Identity.SignIns
import Aicos.Transition.Run

namespace Aicos.Properties

open Aicos.Commerce Aicos.Data Aicos.Identity Aicos.Transaction Aicos.Transition

/-! The placeholder hash.  `refreshTokenHash` is unique and every session starts
with the same one, so one unfinished session refuses all sign-ins. -/

variable {runtime : Runtime} {config : AuthConfig} {signIns : SignIns}

def holding (signIns : SignIns) (request : RequestId) : Option SessionId :=
  (signIns.requests request).bind IssuePhase.unfinished

/-- The sessions with the placeholder are those of the requests between their
`session.create` and the storing of the hash, or stopped there. -/
structure Unfinished (signIns : SignIns) : Prop where
  pending : ∀ id, Placeholder id signIns.directory ↔ ∃ request, holding signIns request = some id
  single : ∀ first second id, holding signIns first = some id → holding signIns second = some id → first = second
  hashed : ∀ request id refreshTokenHash, signIns.requests request = some (.hashed id refreshTokenHash) →
    refreshTokenHash ≠ "pending"

/-- A session is inserted only while no other request holds an unfinished one. -/
def InsertsAlone (signIns : SignIns) : SignInAction → Prop
  | .createSession request _ _ =>
      (∃ principal, signIns.requests request = some (.granted principal)) →
        ∀ other, holding signIns other = none
  | _ => True

theorem holding_enter (signIns : SignIns) (request other : RequestId) (phase : Option IssuePhase) :
    holding (signIns.enter request phase) other =
      if other = request then phase.bind IssuePhase.unfinished else holding signIns other := by
  by_cases same : other = request <;> simp [holding, SignIns.enter, same]

theorem Unfinished.enter {request : RequestId} {phase : Option IssuePhase} (unfinished : Unfinished signIns)
    (directory : Directory) (hashes : sessionHashes directory = sessionHashes signIns.directory)
    (same : phase.bind IssuePhase.unfinished = holding signIns request)
    (fresh : ∀ id refreshTokenHash, phase = some (.hashed id refreshTokenHash) → refreshTokenHash ≠ "pending") :
    Unfinished { signIns.enter request phase with directory } := by
  have kept (other : RequestId) :
      holding { signIns.enter request phase with directory } other = holding signIns other := by
    have entered := holding_enter signIns request other phase
    by_cases mine : other = request
    · rw [if_pos mine, same] at entered
      rw [mine] at entered ⊢
      exact entered
    · rw [if_neg mine] at entered
      exact entered
  constructor
  · intro id
    rw [placeholder_iff, hashes, ← placeholder_iff, unfinished.pending]
    simp only [kept]
  · intro first second id one two
    rw [kept] at one two
    exact unfinished.single first second id one two
  · intro other id refreshTokenHash at_phase
    by_cases mine : other = request
    · subst mine
      exact fresh id refreshTokenHash (by simpa [SignIns.enter] using at_phase)
    · exact unfinished.hashed other id refreshTokenHash (by simpa [SignIns.enter, mine] using at_phase)

theorem Unfinished.open {α : Type} {program : IdentityProgram α} {principal : α → Option Principal}
    (unfinished : Unfinished signIns) (writes : program.Writes IdentityWrite.keepsHashes) (request : RequestId) :
    Unfinished (signIns.open request program principal) := by
  unfold SignIns.open
  split
  · exact unfinished
  · rename_i idle
    split
    · exact unfinished
    · rename_i value directory ran
      apply unfinished.enter directory (alone_sessionHashes writes ran)
      · cases principal value <;> simp [holding, idle, IssuePhase.unfinished]
      · cases principal value <;> simp

theorem Unfinished.createSession {request : RequestId} {principal : Principal}
    (unfinished : Unfinished signIns) (granted : signIns.requests request = some (.granted principal))
    (refreshTtl : String) (id : SessionId) (now : Instant) :
    Unfinished (signIns.createSession refreshTtl request principal id now) := by
  have nothing : holding signIns request = none := by simp [holding, granted, IssuePhase.unfinished]
  have left : Unfinished (signIns.enter request none) :=
    unfinished.enter signIns.directory rfl nothing.symm (by simp)
  unfold SignIns.createSession
  dsimp only
  split
  · rename_i admitted
    have absent : ∀ session ∈ signIns.directory.sessions, session.id ≠ id := by
      intro session member
      have admitted := of_decide_eq_true admitted
      have apart := List.all_eq_true.mp admitted.1 session member
      exact (of_decide_eq_true apart).1
    have unheld (other : RequestId) : holding signIns other ≠ some id := by
      intro holds
      obtain ⟨session, member, same, _⟩ := (unfinished.pending id).mpr ⟨other, holds⟩
      exact absent session member same
    have held (other : RequestId) := holding_enter signIns request other
      (some (.created principal id))
    constructor
    · intro wanted
      show Placeholder wanted
        ((IdentityWrite.createSession (placeholderSession refreshTtl principal id now)).apply signIns.directory) ↔
          ∃ other, holding (signIns.enter request (some (.created principal id))) other = some wanted
      rw [placeholder_createSession, unfinished.pending]
      constructor
      · rintro (rfl | ⟨other, holds⟩)
        · exact ⟨request, by simp [held, IssuePhase.unfinished]⟩
        · have apart : other ≠ request := fun same => by simp [same, nothing] at holds
          exact ⟨other, by rw [held, if_neg apart, holds]⟩
      · intro given
        obtain ⟨other, holds⟩ := given
        rw [held] at holds
        split at holds
        · exact .inl (Option.some.inj holds).symm
        · exact .inr ⟨other, holds⟩
    · intro first second wanted one two
      have one : holding (signIns.enter request (some (.created principal id))) first = some wanted := one
      have two : holding (signIns.enter request (some (.created principal id))) second = some wanted := two
      rw [held] at one two
      split at one <;> split at two
      · rename_i same also
        rw [same, also]
      · obtain rfl : id = wanted := Option.some.inj one
        exact absurd two (unheld second)
      · obtain rfl : id = wanted := Option.some.inj two
        exact absurd one (unheld first)
      · exact unfinished.single first second wanted one two
    · intro other wanted refreshTokenHash at_phase
      by_cases mine : other = request
      · simp [SignIns.enter, mine] at at_phase
      · exact unfinished.hashed other wanted refreshTokenHash (by simpa [SignIns.enter, mine] using at_phase)
  · split <;> exact ⟨left.pending, left.single, left.hashed⟩

theorem Unfinished.storeHash {request : RequestId} {id : SessionId} {refreshTokenHash : String}
    (unfinished : Unfinished signIns)
    (at_phase : signIns.requests request = some (.hashed id refreshTokenHash)) :
    Unfinished (signIns.storeHash request id refreshTokenHash) := by
  have mine : holding signIns request = some id := by simp [holding, at_phase, IssuePhase.unfinished]
  have fresh := unfinished.hashed request id refreshTokenHash at_phase
  unfold SignIns.storeHash
  dsimp only
  split
  · have held (other : RequestId) := holding_enter signIns request other none
    constructor
    · intro wanted
      show Placeholder wanted ((IdentityWrite.storeHash id refreshTokenHash).apply signIns.directory) ↔
        ∃ other, holding (signIns.enter request none) other = some wanted
      rw [placeholder_storeHash fresh, unfinished.pending]
      constructor
      · intro given
        obtain ⟨apart, other, holds⟩ := given
        have foreign : other ≠ request := by
          rintro rfl
          exact apart (Option.some.inj (holds.symm.trans mine))
        exact ⟨other, by rw [held, if_neg foreign, holds]⟩
      · intro given
        obtain ⟨other, holds⟩ := given
        rw [held] at holds
        split at holds
        · cases holds
        · rename_i foreign
          refine ⟨?_, other, holds⟩
          rintro rfl
          exact foreign (unfinished.single other request wanted holds mine)
    · intro first second wanted one two
      have one : holding (signIns.enter request none) first = some wanted := one
      have two : holding (signIns.enter request none) second = some wanted := two
      rw [held] at one two
      split at one
      · cases one
      · split at two
        · cases two
        · exact unfinished.single first second wanted one two
    · intro other wanted otherHash stored
      by_cases same : other = request
      · simp [SignIns.enter, same] at stored
      · exact unfinished.hashed other wanted otherHash (by simpa [SignIns.enter, same] using stored)
  · exact unfinished.enter signIns.directory rfl (by simp [mine, IssuePhase.unfinished]) (by simp)

theorem Unfinished.step (salted : ∀ salt text, runtime.hash salt text ≠ "pending")
    (unfinished : Unfinished signIns) (action : SignInAction) :
    Unfinished (signIns.step runtime config action) := by
  cases action with
  | login request dto now => exact unfinished.open (checkCredentials_writes runtime dto now) request
  | signup request dto passwordSalt ids now => exact unfinished.open (provision_writes runtime dto _ ids now) request
  | refresh request token now =>
      simp only [SignIns.step]
      split
      · exact unfinished
      · exact unfinished.open (consumeSession_writes runtime token _ now) request
  | createSession request id now =>
      simp only [SignIns.step]
      split
      · rename_i principal granted
        exact unfinished.createSession granted config.refreshTtl id now
      · exact unfinished
  | sign request now =>
      simp only [SignIns.step]
      split
      · rename_i principal id at_phase
        exact unfinished.enter signIns.directory rfl
          (by simp [holding, at_phase, IssuePhase.unfinished]) (by simp)
      · exact unfinished
  | hash request salt =>
      simp only [SignIns.step]
      split
      · rename_i id refreshToken at_phase
        refine unfinished.enter signIns.directory rfl
          (by simp [holding, at_phase, IssuePhase.unfinished]) ?_
        intro other refreshTokenHash same
        cases same
        exact salted salt refreshToken
      · exact unfinished
  | storeHash request =>
      simp only [SignIns.step]
      split
      · rename_i id refreshTokenHash at_phase
        exact unfinished.storeHash at_phase
      · exact unfinished
  | stop request =>
      refine unfinished.enter signIns.directory rfl ?_ ?_
      · show _ = holding signIns request
        rw [holding]
        cases (signIns.requests request).bind IssuePhase.unfinished <;> rfl
      · cases (signIns.requests request).bind IssuePhase.unfinished <;> simp

theorem Unfinished.taken_iff (unfinished : Unfinished signIns) :
    hashTaken "pending" signIns.directory = true ↔ ∃ other, holding signIns other ≠ none := by
  have pending : hashTaken "pending" signIns.directory = true ↔ ∃ id, Placeholder id signIns.directory := by
    simp [hashTaken, Placeholder]
  rw [pending]
  constructor
  · intro given
    obtain ⟨id, placeholder⟩ := given
    obtain ⟨other, holds⟩ := (unfinished.pending id).mp placeholder
    exact ⟨other, by simp [holds]⟩
  · intro given
    obtain ⟨other, holds⟩ := given
    obtain ⟨id, holds⟩ := Option.ne_none_iff_exists'.mp holds
    exact ⟨id, (unfinished.pending id).mpr ⟨other, holds⟩⟩

theorem Unfinished.untaken_iff (unfinished : Unfinished signIns) :
    ¬ hashTaken "pending" signIns.directory = true ↔ ∀ other, holding signIns other = none := by
  rw [unfinished.taken_iff]
  simp only [ne_eq, not_exists, not_not]

theorem open_refused {α : Type} (request : RequestId) (program : IdentityProgram α)
    (principal : α → Option Principal) : (signIns.open request program principal).refused = signIns.refused := by
  unfold SignIns.open
  split
  · rfl
  · split <;> rfl

/-- Only a `session.create` is refused for a hash. -/
theorem step_refused {action : SignInAction} (other : ∀ request id now, action ≠ .createSession request id now) :
    (signIns.step runtime config action).refused = signIns.refused := by
  cases action with
  | createSession request id now => exact absurd rfl (other request id now)
  | login request dto now => exact open_refused _ _ _
  | signup request dto passwordSalt ids now => exact open_refused _ _ _
  | refresh request token now =>
      simp only [SignIns.step]
      split
      · rfl
      · exact open_refused _ _ _
  | sign request now =>
      simp only [SignIns.step]
      split <;> rfl
  | hash request salt =>
      simp only [SignIns.step]
      split <;> rfl
  | storeHash request =>
      simp only [SignIns.step]
      split
      · rw [SignIns.storeHash]
        dsimp only
        split <;> rfl
      · rfl
  | stop request => rfl

theorem Unfinished.createSession_refused (unfinished : Unfinished signIns) (refreshTtl : String) (request : RequestId)
    (principal : Principal) (id : SessionId) (now : Instant) (unrefused : signIns.refused = []) :
    (signIns.createSession refreshTtl request principal id now).refused = [] ↔
      ∀ other, holding signIns other = none := by
  rw [← unfinished.untaken_iff, SignIns.createSession]
  dsimp only
  split
  · rename_i admitted
    refine iff_of_true unrefused fun clash => ?_
    obtain ⟨session, member, same⟩ := List.any_eq_true.mp clash
    have apart := List.all_eq_true.mp (of_decide_eq_true admitted).1 session member
    exact (of_decide_eq_true apart).2 (of_decide_eq_true same)
  · split
    · rename_i clash
      exact iff_of_false (by simp) fun free => free clash
    · rename_i free
      exact iff_of_true unrefused free

/-- A request is refused for the placeholder exactly when another holds it. -/
theorem refused_step_iff (unfinished : Unfinished signIns) (action : SignInAction) (unrefused : signIns.refused = []) :
    (signIns.step runtime config action).refused = [] ↔ InsertsAlone signIns action := by
  cases action with
  | createSession request id now =>
      simp only [SignIns.step, InsertsAlone]
      split
      · rename_i principal granted
        simp only [granted, Option.some.injEq, IssuePhase.granted.injEq, exists_eq', forall_const]
        exact unfinished.createSession_refused config.refreshTtl request principal id now unrefused
      · rename_i other
        refine ⟨fun _ granted => ?_, fun _ => unrefused⟩
        obtain ⟨principal, granted⟩ := granted
        exact absurd granted (other principal)
  | _ => exact iff_of_true ((step_refused (by simp)).trans unrefused) trivial

theorem unfinished_start {directory : Directory} (clean : hashTaken "pending" directory = false) :
    Unfinished (SignIns.start directory) := by
  refine ⟨fun id => ⟨?_, ?_⟩, ?_, ?_⟩
  · intro given
    obtain ⟨session, member, _, pending⟩ := given
    have free := List.any_eq_false.mp clean session member
    simp [pending] at free
  · intro given
    obtain ⟨request, holds⟩ := given
    simp [holding, SignIns.start] at holds
  · intro first second id holds
    simp [holding, SignIns.start] at holds
  · intro request id refreshTokenHash at_phase
    simp [SignIns.start] at at_phase

/-- No request is ever refused for its session's placeholder hash exactly when
every `session.create` runs while no other request is between its own and the
storing of its hash, nor has stopped there. -/
theorem never_refused_iff_inserts_alone (salted : ∀ salt text, runtime.hash salt text ≠ "pending")
    {directory : Directory} (clean : hashTaken "pending" directory = false) {actions : List SignInAction} :
    Visits (SignIns.step runtime config) (fun signIns => signIns.refused = []) (SignIns.start directory) actions ↔
      Along (SignIns.step runtime config) InsertsAlone (SignIns.start directory) actions := by
  have framed : ∀ signIns action, True → Unfinished signIns → Unfinished (signIns.step runtime config action) :=
    fun _ action _ unfinished => unfinished.step salted action
  exact visits_iff_along framed (fun _ action _ unfinished none => refused_step_iff unfinished action none)
    (fun _ _ => trivial) (unfinished_start clean) rfl

/-- A second device signs in while the first sign-in is storing its hash. -/
theorem second_sign_in_refused :
    ¬ ∀ runtime config directory actions, (∀ salt text, Runtime.hash runtime salt text ≠ "pending") →
      hashTaken "pending" directory = false →
      Visits (SignIns.step runtime config) (fun signIns => signIns.refused = []) (SignIns.start directory) actions := by
  intro always
  have visits := always plainRuntime plainConfig (adaRows [])
    [.login 1 adaLogin 5, .createSession 1 1 5, .login 2 adaLogin 6, .createSession 2 2 6]
    plainRuntime_salted (by decide)
  exact absurd visits.last (by decide)

theorem never_refused_one_after_another :
    Visits (SignIns.step plainRuntime plainConfig) (fun signIns => signIns.refused = [])
        (SignIns.start (adaRows []))
        [.login 1 adaLogin 5, .createSession 1 1 5, .sign 1 5, .hash 1 0, .storeHash 1, .login 2 adaLogin 6] ↔
      Along (SignIns.step plainRuntime plainConfig) InsertsAlone (SignIns.start (adaRows []))
        [.login 1 adaLogin 5, .createSession 1 1 5, .sign 1 5, .hash 1 0, .storeHash 1, .login 2 adaLogin 6] :=
  never_refused_iff_inserts_alone plainRuntime_salted (by decide)

end Aicos.Properties

import Aicos.Identity.Sessions
import Aicos.Identity.SignIns

namespace Aicos.Properties

open Aicos.Commerce Aicos.Identity Aicos.Transition
open Aicos.Transaction Aicos.Transaction.ReadCommitted

/-! One exchange for each session.  `refresh` reads `revokedAt` and writes it
later without looking again, so it holds as long as nobody revokes the session
in between. -/

/-- A committed refresh that revoked the session and goes on to a new token pair. -/
def exchanges (id : SessionId) (entry : Committed IdentityWrite (Option Membership)) : Bool :=
  entry.value ≠ none ∧ entry.statements.any fun statement =>
    match statement with
    | .revokeSession session _ => session = id
    | _ => false

/-- Each session is exchanged once at most, and was not revoked when it was. -/
def ExchangedOnce (start : Directory) (log : List (Committed IdentityWrite (Option Membership))) : Prop :=
  ∀ id, (log.filter (exchanges id)).length ≤ 1 ∧
    ∀ before entry after, log = before ++ entry :: after → exchanges id entry = true →
      revokedAt id (identityStore.replay start before) = some none

/-- The update of a refresh meets its session as the refresh has read it: nobody
has revoked it since. -/
def UnrevokedSince (seen rows : Directory) : IdentityWrite → Prop
  | .revokeSession id _ => revokedAt id rows = revokedAt id seen
  | _ => True

def SessionRely (held : IdentityKey → Prop) (before after : Directory) : Prop :=
  ∀ id, held (.session id) → revokedAt id after = revokedAt id before

def ExchangesLive (rows : Directory) (entry : Committed IdentityWrite (Option Membership)) : Prop :=
  ∀ id, exchanges id entry = true → revokedAt id rows = some none

abbrev RotationOutline :=
  RecordedOutline identityStore (fun _ => True) SessionRely UnrevokedSince ExchangesLive (ε := AuthError)

theorem exchanges_iff {id : SessionId} {entry : Committed IdentityWrite (Option Membership)} :
    exchanges id entry = true ↔
      entry.value ≠ none ∧ ∃ now, IdentityWrite.revokeSession id now ∈ entry.statements := by
  simp only [exchanges, decide_eq_true_eq, List.any_eq_true]
  refine and_congr_right fun _ => ⟨?_, ?_⟩
  · intro given
    obtain ⟨statement, member, same⟩ := given
    cases statement with
    | revokeSession session now =>
        obtain rfl := of_decide_eq_true same
        exact ⟨now, member⟩
    | _ => cases same
  · intro given
    obtain ⟨now, member⟩ := given
    exact ⟨_, member, by simp⟩

theorem exchangesLive_none (rows : Directory) (statements : List IdentityWrite) :
    ExchangesLive rows { statements, value := none } :=
  fun _ exchange => absurd rfl (exchanges_iff.mp exchange).1

section Outlines

variable {statements : List IdentityWrite} {seen rows : Directory}

theorem rotation_none : RotationOutline (pure none) statements seen rows :=
  fun now _ _ => exchangesLive_none now statements

theorem rotation_exec (statement : IdentityWrite) :
    RotationOutline (Program.exec statement >>= fun _ => pure none) statements seen rows :=
  fun _ _ _ _ _ => rotation_none

/-- A membership is returned after a revocation that met the session unrevoked. -/
theorem consumeSession_rotation (runtime : Runtime) (token : String) (payload : RefreshTokenPayload) (now : Instant) :
    RotationOutline (consumeSession runtime token payload now) [] rows rows := by
  rw [consumeSession, Program.query_bind]
  intro read _ _
  dsimp only [Store.view_nil]
  split
  · exact rotation_none
  · rename_i session found
    split
    · exact rotation_none
    · rename_i accepted
      have accepted : acceptsToken runtime token payload now session = true := by simpa using accepted
      have live : session.revokedAt = none := (of_decide_eq_true accepted).1
      have mine : session.id = payload.sid := by simpa using List.find?_some found
      rw [Program.exec_bind, Program.query_bind]
      intro write _ _ _ guarded
      have unrevoked : revokedAt session.id write = some none := by
        have same : revokedAt session.id write = revokedAt session.id read := guarded
        rw [same, mine, revokedAt, found, Option.map_some, live]
      -- the row stays locked from here on
      have held : identityStore.Holds [IdentityWrite.revokeSession session.id now] (.session session.id) :=
        ⟨_, List.mem_singleton.mpr rfl, List.mem_singleton.mpr rfl⟩
      intro second _ moved
      have unrevoked : revokedAt session.id second = some none := (moved session.id held).trans unrevoked
      dsimp only
      split
      · exact rotation_none
      · split
        · exact rotation_none
        · intro last _ moved id exchange
          obtain ⟨_, other, member⟩ := exchanges_iff.mp exchange
          obtain ⟨rfl, _⟩ : id = session.id ∧ other = now := by simpa using member
          exact (moved session.id held).trans unrevoked

theorem sessionRequest_rotation (runtime : Runtime) (request : SessionRequest) :
    RotationOutline (request.program runtime) [] rows rows := by
  cases request with
  | refresh token now =>
      simp only [SessionRequest.program]
      split
      · trivial
      · exact consumeSession_rotation runtime token _ now
  | logout token now =>
      simp only [SessionRequest.program]
      split
      · exact rotation_none
      · exact rotation_exec _
  | createSession session => exact rotation_exec _
  | storeHash id refreshTokenHash => exact rotation_exec _

end Outlines

theorem filter_exchanges_le_one {id : SessionId} {start : Directory}
    {log : List (Committed IdentityWrite (Option Membership))}
    (live : ∀ before entry after, log = before ++ entry :: after → exchanges id entry = true →
      revokedAt id (identityStore.replay start before) = some none) :
    (log.filter (exchanges id)).length ≤ 1 := by
  induction log generalizing start with
  | nil => simp
  | cons entry rest ih =>
      by_cases exchange : exchanges id entry = true
      · -- the session is revoked from here on, so no later entry exchanges it
        obtain ⟨_, now, member⟩ := exchanges_iff.mp exchange
        obtain ⟨session, found, _⟩ := Option.map_eq_some_iff.mp (live [] entry rest rfl exchange)
        have revoked : Revoked id (identityStore.view entry.statements start) := revoked_of_mem found member
        have none : rest.filter (exchanges id) = [] := by
          refine List.filter_eq_nil_iff.mpr fun other present again => ?_
          obtain ⟨before, after, rfl⟩ := List.append_of_mem present
          obtain ⟨instant, later⟩ := revoked.replay before
          have unrevoked := live (entry :: before) other after rfl again
          rw [Store.replay_cons, later] at unrevoked
          cases unrevoked
        simp [exchange, none]
      · rw [List.filter_cons_of_neg exchange]
        exact ih fun before other after split => live (entry :: before) other after (by rw [split]; rfl)

theorem Replayed.exchangedOnce {start : Directory} {state : SessionRows}
    (replayed : Replayed identityStore ExchangesLive start state) : ExchangedOnce start state.2 := by
  intro id
  have live : ∀ before entry after, state.2 = before ++ entry :: after → exchanges id entry = true →
      revokedAt id (identityStore.replay start before) = some none :=
    fun before entry after split exchange => replayed.2 before entry after split id exchange
  exact ⟨filter_exchanges_le_one live, live⟩

/-- As long as no refresh updates a session that was revoked since it read it,
every session is exchanged once at most and never after a revocation, in every
state of every schedule. -/
theorem exchanged_once_of_unrevoked_since (runtime : Runtime) {start : Directory} {schedule : List SessionAction}
    (requests : SessionSchedule runtime schedule)
    (guarded : Along (step sessionStore) (WriteGuard sessionStore (recordedGuard UnrevokedSince))
      (State.idle (start, []) : SessionState) schedule) :
    Visits (step sessionStore) (fun state => ExchangedOnce start state.committed.2)
      (State.idle (start, []) : SessionState) schedule := by
  have frame : ∀ statements rows held, (∀ key, held key → ¬ identityStore.Holds statements key) →
      SessionRely held rows (identityStore.view statements rows) :=
    fun statements rows held apart id lock => revokedAt_view (apart _ lock) rows
  have outlined : ∀ program, (∃ request : SessionRequest, program = request.program runtime) →
      ∀ rows, True → RotationOutline program [] rows rows := by
    rintro program ⟨request, rfl⟩ rows _
    exact sessionRequest_rotation runtime request
  have visits := replayed_of_outlines (fun _ _ _ _ => rfl)
    (fun _ _ _ _ first second id lock => (second id lock).trans (first id lock))
    frame (fun _ _ _ _ => trivial) outlined trivial requests guarded
  exact visits.mono fun _ sound => Replayed.exchangedOnce sound.2

def adaSession : Session where
  id := 3
  userId := 1
  refreshTokenHash := "$$utsss"
  expiresAt := 100
  revokedAt := none

def adaRefresh : Program SessionRows (IdentityWrite ⊕ Committed IdentityWrite (Option Membership)) AuthError Unit :=
  ((SessionRequest.refresh "utsss" 5).program plainRuntime).record []

/-- Both requests read the session before either revokes it. -/
def bothRefresh : List SessionAction :=
  [.begin 1 adaRefresh, .begin 2 adaRefresh, .advance 1, .advance 2,
    .advance 1, .advance 1, .advance 1, .commit 1, .advance 2, .advance 2, .advance 2, .commit 2]

theorem adaRefresh_spawned :
    ∃ request : SessionRequest, adaRefresh = (request.program plainRuntime).record [] :=
  ⟨_, rfl⟩

theorem bothRefresh_requests : SessionSchedule plainRuntime bothRefresh := by
  simp [SessionSchedule, bothRefresh, Starts, adaRefresh_spawned]

theorem token_exchanged_twice :
    ¬ ∀ runtime start schedule, SessionSchedule runtime schedule →
      Visits (step sessionStore) (fun state => ExchangedOnce start state.committed.2)
        (State.idle (start, []) : SessionState) schedule := by
  intro always
  have visits := always plainRuntime (adaRows [adaSession]) bothRefresh bothRefresh_requests
  exact absurd (visits.last 3).1 (by decide)

theorem exchanged_once_one_refresh :
    Visits (step sessionStore) (fun state => ExchangedOnce (adaRows [adaSession]) state.committed.2)
      (State.idle (adaRows [adaSession], []) : SessionState)
      [.begin 1 adaRefresh, .advance 1, .advance 1, .advance 1, .advance 1, .commit 1] := by
  apply exchanged_once_of_unrevoked_since plainRuntime
  · simp [SessionSchedule, Starts, adaRefresh_spawned]
  · refine ⟨trivial, trivial, ?_, trivial, trivial, trivial, trivial⟩
    show revokedAt 3 (adaRows [adaSession]) = revokedAt 3 (adaRows [adaSession])
    rfl

end Aicos.Properties

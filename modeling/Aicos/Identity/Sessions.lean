import Aicos.Identity.Service
import Aicos.Transaction.Recorded

namespace Aicos.Identity

open Aicos.Commerce Aicos.Data Aicos.Transaction Aicos.Transaction.ReadCommitted

/-! The transactions on sessions, statement by statement, and what they do to
`revokedAt`. -/

inductive SessionRequest where
  | refresh (token : String) (now : Instant)
  | logout (token : String) (now : Instant)
  /-- The two transactions of `issueTokens`. -/
  | createSession (session : Session)
  | storeHash (id : SessionId) (refreshTokenHash : String)

/-- A membership is what a refresh goes on to issue a token pair for. -/
def SessionRequest.program (runtime : Runtime) : SessionRequest → IdentityProgram (Option Membership)
  | .refresh token now =>
      match runtime.verifyRefresh token now with
      | none => Program.throw (.unauthorized "Invalid or expired refresh token")
      | some payload => consumeSession runtime token payload now
  | .logout token now =>
      match runtime.verifyRefresh token now with
      | none => pure none
      | some payload => do
          revokeOnLogout payload now
          pure none
  | .createSession session => do
      Program.exec (.createSession session)
      pure none
  | .storeHash id refreshTokenHash => do
      Program.exec (.storeHash id refreshTokenHash)
      pure none

abbrev SessionRows := Directory × List (Committed IdentityWrite (Option Membership))

abbrev SessionAction :=
  ReadCommitted.Action SessionRows (IdentityWrite ⊕ Committed IdentityWrite (Option Membership)) AuthError

abbrev SessionState :=
  ReadCommitted.State SessionRows (IdentityWrite ⊕ Committed IdentityWrite (Option Membership)) IdentityKey AuthError

abbrev sessionStore : Transaction.Store SessionRows (IdentityWrite ⊕ Committed IdentityWrite (Option Membership))
    IdentityKey :=
  identityStore.recorded

/-- Any number of requests, with their statements in any order. -/
def SessionSchedule (runtime : Runtime) (schedule : List SessionAction) : Prop :=
  ∀ action ∈ schedule, Starts (fun program =>
    ∃ body, (∃ request : SessionRequest, body = request.program runtime) ∧ program = body.record []) action

/-- `none` where there is no such session. -/
def revokedAt (id : SessionId) (rows : Directory) : Option (Option Instant) :=
  (findSession id rows).map (·.revokedAt)

variable {id : SessionId} {statement : IdentityWrite} {rows : Directory}

theorem revokedAt_updateWhere {selected : Session → Bool} {change : Session → Session}
    (keyed : ∀ session, (change session).id = session.id) (rows : Directory) :
    revokedAt id { rows with sessions := updateWhere selected change rows.sessions } =
      (findSession id rows).map fun session =>
        (if selected session then change session else session).revokedAt := by
  rw [revokedAt, findSession, find?_updateWhere_key keyed, Option.map_map]
  rfl

/-- A statement is felt only in the sessions it locks. -/
theorem revokedAt_apply (apart : IdentityKey.session id ∉ statement.locks) (rows : Directory) :
    revokedAt id (statement.apply rows) = revokedAt id rows := by
  have other (wanted : SessionId) (foreign : id ≠ wanted) {selected : Session → Bool} {change : Session → Session}
      (keyed : ∀ session, (change session).id = session.id)
      (chosen : ∀ session, selected session = true → session.id = wanted) :
      revokedAt id { rows with sessions := updateWhere selected change rows.sessions } = revokedAt id rows := by
    rw [revokedAt_updateWhere keyed, revokedAt]
    apply Option.map_congr
    intro session found
    have mine : session.id = id := by simpa using List.find?_some found
    have miss : ¬ selected session = true := fun hit => foreign (mine.symm.trans (chosen session hit))
    rw [if_neg miss]
  cases statement with
  | createSession session =>
      have foreign : session.id ≠ id := fun same => apart (by simp [IdentityWrite.locks, same])
      have kept : findSession id ((IdentityWrite.createSession session).apply rows) = findSession id rows := by
        simp [findSession, IdentityWrite.apply, List.find?_append, foreign]
      rw [revokedAt, kept, revokedAt]
  | revokeSession wanted now =>
      exact other wanted (fun same => apart (by simp [IdentityWrite.locks, same])) (fun _ => rfl)
        fun session hit => of_decide_eq_true hit
  | revokeOpenSession wanted now =>
      exact other wanted (fun same => apart (by simp [IdentityWrite.locks, same])) (fun _ => rfl)
        fun session hit => (of_decide_eq_true hit).1
  | storeHash wanted refreshTokenHash =>
      exact other wanted (fun same => apart (by simp [IdentityWrite.locks, same])) (fun _ => rfl)
        fun session hit => of_decide_eq_true hit
  | _ => rfl

theorem revokedAt_view {statements : List IdentityWrite}
    (apart : ¬ identityStore.Holds statements (.session id)) (rows : Directory) :
    revokedAt id (identityStore.view statements rows) = revokedAt id rows := by
  induction statements generalizing rows with
  | nil => rfl
  | cons statement rest ih =>
      rw [Store.holds_cons, not_or] at apart
      rw [Store.view_cons, ih apart.2]
      exact revokedAt_apply apart.1 rows

def Revoked (id : SessionId) (rows : Directory) : Prop :=
  ∃ instant, revokedAt id rows = some (some instant)

theorem revoked_iff : Revoked id rows ↔ ∃ session, findSession id rows = some session ∧ session.revokedAt ≠ none := by
  simp only [Revoked, revokedAt, Option.map_eq_some_iff, Option.ne_none_iff_exists']
  constructor
  · intro given
    obtain ⟨instant, session, found, revoked⟩ := given
    exact ⟨session, found, instant, revoked⟩
  · intro given
    obtain ⟨session, found, instant, revoked⟩ := given
    exact ⟨instant, session, found, revoked⟩

/-- Sessions stay, and a revoked one stays revoked. -/
theorem findSession_apply {session : Session} (found : findSession id rows = some session) (statement : IdentityWrite) :
    ∃ later, findSession id (statement.apply rows) = some later ∧
      (session.revokedAt ≠ none → later.revokedAt ≠ none) := by
  have updated {selected : Session → Bool} {change : Session → Session}
      (keyed : ∀ session, (change session).id = session.id)
      (kept : ∀ session, session.revokedAt ≠ none → (change session).revokedAt ≠ none) :
      ∃ later, findSession id { rows with sessions := updateWhere selected change rows.sessions } = some later ∧
        (session.revokedAt ≠ none → later.revokedAt ≠ none) := by
    have there : rows.sessions.find? (fun session => session.id = id) = some session := found
    refine ⟨if selected session then change session else session, ?_, ?_⟩
    · rw [findSession, find?_updateWhere_key keyed, there, Option.map_some]
    · split
      · exact kept session
      · exact fun still => still
  cases statement with
  | createSession added =>
      have there : rows.sessions.find? (fun session => session.id = id) = some session := found
      exact ⟨session, by simp [findSession, IdentityWrite.apply, List.find?_append, there], fun still => still⟩
  | revokeSession wanted now => exact updated (fun _ => rfl) fun _ _ => by simp [revoke]
  | revokeOpenSession wanted now => exact updated (fun _ => rfl) fun _ _ => by simp [revoke]
  | storeHash wanted refreshTokenHash => exact updated (fun _ => rfl) fun _ still => still
  | _ => exact ⟨session, found, fun still => still⟩

theorem findSession_view {session : Session} (found : findSession id rows = some session)
    (statements : List IdentityWrite) :
    ∃ later, findSession id (identityStore.view statements rows) = some later ∧
      (session.revokedAt ≠ none → later.revokedAt ≠ none) := by
  induction statements generalizing rows session with
  | nil => exact ⟨session, found, fun still => still⟩
  | cons statement rest ih =>
      obtain ⟨middle, there, first⟩ := findSession_apply found statement
      obtain ⟨later, last, second⟩ := ih there
      exact ⟨later, last, fun still => second (first still)⟩

theorem Revoked.view (revoked : Revoked id rows) (statements : List IdentityWrite) :
    Revoked id (identityStore.view statements rows) := by
  obtain ⟨session, found, still⟩ := revoked_iff.mp revoked
  obtain ⟨later, there, kept⟩ := findSession_view found statements
  exact revoked_iff.mpr ⟨later, there, kept still⟩

theorem Revoked.replay (revoked : Revoked id rows) (log : List (Committed IdentityWrite (Option Membership))) :
    Revoked id (identityStore.replay rows log) := by
  induction log generalizing rows with
  | nil => exact revoked
  | cons entry rest ih => exact ih (revoked.view entry.statements)

theorem revoked_revokeSession {session : Session} (found : findSession id rows = some session) (now : Instant) :
    Revoked id ((IdentityWrite.revokeSession id now).apply rows) := by
  have same : session.id = id := by simpa using List.find?_some found
  have keyed : ∀ session : Session, (revoke now session).id = session.id := fun _ => rfl
  refine ⟨now, (revokedAt_updateWhere keyed rows).trans ?_⟩
  simp [found, same, revoke]

theorem revoked_of_mem {session : Session} {now : Instant} {statements : List IdentityWrite}
    (found : findSession id rows = some session) (member : IdentityWrite.revokeSession id now ∈ statements) :
    Revoked id (identityStore.view statements rows) := by
  induction statements generalizing rows session with
  | nil => cases member
  | cons statement rest ih =>
      rcases List.mem_cons.mp member with rfl | later
      · exact (revoked_revokeSession found now).view rest
      · obtain ⟨middle, there, _⟩ := findSession_apply found statement
        exact ih there later

end Aicos.Identity

import Aicos.Identity.Service
import Mathlib.Logic.Function.Basic

namespace Aicos.Identity

open Aicos.Commerce Aicos.Data Aicos.Transaction

/-! Logins, signups and refreshes next to each other.  A request advances one
transaction or one computation at a time and may stop anywhere for good. -/

abbrev RequestId := Nat

/-- How far the `issueTokens` of a request has come; `stopped` has left its session behind. -/
inductive IssuePhase where
  | granted (principal : Principal)
  | created (principal : Principal) (id : SessionId)
  | signed (id : SessionId) (refreshToken : String)
  | hashed (id : SessionId) (refreshTokenHash : String)
  | stopped (id : SessionId)

/-- The session inserted and not given its hash yet. -/
def IssuePhase.unfinished : IssuePhase → Option SessionId
  | .granted _ => none
  | .created _ id => some id
  | .signed id _ => some id
  | .hashed id _ => some id
  | .stopped id => some id

/-- `refused` lists the requests whose session clashed on `refreshTokenHash`. -/
structure SignIns where
  directory : Directory
  requests : RequestId → Option IssuePhase
  refused : List RequestId

inductive SignInAction where
  | login (request : RequestId) (dto : LoginDto) (now : Instant)
  | signup (request : RequestId) (dto : SignupDto) (passwordSalt : Nat) (ids : SignupIds) (now : Instant)
  | refresh (request : RequestId) (token : String) (now : Instant)
  | createSession (request : RequestId) (id : SessionId) (now : Instant)
  | sign (request : RequestId) (now : Instant)
  | hash (request : RequestId) (salt : Nat)
  | storeHash (request : RequestId)
  | stop (request : RequestId)

def SignIns.enter (signIns : SignIns) (request : RequestId) (phase : Option IssuePhase) : SignIns :=
  { signIns with requests := Function.update signIns.requests request phase }

/-- The first transaction of a request, and what it grants. -/
def SignIns.open {α : Type} (signIns : SignIns) (request : RequestId) (program : IdentityProgram α)
    (principal : α → Option Principal) : SignIns :=
  match signIns.requests request with
  | some _ => signIns
  | none =>
      match program.alone identityStore signIns.directory with
      | .error _ => signIns
      | .ok (value, directory) =>
          { signIns.enter request ((principal value).map .granted) with directory }

def hashTaken (refreshTokenHash : String) (rows : Directory) : Bool :=
  rows.sessions.any fun session => session.refreshTokenHash = refreshTokenHash

def SignIns.createSession (signIns : SignIns) (refreshTtl : String) (request : RequestId) (principal : Principal)
    (id : SessionId) (now : Instant) : SignIns :=
  let statement := IdentityWrite.createSession (placeholderSession refreshTtl principal id now)
  if statement.admits signIns.directory then
    { signIns.enter request (some (.created principal id)) with directory := statement.apply signIns.directory }
  else if hashTaken "pending" signIns.directory then
    { signIns.enter request none with refused := signIns.refused ++ [request] }
  else signIns.enter request none

def SignIns.storeHash (signIns : SignIns) (request : RequestId) (id : SessionId) (refreshTokenHash : String) : SignIns :=
  let statement := IdentityWrite.storeHash id refreshTokenHash
  if statement.admits signIns.directory then
    { signIns.enter request none with directory := statement.apply signIns.directory }
  else signIns.enter request (some (.stopped id))

def SignIns.step (runtime : Runtime) (config : AuthConfig) (signIns : SignIns) : SignInAction → SignIns
  | .login request dto now => signIns.open request (checkCredentials runtime dto now) id
  | .signup request dto passwordSalt ids now =>
      signIns.open request (provision runtime dto (runtime.hash passwordSalt dto.password) ids now) some
  | .refresh request token now =>
      match runtime.verifyRefresh token now with
      | none => signIns
      | some payload =>
          signIns.open request (consumeSession runtime token payload now) fun membership =>
            membership.map (refreshedPrincipal payload)
  | .createSession request id now =>
      match signIns.requests request with
      | some (.granted principal) => signIns.createSession config.refreshTtl request principal id now
      | _ => signIns
  | .sign request now =>
      match signIns.requests request with
      | some (.created principal id) =>
          signIns.enter request (some (.signed id (runtime.signRefresh (refreshPayload principal id) now)))
      | _ => signIns
  | .hash request salt =>
      match signIns.requests request with
      | some (.signed id refreshToken) =>
          signIns.enter request (some (.hashed id (runtime.hash salt refreshToken)))
      | _ => signIns
  | .storeHash request =>
      match signIns.requests request with
      | some (.hashed id refreshTokenHash) => signIns.storeHash request id refreshTokenHash
      | _ => signIns
  | .stop request =>
      signIns.enter request (((signIns.requests request).bind IssuePhase.unfinished).map .stopped)

def SignIns.start (directory : Directory) : SignIns :=
  { directory, requests := fun _ => none, refused := [] }

/-! Only `issueTokens` writes the hashes of sessions. -/

def Placeholder (id : SessionId) (rows : Directory) : Prop :=
  ∃ session ∈ rows.sessions, session.id = id ∧ session.refreshTokenHash = "pending"

def IdentityWrite.keepsHashes : IdentityWrite → Prop
  | .createSession _ | .storeHash _ _ => False
  | _ => True

def sessionHashes (rows : Directory) : List (SessionId × String) :=
  rows.sessions.map fun session => (session.id, session.refreshTokenHash)

theorem apply_sessionHashes {statement : IdentityWrite} (keeps : statement.keepsHashes) (rows : Directory) :
    sessionHashes (statement.apply rows) = sessionHashes rows := by
  cases statement with
  | createSession session => exact keeps.elim
  | storeHash id refreshTokenHash => exact keeps.elim
  | revokeSession id now => exact map_updateWhere fun _ => rfl
  | revokeOpenSession id now => exact map_updateWhere fun _ => rfl
  | _ => rfl

theorem placeholder_iff {id : SessionId} {rows : Directory} :
    Placeholder id rows ↔ (id, "pending") ∈ sessionHashes rows := by
  simp [Placeholder, sessionHashes]

theorem placeholder_createSession {wanted id : SessionId} {rows : Directory} {refreshTtl : String} {principal : Principal}
    {now : Instant} :
    Placeholder wanted ((IdentityWrite.createSession (placeholderSession refreshTtl principal id now)).apply rows) ↔
      wanted = id ∨ Placeholder wanted rows := by
  simp [Placeholder, IdentityWrite.apply, placeholderSession, or_and_right, exists_or, or_comm, eq_comm]

theorem placeholder_storeHash {wanted id : SessionId} {rows : Directory} {refreshTokenHash : String}
    (fresh : refreshTokenHash ≠ "pending") :
    Placeholder wanted ((IdentityWrite.storeHash id refreshTokenHash).apply rows) ↔
      wanted ≠ id ∧ Placeholder wanted rows := by
  constructor
  · intro given
    obtain ⟨session, member, same, pending⟩ := given
    obtain ⟨old, present, rfl⟩ := mem_updateWhere.mp member
    by_cases hit : old.id = id
    · simp only [hit, decide_true, if_true, withHash] at pending
      exact absurd pending fresh
    · simp only [hit, decide_false] at same pending
      exact ⟨fun equal => hit (same.trans equal), old, present, same, pending⟩
  · intro given
    obtain ⟨apart, session, member, same, pending⟩ := given
    refine ⟨session, mem_updateWhere.mpr ⟨session, member, ?_⟩, same, pending⟩
    simp [same, apart]

theorem alone_sessionHashes {α : Type} {program : IdentityProgram α} {rows after : Directory} {value : α}
    (writes : program.Writes IdentityWrite.keepsHashes)
    (ran : program.alone identityStore rows = .ok (value, after)) : sessionHashes after = sessionHashes rows := by
  have kept : ∀ (statement : IdentityWrite) (now : Directory), statement.keepsHashes →
      identityStore.admits statement now = true → sessionHashes now = sessionHashes rows →
      sessionHashes (identityStore.apply statement now) = sessionHashes rows :=
    fun _ now keeps _ same => (apply_sessionHashes keeps now).trans same
  exact writes.alone identityStore kept rfl ran

theorem checkCredentials_writes (runtime : Runtime) (dto : LoginDto) (now : Instant) :
    (checkCredentials runtime dto now).Writes IdentityWrite.keepsHashes := by
  rw [checkCredentials, Program.writes_query_bind]
  intro rows
  split
  · exact Program.writes_pure _
  · dsimp only
    split
    · exact Program.writes_pure _
    · rw [Program.writes_query_bind]
      intro later
      split
      · exact Program.writes_pure _
      · exact ⟨trivial, trivial⟩

theorem consumeSession_writes (runtime : Runtime) (token : String) (payload : RefreshTokenPayload) (now : Instant) :
    (consumeSession runtime token payload now).Writes IdentityWrite.keepsHashes := by
  rw [consumeSession, Program.writes_query_bind]
  intro rows
  split
  · exact Program.writes_pure _
  · split
    · exact Program.writes_pure _
    · rw [Program.writes_exec_bind, Program.writes_query_bind]
      refine ⟨trivial, fun later => ?_⟩
      split
      · exact Program.writes_pure _
      · split <;> exact Program.writes_pure _

theorem seedRoles_writes (tenantId : TenantId) (definitions : List RoleDefinition) (id : RoleId)
    (ownerRoleId : Option RoleId) : (seedRoles tenantId definitions id ownerRoleId).Writes IdentityWrite.keepsHashes := by
  induction definitions generalizing id ownerRoleId with
  | nil => exact Program.writes_pure _
  | cons definition rest ih => exact ⟨trivial, ih _ _⟩

theorem provision_writes (runtime : Runtime) (dto : SignupDto) (passwordHash : String) (ids : SignupIds)
    (now : Instant) : (provision runtime dto passwordHash ids now).Writes IdentityWrite.keepsHashes := by
  rw [provision, Program.writes_query_bind]
  intro rows
  split
  · exact Program.writes_throw _
  · rw [Program.writes_query_bind]
    intro later
    split
    · exact Program.writes_throw _
    · rw [Program.writes_exec_bind]
      refine ⟨trivial, (seedRoles_writes _ _ _ _).bind fun ownerRoleId => ?_⟩
      cases ownerRoleId with
      | none => exact Program.writes_throw _
      | some id => exact ⟨trivial, trivial, trivial⟩

/-! One user with one membership, and a runtime whose hashes and tokens are plain. -/

def plainRuntime : Runtime where
  hash := fun salt text => String.ofList ('$' :: (List.replicate salt 's' ++ '$' :: text.toList))
  verify := fun hash text => (hash.toList.drop 1).dropWhile (· = 's') = '$' :: text.toList
  signAccess := fun payload _ => payload.email
  signRefresh := fun payload _ =>
    String.ofList (List.replicate payload.sub 'u' ++ List.replicate payload.tid 't' ++ List.replicate payload.sid 's')
  verifyRefresh := fun token _ =>
    some { sub := token.toList.count 'u', tid := token.toList.count 't', sid := token.toList.count 's' }
  toLowerCase := id

def plainConfig : AuthConfig where
  accessTtl := "15m"
  refreshTtl := "30d"

theorem plainRuntime_salted (salt : Nat) (text : String) : plainRuntime.hash salt text ≠ "pending" := by
  intro same
  have chars := congrArg String.toList same
  simp [plainRuntime] at chars

def ada : User where
  id := 1
  email := "ada@example.com"
  emailVerified := true
  passwordHash := some "$$lovelace"
  fullName := none
  status := .active
  lastLoginAt := none
  deletedAt := none

def adaOwns : Membership where
  tenantId := 1
  userId := 1
  roleId := 1
  status := .active
  acceptedAt := none
  createdAt := 0

def adaRows (sessions : List Session) : Directory where
  tenants := [⟨1, "lamps", "Lamps", .active⟩]
  roles := [⟨1, some 1, .storeOwner, "Owner", none, ["*"], true⟩]
  users := [ada]
  memberships := [adaOwns]
  sessions := sessions

def adaLogin : LoginDto where
  email := "ada@example.com"
  password := "lovelace"

end Aicos.Identity

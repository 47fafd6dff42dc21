import Aicos.Data.Text
import Aicos.Identity.Statements
import Mathlib.Data.List.Sort

namespace Aicos.Identity

open Aicos.Commerce Aicos.Data Aicos.Transaction Aicos.Transaction.Program

/-! `AuthService`.  Every database step is a transaction of its own; a request is
several of them with token signing and hashing in between. -/

def normaliseSlug (runtime : Runtime) (input : String) : String :=
  let text := trim (runtime.toLowerCase input)
  let slug := (hyphenated isSlugChar text.toList).take 63
  if slug.length ≥ 3 then String.ofList slug
  else String.ofList (('t' :: '-' :: slug).rightpad 3 '0')

def unitMs : Char → Option Nat
  | 'd' => some 86400000
  | 'h' => some 3600000
  | 'm' => some 60000
  | 's' => some 1000
  | _ => none

/-- A TTL such as `15m` in milliseconds; thirty days where it is none. -/
def ttlToMs (ttl : String) : Nat :=
  let chars := (trim ttl).toList
  let digits := chars.takeWhile Char.isDigit
  let value := digits.foldl (fun value digit => 10 * value + (digit.toNat - '0'.toNat)) 0
  if digits = [] then 30 * 24 * 60 * 60 * 1000
  else
    match chars.dropWhile Char.isDigit with
    | [] => value * 1000
    | [unit] => ((unitMs unit).map (value * ·)).getD (30 * 24 * 60 * 60 * 1000)
    | _ => 30 * 24 * 60 * 60 * 1000

def findUserByEmail (email : String) (rows : Directory) : Option User :=
  rows.users.find? fun user => user.email = email

def findTenantBySlug (slug : String) (rows : Directory) : Option Tenant :=
  rows.tenants.find? fun tenant => tenant.slug = slug

def findSession (id : SessionId) (rows : Directory) : Option Session :=
  rows.sessions.find? fun session => session.id = id

def findMembership (tenantId : TenantId) (userId : UserId) (rows : Directory) : Option Membership :=
  rows.memberships.find? fun membership => membership.tenantId = tenantId ∧ membership.userId = userId

def firstActiveMembership (userId : UserId) (rows : Directory) : Option Membership :=
  ((rows.memberships.filter fun membership => membership.userId = userId ∧ membership.status = .active).insertionSort
    fun first second => first.createdAt ≤ second.createdAt).head?

/-- The cuids `signup` draws; the roles take `role`, `role + 1` and so on. -/
structure SignupIds where
  tenant : TenantId
  role : RoleId
  user : UserId
deriving DecidableEq

/-- The owner's role among the seeded ones. -/
def seedRoles (tenantId : TenantId) : List RoleDefinition → RoleId → Option RoleId →
    IdentityProgram (Option RoleId)
  | [], _, ownerRoleId => pure ownerRoleId
  | definition :: rest, id, ownerRoleId => do
      exec (.createRole {
        id
        tenantId := some tenantId
        type := definition.type
        name := definition.name
        description := some definition.description
        permissions := rolePermissions definition.type
        isSystem := true })
      seedRoles tenantId rest (id + 1) (if definition.type = .storeOwner then some id else ownerRoleId)

/-- The transaction of `signup`. -/
def provision (runtime : Runtime) (dto : SignupDto) (passwordHash : String) (ids : SignupIds) (now : Instant) :
    IdentityProgram Principal := do
  let email := trim (runtime.toLowerCase dto.email)
  let slug := normaliseSlug runtime (dto.tenantSlug.getD dto.tenantName)
  match ← query (findUserByEmail email) with
  | some _ => throw (.conflict "An account with this email already exists")
  | none =>
      match ← query (findTenantBySlug slug) with
      | some _ => throw (.conflict s!"Tenant slug \"{slug}\" is already taken")
      | none =>
          exec (.createTenant { id := ids.tenant, slug, name := trim dto.tenantName, status := .trial })
          match ← seedRoles ids.tenant roleDefinitions ids.role none with
          | none => throw .ownerRoleNotSeeded
          | some ownerRoleId =>
              exec (.createUser {
                id := ids.user
                email
                emailVerified := false
                passwordHash := some passwordHash
                fullName := some (trim dto.fullName)
                status := .active
                lastLoginAt := some now
                deletedAt := none })
              exec (.createMembership {
                tenantId := ids.tenant
                userId := ids.user
                roleId := ownerRoleId
                status := .active
                acceptedAt := some now
                createdAt := now })
              pure { userId := ids.user, tenantId := ids.tenant, roleId := ownerRoleId, email }

/-- The transaction of `login`. -/
def checkCredentials (runtime : Runtime) (dto : LoginDto) (now : Instant) :
    IdentityProgram (Option Principal) := do
  let email := trim (runtime.toLowerCase dto.email)
  match ← query (findUserByEmail email) with
  | none => pure none
  | some user =>
      let passwordHash := user.passwordHash.getD ""
      if passwordHash = "" ∨ user.deletedAt ≠ none ∨ ¬ runtime.verify passwordHash dto.password then pure none
      else
        match ← query (firstActiveMembership user.id) with
        | none => pure none
        | some membership =>
            exec (.setLastLogin user.id now)
            pure (some {
              userId := user.id, tenantId := membership.tenantId, roleId := membership.roleId, email })

/-- The session is live and was opened with this token. -/
def acceptsToken (runtime : Runtime) (token : String) (payload : RefreshTokenPayload) (now : Instant)
    (session : Session) : Bool :=
  session.revokedAt = none ∧ session.userId = payload.sub ∧ now ≤ session.expiresAt ∧
    runtime.verify session.refreshTokenHash token

/-- The transaction of `refresh`; it commits whatever it returns. -/
def consumeSession (runtime : Runtime) (token : String) (payload : RefreshTokenPayload) (now : Instant) :
    IdentityProgram (Option Membership) := do
  match ← query (findSession payload.sid) with
  | none => pure none
  | some session =>
      if ¬ acceptsToken runtime token payload now session then pure none
      else
        exec (.revokeSession session.id now)
        match ← query (findMembership payload.tid payload.sub) with
        | none => pure none
        | some membership => if membership.status ≠ .active then pure none else pure (some membership)

/-- The transaction of `logout`. -/
def revokeOnLogout (payload : RefreshTokenPayload) (now : Instant) : IdentityProgram Unit :=
  exec (.revokeOpenSession payload.sid now)

/-- `new Date(time)`, which is invalid beyond a hundred million days. -/
def newDate (time : Nat) : Option Instant :=
  if time ≤ 8640000000000000 then some time else none

/-- The session row `issueTokens` inserts before there is a token to hash.  `expiresAt` is the time
handed to `new Date`; where `newDate` has none, the insert fails. -/
def placeholderSession (refreshTtl : String) (principal : Principal) (id : SessionId) (now : Instant) : Session where
  id := id
  userId := principal.userId
  refreshTokenHash := "pending"
  expiresAt := now + ttlToMs refreshTtl
  revokedAt := none

def accessPayload (principal : Principal) : AccessTokenPayload where
  sub := principal.userId
  tid := principal.tenantId
  rid := principal.roleId
  email := principal.email

def refreshPayload (principal : Principal) (id : SessionId) : RefreshTokenPayload where
  sub := principal.userId
  tid := principal.tenantId
  sid := id

/-! A request threads the rows through its steps; they outlive a step that fails. -/

inductive AuthStep where
  | hashPassword | transaction | createSession | signAccess | signRefresh | hashToken | storeHash
deriving DecidableEq

inductive AuthFailure where
  | http (error : AuthError)
  | constraint (statement : IdentityWrite)
  | step (failed : AuthStep)
deriving DecidableEq

def Call (α : Type) := Directory → Except AuthFailure α × Directory

namespace Call

variable {α β : Type}

def bind (first : Call α) (rest : α → Call β) : Call β := fun rows =>
  match first rows with
  | (.ok value, after) => rest value after
  | (.error failure, after) => (.error failure, after)

instance : Monad Call where
  pure value := fun rows => (.ok value, rows)
  bind := bind

def fail (failure : AuthFailure) : Call α := fun rows => (.error failure, rows)

end Call

/-- `asSystem`: a transaction that fails leaves nothing behind. -/
def asSystem {α : Type} (fails : AuthStep → Bool) (step : AuthStep) (program : IdentityProgram α) : Call α := fun rows =>
  if fails step then (.error (.step step), rows)
  else
    match program.alone identityStore rows with
    | .ok (value, after) => (.ok value, after)
    | .error (.thrown error) => (.error (.http error), rows)
    | .error (.rejected statement) => (.error (.constraint statement), rows)

def compute {α : Type} (fails : AuthStep → Bool) (step : AuthStep) (value : α) : Call α := fun rows =>
  if fails step then (.error (.step step), rows) else (.ok value, rows)

/-- What a request draws at random: the cuid of its session and argon2's salts. -/
structure Draw where
  sessionId : SessionId
  salt : Nat
deriving DecidableEq

structure AuthConfig where
  accessTtl : String
  refreshTtl : String
deriving DecidableEq

def issueTokens (runtime : Runtime) (config : AuthConfig) (fails : AuthStep → Bool) (principal : Principal)
    (draw : Draw) (now : Instant) : Call TokenPair := do
  asSystem fails .createSession
    (exec (.createSession (placeholderSession config.refreshTtl principal draw.sessionId now)))
  let accessToken ← compute fails .signAccess (runtime.signAccess (accessPayload principal) now)
  let refreshToken ← compute fails .signRefresh (runtime.signRefresh (refreshPayload principal draw.sessionId) now)
  let refreshTokenHash ← compute fails .hashToken (runtime.hash draw.salt refreshToken)
  asSystem fails .storeHash (exec (.storeHash draw.sessionId refreshTokenHash))
  pure { accessToken, refreshToken, tokenType := "Bearer", expiresIn := config.accessTtl }

def signup (runtime : Runtime) (config : AuthConfig) (fails : AuthStep → Bool) (dto : SignupDto)
    (ids : SignupIds) (passwordSalt : Nat) (draw : Draw) (now : Instant) : Call TokenPair := do
  let passwordHash ← compute fails .hashPassword (runtime.hash passwordSalt dto.password)
  let principal ← asSystem fails .transaction (provision runtime dto passwordHash ids now)
  issueTokens runtime config fails principal draw now

def login (runtime : Runtime) (config : AuthConfig) (fails : AuthStep → Bool) (dto : LoginDto)
    (draw : Draw) (now : Instant) : Call TokenPair := do
  match ← asSystem fails .transaction (checkCredentials runtime dto now) with
  | none => Call.fail (.http (.unauthorized "Invalid email or password"))
  | some principal => issueTokens runtime config fails principal draw now

/-- The principal of a refreshed pair; its email is resolved again with each access token. -/
def refreshedPrincipal (payload : RefreshTokenPayload) (membership : Membership) : Principal where
  userId := payload.sub
  tenantId := membership.tenantId
  roleId := membership.roleId
  email := ""

def refresh (runtime : Runtime) (config : AuthConfig) (fails : AuthStep → Bool) (token : String)
    (draw : Draw) (now : Instant) : Call TokenPair :=
  match runtime.verifyRefresh token now with
  | none => Call.fail (.http (.unauthorized "Invalid or expired refresh token"))
  | some payload => do
      match ← asSystem fails .transaction (consumeSession runtime token payload now) with
      | none => Call.fail (.http (.unauthorized "Refresh token is no longer valid"))
      | some membership => issueTokens runtime config fails (refreshedPrincipal payload membership) draw now

/-- `logout` always succeeds; what its steps throw is caught. -/
def logout (runtime : Runtime) (fails : AuthStep → Bool) (token : String) (now : Instant) : Call Bool := fun rows =>
  match runtime.verifyRefresh token now with
  | none => (.ok true, rows)
  | some payload => (.ok true, (asSystem fails .transaction (revokeOnLogout payload now) rows).2)

end Aicos.Identity

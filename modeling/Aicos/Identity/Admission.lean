import Aicos.Identity.Cookies

namespace Aicos.Identity

open Aicos.Commerce

/-! What stands before a handler: `TenantMiddleware`, then the global guards in their
order, which are the throttler, `CsrfGuard`, `JwtAuthGuard` with its strategy, and
`RolesGuard`. -/

/-- A request as the guards read it, with cookie-parser's cookies.  The tenant header is
absent where it is empty. -/
structure ApiRequest where
  method : String
  cookies : String → Option String
  csrfToken : Option String
  authorization : Option String
  tenantHeader : Option TenantId

/-- The decorators of a handler and its controller. -/
structure Route where
  isPublic : Bool
  permissions : List String
deriving DecidableEq

inductive Refusal where
  | tooManyRequests
  | unauthorized (message : String)
  | forbidden (message : String)
  /-- A membership whose user or role is missing. -/
  | inconsistent
deriving DecidableEq

/-- passport-jwt's reading of an `Authorization` header, and the check of an access
token: its RS256 signature and its expiry. -/
structure AccessTokens where
  fromAuthHeader : String → Option String
  verify : String → Instant → Option AccessTokenPayload

structure TenantStore where
  tenantId : Option TenantId
  userId : Option UserId
  roleId : Option RoleId
deriving DecidableEq

/-- Who `request.user` is. -/
structure AuthenticatedUser where
  userId : UserId
  tenantId : TenantId
  email : String
  roleId : RoleId
  roleType : RoleType
  permissions : List String
deriving DecidableEq

/-- A string that JavaScript takes for true. -/
def truthy (text : Option String) : Bool :=
  text.any fun chars => chars ≠ ""

namespace TenantMiddleware

def extractBearer (header : String) : Option String :=
  match header.toList.splitOn ' ' with
  | scheme :: value :: _ =>
      if String.ofList (scheme.map Char.toLower) ≠ "bearer" ∨ value = [] then none else some (String.ofList value)
  | _ => none

/-- The store of a request; a token that does not verify leaves it empty. -/
def use (tokens : AccessTokens) (request : ApiRequest) (now : Instant) : TenantStore :=
  match (request.authorization.bind extractBearer).bind (tokens.verify · now) with
  | some claims => { tenantId := some claims.tid, userId := some claims.sub, roleId := some claims.rid }
  | none => { tenantId := request.tenantHeader, userId := none, roleId := none }

end TenantMiddleware

def safeMethods : List String := ["GET", "HEAD", "OPTIONS"]

/-- The request carries a browser session. -/
def cookieAuthed (request : ApiRequest) : Bool :=
  truthy (request.cookies accessCookie) || truthy (request.cookies refreshCookie)

def csrfGuard (request : ApiRequest) : Except Refusal Unit :=
  let cookieToken := request.cookies csrfCookie
  let headerToken := request.csrfToken
  if request.method ∈ safeMethods then pure ()
  else if ¬ cookieAuthed request then pure ()
  else if ¬ truthy cookieToken ∨ ¬ truthy headerToken ∨ cookieToken ≠ headerToken then
    throw (.forbidden "CSRF token missing or invalid")
  else pure ()

/-- `ExtractJwt.fromExtractors`: the cookie, and the header where there is none. -/
def presentedToken (tokens : AccessTokens) (request : ApiRequest) : Option String :=
  match request.cookies accessCookie with
  | some token => if token = "" then request.authorization.bind tokens.fromAuthHeader else some token
  | none => request.authorization.bind tokens.fromAuthHeader

def findUser (id : UserId) (rows : Directory) : Option User :=
  rows.users.find? fun user => user.id = id

def findRole (id : RoleId) (rows : Directory) : Option Role :=
  rows.roles.find? fun role => role.id = id

/-- `JwtStrategy.validate`: the membership and its role as the database has them now. -/
def validate (payload : AccessTokenPayload) (rows : Directory) : Except Refusal AuthenticatedUser :=
  match findMembership payload.tid payload.sub rows with
  | none => throw (.unauthorized "Membership is not active")
  | some membership =>
      match findUser membership.userId rows, findRole membership.roleId rows with
      | some user, some role =>
          if membership.status ≠ .active then throw (.unauthorized "Membership is not active")
          else if user.deletedAt ≠ none then throw (.unauthorized "User account is disabled")
          else pure {
            userId := membership.userId
            tenantId := membership.tenantId
            email := user.email
            roleId := membership.roleId
            roleType := role.type
            permissions := role.permissions }
      | _, _ => throw .inconsistent

def jwtAuthGuard (tokens : AccessTokens) (route : Route) (request : ApiRequest) (now : Instant) (rows : Directory) :
    Except Refusal (Option AuthenticatedUser) :=
  if route.isPublic then pure none
  else
    match (presentedToken tokens request).bind (tokens.verify · now) with
    | none => throw (.unauthorized "Authentication required")
    | some payload => do
        let user ← validate payload rows
        pure (some user)

/-- `required.split(':')[0]`. -/
def resourceOf (required : String) : String :=
  String.ofList (required.toList.takeWhile (· ≠ ':'))

def isPermissionGranted (required : String) (granted : List String) : Bool :=
  if "*" ∈ granted ∨ "*:*" ∈ granted then true
  else if required ∈ granted then true
  else resourceOf required ++ ":*" ∈ granted

def rolesGuard (route : Route) (user : Option AuthenticatedUser) : Except Refusal Unit :=
  if route.permissions = [] then pure ()
  else
    match user with
    | none => throw (.forbidden "Missing authenticated principal")
    | some user =>
        if route.permissions.all (isPermissionGranted · user.permissions) then pure ()
        else throw (.forbidden ("Insufficient permissions: requires " ++ String.intercalate ", " route.permissions))

/-- What a handler is called with, if it is called; `withinLimit` is the throttler's answer. -/
def canActivate (tokens : AccessTokens) (withinLimit : Bool) (route : Route) (request : ApiRequest) (now : Instant)
    (rows : Directory) : Except Refusal (Option AuthenticatedUser) :=
  if ¬ withinLimit then throw .tooManyRequests
  else do
    csrfGuard request
    let user ← jwtAuthGuard tokens route request now rows
    rolesGuard route user
    pure user

/-- `@CurrentTenant()`. -/
def currentTenant (user : Option AuthenticatedUser) : Option TenantId :=
  user.map (·.tenantId)

/-! What each guard lets through. -/

section Guards

variable {tokens : AccessTokens} {route : Route} {request : ApiRequest} {now : Instant} {rows : Directory}

/-- The header repeats the cookie, which another origin cannot read. -/
def Echoed (request : ApiRequest) : Prop :=
  truthy request.csrfToken = true ∧ request.cookies csrfCookie = request.csrfToken

theorem csrfGuard_ok_iff :
    csrfGuard request = .ok () ↔
      request.method ∈ safeMethods ∨ cookieAuthed request = false ∨ Echoed request := by
  unfold csrfGuard Echoed
  dsimp only
  by_cases safe : request.method ∈ safeMethods
  · simp [safe, pure, Except.pure]
  · cases authed : cookieAuthed request with
    | false => simp [safe, pure, Except.pure]
    | true =>
        by_cases same : request.cookies csrfCookie = request.csrfToken
        · cases filled : truthy request.csrfToken <;>
            simp [safe, same, filled, pure, Except.pure, throw, throwThe, MonadExceptOf.throw]
        · simp [safe, same, throw, throwThe, MonadExceptOf.throw]

/-- The member that a token speaks for, as the rows have it. -/
def Member (rows : Directory) (payload : AccessTokenPayload) (user : AuthenticatedUser) : Prop :=
  ∃ membership account role,
    findMembership payload.tid payload.sub rows = some membership ∧ membership.status = .active ∧
      findUser membership.userId rows = some account ∧ account.deletedAt = none ∧
      findRole membership.roleId rows = some role ∧
      user = {
        userId := membership.userId
        tenantId := membership.tenantId
        email := account.email
        roleId := membership.roleId
        roleType := role.type
        permissions := role.permissions }

theorem validate_ok_iff {payload : AccessTokenPayload} {user : AuthenticatedUser} :
    validate payload rows = .ok user ↔ Member rows payload user := by
  constructor
  · intro valid
    unfold validate at valid
    cases found : findMembership payload.tid payload.sub rows with
    | none => simp [found, throw, throwThe, MonadExceptOf.throw] at valid
    | some membership =>
        rw [found] at valid
        dsimp only at valid
        split at valid
        · rename_i account role account_found role_found
          split at valid
          · cases valid
          · rename_i active
            split at valid
            · cases valid
            · rename_i enabled
              cases valid
              exact ⟨membership, account, role, found, not_not.mp active, account_found, not_not.mp enabled,
                role_found, rfl⟩
        · cases valid
  · intro member
    obtain ⟨membership, account, role, found, active, account_found, enabled, role_found, rfl⟩ := member
    simp [validate, found, active, account_found, enabled, role_found, pure, Except.pure]

theorem rolesGuard_ok_iff {user : Option AuthenticatedUser} :
    rolesGuard route user = .ok () ↔
      route.permissions = [] ∨
        ∃ principal, user = some principal ∧
          ∀ required ∈ route.permissions, isPermissionGranted required principal.permissions = true := by
  unfold rolesGuard
  by_cases none : route.permissions = []
  · simp [none, pure, Except.pure]
  · cases user with
    | none => simp [none, throw, throwThe, MonadExceptOf.throw]
    | some principal =>
        simp [none, pure, Except.pure, throw, throwThe, MonadExceptOf.throw]

/-- More grants never take a permission away. -/
theorem isPermissionGranted_mono {few many : List String} (subset : few ⊆ many) {required : String}
    (granted : isPermissionGranted required few = true) : isPermissionGranted required many = true := by
  have reasons (grants : List String) : isPermissionGranted required grants = true ↔
      ("*" ∈ grants ∨ "*:*" ∈ grants) ∨ required ∈ grants ∨ resourceOf required ++ ":*" ∈ grants := by
    unfold isPermissionGranted
    split
    · rename_i global
      simp [global]
    · rename_i global
      split <;> rename_i exact <;> simp [global, exact]
  rw [reasons] at granted ⊢
  exact granted.imp (Or.imp (@subset _) (@subset _)) (Or.imp (@subset _) (@subset _))

theorem isPermissionGranted_owner (required : String) :
    isPermissionGranted required (rolePermissions .storeOwner) = true := by
  simp [isPermissionGranted, rolePermissions]

end Guards

end Aicos.Identity

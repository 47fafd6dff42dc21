import Aicos.Commerce.Schema

namespace Aicos.Identity

open Aicos.Commerce

/-! The global rows of `AuthService`: tenants with their roles, users, memberships and sessions. -/

abbrev UserId := Nat
abbrev RoleId := Nat
abbrev SessionId := Nat

inductive TenantStatus where
  | trial | active | pastDue | suspended | cancelled
deriving DecidableEq

inductive UserStatus where
  | invited | active | disabled
deriving DecidableEq

inductive RoleType where
  | platformSuperAdmin | agencyReseller | storeOwner | storeManager | storeStaff | custom
deriving DecidableEq

inductive MembershipStatus where
  | pending | active | revoked
deriving DecidableEq

structure Tenant where
  id : TenantId
  slug : String
  name : String
  status : TenantStatus
deriving DecidableEq

structure Role where
  id : RoleId
  tenantId : Option TenantId
  type : RoleType
  name : String
  description : Option String
  permissions : List String
  isSystem : Bool
deriving DecidableEq

structure User where
  id : UserId
  email : String
  emailVerified : Bool
  passwordHash : Option String
  fullName : Option String
  status : UserStatus
  lastLoginAt : Option Instant
  deletedAt : Option Instant
deriving DecidableEq

structure Membership where
  tenantId : TenantId
  userId : UserId
  roleId : RoleId
  status : MembershipStatus
  acceptedAt : Option Instant
  createdAt : Instant
deriving DecidableEq

structure Session where
  id : SessionId
  userId : UserId
  refreshTokenHash : String
  expiresAt : Instant
  revokedAt : Option Instant
deriving DecidableEq

structure Directory where
  tenants : List Tenant
  roles : List Role
  users : List User
  memberships : List Membership
  sessions : List Session
deriving DecidableEq

structure RoleDefinition where
  type : RoleType
  name : String
  description : String
deriving DecidableEq

def roleDefinitions : List RoleDefinition := [
  ⟨.storeOwner, "Owner", "Full control of the tenant, billing and team."⟩,
  ⟨.storeManager, "Manager", "Manages catalog, orders and team members."⟩,
  ⟨.storeStaff, "Staff", "Day-to-day operational access."⟩]

def rolePermissions : RoleType → List String
  | .storeOwner => ["*"]
  | .storeManager => [
      "user:read", "user:write", "role:read", "billing:read", "catalog:read", "catalog:write",
      "inventory:read", "inventory:write", "media:read", "media:write", "order:read", "order:write",
      "payment:read", "payment:write", "customer:read", "customer:write", "shipping:read",
      "shipping:write", "return:read", "return:write", "gdpr:read", "gdpr:write", "import:write"]
  | .storeStaff => [
      "user:read", "catalog:read", "inventory:read", "inventory:write", "media:read", "order:read",
      "customer:read", "shipping:read", "shipping:write", "return:read"]
  | _ => []

structure SignupDto where
  email : String
  password : String
  fullName : String
  tenantName : String
  tenantSlug : Option String
deriving DecidableEq

structure LoginDto where
  email : String
  password : String
deriving DecidableEq

/-- The claims of a refresh token: user, tenant, and the session it is bound to. -/
structure RefreshTokenPayload where
  sub : UserId
  tid : TenantId
  sid : SessionId
deriving DecidableEq

structure AccessTokenPayload where
  sub : UserId
  tid : TenantId
  rid : RoleId
  email : String
deriving DecidableEq

/-- Who a token pair is issued to. -/
structure Principal where
  userId : UserId
  tenantId : TenantId
  roleId : RoleId
  email : String
deriving DecidableEq

structure TokenPair where
  accessToken : String
  refreshToken : String
  tokenType : String
  expiresIn : String
deriving DecidableEq

/-- argon2 and the JWT service, which are packages, and the Unicode lower-casing
of the runtime.  `verifyRefresh` checks signature and expiry. -/
structure Runtime where
  hash : Nat → String → String
  verify : String → String → Bool
  signAccess : AccessTokenPayload → Instant → String
  signRefresh : RefreshTokenPayload → Instant → String
  verifyRefresh : String → Instant → Option RefreshTokenPayload
  toLowerCase : String → String

inductive AuthError where
  | conflict (message : String)
  | unauthorized (message : String)
  | ownerRoleNotSeeded
deriving DecidableEq

end Aicos.Identity

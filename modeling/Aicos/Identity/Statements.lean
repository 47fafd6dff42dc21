import Aicos.Data.Rows
import Aicos.Identity.Schema
import Aicos.Transaction.Program

namespace Aicos.Identity

open Aicos.Commerce Aicos.Data Aicos.Transaction

/-! The statements of `AuthService`, all run with row-level security bypassed. -/

inductive IdentityWrite where
  | createTenant (tenant : Tenant)
  | createRole (role : Role)
  | createUser (user : User)
  | createMembership (membership : Membership)
  | setLastLogin (id : UserId) (now : Instant)
  | createSession (session : Session)
  /-- `session.update({ where: { id } })`, whatever the row says by then. -/
  | revokeSession (id : SessionId) (now : Instant)
  /-- `session.updateMany({ where: { id, revokedAt: null } })`. -/
  | revokeOpenSession (id : SessionId) (now : Instant)
  | storeHash (id : SessionId) (refreshTokenHash : String)
deriving DecidableEq

/-- A row lock, or an entry of a unique index. -/
inductive IdentityKey where
  | tenant (id : TenantId)
  | slug (slug : String)
  | role (id : RoleId)
  | roleName (tenantId : Option TenantId) (name : String)
  | user (id : UserId)
  | email (email : String)
  | membership (tenantId : TenantId) (userId : UserId)
  | session (id : SessionId)
  | refreshTokenHash (refreshTokenHash : String)
deriving DecidableEq

def revoke (now : Instant) (session : Session) : Session :=
  { session with revokedAt := some now }

def withHash (refreshTokenHash : String) (session : Session) : Session :=
  { session with refreshTokenHash }

def IdentityWrite.apply : IdentityWrite → Directory → Directory
  | .createTenant tenant, rows => { rows with tenants := rows.tenants ++ [tenant] }
  | .createRole role, rows => { rows with roles := rows.roles ++ [role] }
  | .createUser user, rows => { rows with users := rows.users ++ [user] }
  | .createMembership membership, rows => { rows with memberships := rows.memberships ++ [membership] }
  | .setLastLogin id now, rows =>
      { rows with
        users := updateWhere (fun user => user.id = id)
          (fun user => { user with lastLoginAt := some now }) rows.users }
  | .createSession session, rows => { rows with sessions := rows.sessions ++ [session] }
  | .revokeSession id now, rows =>
      { rows with sessions := updateWhere (fun session => session.id = id) (revoke now) rows.sessions }
  | .revokeOpenSession id now, rows =>
      { rows with
        sessions := updateWhere (fun session => session.id = id ∧ session.revokedAt = none) (revoke now)
          rows.sessions }
  | .storeHash id refreshTokenHash, rows =>
      { rows with
        sessions := updateWhere (fun session => session.id = id) (withHash refreshTokenHash) rows.sessions }

/-- The unique columns and the foreign keys; the row an update names has to exist. -/
def IdentityWrite.admits : IdentityWrite → Directory → Bool
  | .createTenant tenant, rows => rows.tenants.all fun other => other.id ≠ tenant.id ∧ other.slug ≠ tenant.slug
  | .createRole role, rows =>
      rows.roles.all fun other =>
        other.id ≠ role.id ∧ ¬ (role.tenantId ≠ none ∧ other.tenantId = role.tenantId ∧ other.name = role.name)
  | .createUser user, rows => rows.users.all fun other => other.id ≠ user.id ∧ other.email ≠ user.email
  | .createMembership membership, rows =>
      rows.memberships.all (fun other =>
        ¬ (other.tenantId = membership.tenantId ∧ other.userId = membership.userId)) ∧
      (rows.tenants.any (fun tenant => tenant.id = membership.tenantId)) ∧
      (rows.users.any (fun user => user.id = membership.userId)) ∧
      rows.roles.any fun role => role.id = membership.roleId
  | .setLastLogin id _, rows => rows.users.any fun user => user.id = id
  | .createSession session, rows =>
      rows.sessions.all (fun other =>
        other.id ≠ session.id ∧ other.refreshTokenHash ≠ session.refreshTokenHash) ∧
      rows.users.any fun user => user.id = session.userId
  | .revokeSession id _, rows => rows.sessions.any fun session => session.id = id
  | .revokeOpenSession _ _, _ => true
  | .storeHash id refreshTokenHash, rows =>
      (rows.sessions.any fun session => session.id = id) ∧
      rows.sessions.all fun other => other.id = id ∨ other.refreshTokenHash ≠ refreshTokenHash

def IdentityWrite.locks : IdentityWrite → List IdentityKey
  | .createTenant tenant => [.tenant tenant.id, .slug tenant.slug]
  | .createRole role => [.role role.id, .roleName role.tenantId role.name]
  | .createUser user => [.user user.id, .email user.email]
  | .createMembership membership => [.membership membership.tenantId membership.userId]
  | .setLastLogin id _ => [.user id]
  | .createSession session => [.session session.id, .refreshTokenHash session.refreshTokenHash]
  | .revokeSession id _ => [.session id]
  | .revokeOpenSession id _ => [.session id]
  | .storeHash id refreshTokenHash => [.session id, .refreshTokenHash refreshTokenHash]

def identityStore : Store Directory IdentityWrite IdentityKey where
  apply := IdentityWrite.apply
  admits := IdentityWrite.admits
  locks := IdentityWrite.locks

abbrev IdentityProgram (α : Type) := Program Directory IdentityWrite AuthError α

end Aicos.Identity

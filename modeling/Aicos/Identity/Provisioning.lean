import Aicos.Identity.Admission
import Aicos.Identity.Sessions
import Aicos.Identity.SignIns
import Aicos.Transaction.Certified
import Mathlib.Data.List.Nodup

namespace Aicos.Identity

open Aicos.Commerce Aicos.Data Aicos.Transaction

/-! Tenants with their roles and members over all transactions of `AuthService`. -/

inductive AuthTransaction where
  | signup (dto : SignupDto) (passwordHash : String) (ids : SignupIds) (now : Instant)
  | login (dto : LoginDto) (now : Instant)
  | session (request : SessionRequest)

def AuthTransaction.program (runtime : Runtime) : AuthTransaction → IdentityProgram Unit
  | .signup dto passwordHash ids now => (provision runtime dto passwordHash ids now).discard
  | .login dto now => (checkCredentials runtime dto now).discard
  | .session request => (request.program runtime).discard

/-- The keys of the rows that say who may do what. -/
structure UniqueRows (rows : Directory) : Prop where
  roles : (rows.roles.map (·.id)).Nodup
  users : (rows.users.map (·.id)).Nodup
  memberships : (rows.memberships.map fun membership => (membership.tenantId, membership.userId)).Nodup

/-- An active member with the owner's role, whose account is not disabled. -/
def Owned (rows : Directory) (tenant : Tenant) : Prop :=
  ∃ membership ∈ rows.memberships, membership.tenantId = tenant.id ∧ membership.status = .active ∧
    (∃ user ∈ rows.users, user.id = membership.userId ∧ user.deletedAt = none) ∧
    ∃ role ∈ rows.roles, role.id = membership.roleId ∧ role.type = .storeOwner

structure Provisioned (rows : Directory) : Prop where
  keyed : UniqueRows rows
  owned : ∀ tenant ∈ rows.tenants, Owned rows tenant
  ownRoles : ∀ membership ∈ rows.memberships, ∃ role ∈ rows.roles, role.id = membership.roleId ∧
    role.tenantId = some membership.tenantId
  seeded : ∀ role ∈ rows.roles, role.permissions = rolePermissions role.type

/-- What a signup writes. -/
def signupWrites (ids : SignupIds) (tenant : Tenant) (user : User) (now : Instant) : List IdentityWrite :=
  let role (id : RoleId) (definition : RoleDefinition) : IdentityWrite := .createRole {
    id
    tenantId := some ids.tenant
    type := definition.type
    name := definition.name
    description := some definition.description
    permissions := rolePermissions definition.type
    isSystem := true }
  [.createTenant tenant] ++ (roleDefinitions.mapIdx fun index definition => role (ids.role + index) definition) ++
    [.createUser user, .createMembership {
      tenantId := ids.tenant
      userId := ids.user
      roleId := ids.role
      status := .active
      acceptedAt := some now
      createdAt := now }]

/-- The statements that leave tenants, roles and memberships alone. -/
def IdentityWrite.keepsMembers : IdentityWrite → Prop
  | .setLastLogin _ _ | .createSession _ | .revokeSession _ _ | .revokeOpenSession _ _ | .storeHash _ _ => True
  | _ => False

/-- The columns of a user that a login does not touch. -/
def logins (rows : Directory) : List (UserId × Option Instant) :=
  rows.users.map fun user => (user.id, user.deletedAt)

theorem apply_keepsMembers {statement : IdentityWrite} (keeps : statement.keepsMembers) (rows : Directory) :
    (statement.apply rows).tenants = rows.tenants ∧ (statement.apply rows).roles = rows.roles ∧
      (statement.apply rows).memberships = rows.memberships ∧ logins (statement.apply rows) = logins rows := by
  cases statement with
  | setLastLogin id now => exact ⟨rfl, rfl, rfl, map_updateWhere fun _ => rfl⟩
  | createTenant _ | createRole _ | createUser _ | createMembership _ => exact keeps.elim
  | _ => exact ⟨rfl, rfl, rfl, rfl⟩

theorem owned_congr {before after : Directory} {tenant : Tenant} (roles : after.roles = before.roles)
    (memberships : after.memberships = before.memberships) (same : logins after = logins before) :
    Owned after tenant ↔ Owned before tenant := by
  have enabled (rows : Directory) (id : UserId) :
      (∃ user ∈ rows.users, user.id = id ∧ user.deletedAt = none) ↔ (id, none) ∈ logins rows := by
    simp [logins]
  simp only [Owned, enabled, roles, memberships, same]

theorem Provisioned.keepsMembers {rows : Directory} {statement : IdentityWrite} (provisioned : Provisioned rows)
    (keeps : statement.keepsMembers) : Provisioned (statement.apply rows) := by
  obtain ⟨tenants, roles, memberships, same⟩ := apply_keepsMembers keeps rows
  have ids : (statement.apply rows).users.map (·.id) = rows.users.map (·.id) := by
    have firsts := congrArg (List.map Prod.fst) same
    simpa [logins, Function.comp_def] using firsts
  refine ⟨⟨?_, ?_, ?_⟩, ?_, ?_, ?_⟩
  · rw [roles]
    exact provisioned.keyed.roles
  · rw [ids]
    exact provisioned.keyed.users
  · rw [memberships]
    exact provisioned.keyed.memberships
  · intro tenant member
    rw [tenants] at member
    exact (owned_congr roles memberships same).mpr (provisioned.owned tenant member)
  · rw [roles, memberships]
    exact provisioned.ownRoles
  · rw [roles]
    exact provisioned.seeded

theorem Provisioned.keepsMembers_view {statements : List IdentityWrite}
    (keeps : ∀ statement ∈ statements, statement.keepsMembers) {rows : Directory} (provisioned : Provisioned rows) :
    Provisioned (identityStore.view statements rows) := by
  induction statements generalizing rows with
  | nil => exact provisioned
  | cons statement rest ih =>
      have first := provisioned.keepsMembers (keeps statement (List.mem_cons_self ..))
      exact ih (fun other member => keeps other (List.mem_cons_of_mem _ member)) first

/-- The rows of a signup next to those that were there. -/
structure SignedUp (ids : SignupIds) (before after : Directory) : Prop where
  tenants : ∃ tenant : Tenant, tenant.id = ids.tenant ∧ after.tenants = before.tenants ++ [tenant]
  roles : ∃ roles : List Role, after.roles = before.roles ++ roles ∧
    (∀ role ∈ roles, role.tenantId = some ids.tenant ∧ role.permissions = rolePermissions role.type) ∧
    ∃ role ∈ roles, role.id = ids.role ∧ role.type = .storeOwner
  users : ∃ user : User, user.id = ids.user ∧ user.deletedAt = none ∧ after.users = before.users ++ [user]
  memberships : ∃ membership : Membership, membership.tenantId = ids.tenant ∧ membership.userId = ids.user ∧
    membership.roleId = ids.role ∧ membership.status = .active ∧
    after.memberships = before.memberships ++ [membership]

theorem signedUp_view (ids : SignupIds) {tenant : Tenant} {user : User} (now : Instant) (named : tenant.id = ids.tenant)
    (person : user.id = ids.user) (enabled : user.deletedAt = none) (rows : Directory) :
    SignedUp ids rows (identityStore.view (signupWrites ids tenant user now) rows) := by
  refine ⟨⟨tenant, named, rfl⟩, ?_, ⟨user, person, enabled, rfl⟩, ⟨_, rfl, rfl, rfl, rfl, rfl⟩⟩
  refine ⟨_, by
    simp only [signupWrites, roleDefinitions, List.mapIdx_cons, List.mapIdx_nil, List.cons_append, List.nil_append,
      Store.view_cons, Store.view_nil, identityStore, IdentityWrite.apply, List.append_assoc]
    rfl, ?_, ?_⟩
  · simp
  · simp

theorem nodup_map_concat {α β : Type} {key : α → β} {rows : List α} {row : α} (distinct : (rows.map key).Nodup)
    (fresh : ∀ other ∈ rows, key other ≠ key row) : ((rows ++ [row]).map key).Nodup := by
  rw [List.map_append, List.map_singleton, List.nodup_append]
  refine ⟨distinct, List.nodup_singleton _, ?_⟩
  intro first member second last
  obtain ⟨other, present, rfl⟩ := List.mem_map.mp member
  obtain rfl := List.mem_singleton.mp last
  exact fresh other present

/-- The unique keys are what `admits` checks. -/
theorem UniqueRows.apply {rows : Directory} {statement : IdentityWrite} (keyed : UniqueRows rows)
    (admitted : statement.admits rows = true) : UniqueRows (statement.apply rows) := by
  cases statement with
  | createRole role =>
      refine ⟨nodup_map_concat keyed.roles fun other member => ?_, keyed.users, keyed.memberships⟩
      have apart := List.all_eq_true.mp admitted other member
      simp only [decide_eq_true_eq] at apart
      exact apart.1
  | createUser user =>
      refine ⟨keyed.roles, nodup_map_concat keyed.users fun other member => ?_, keyed.memberships⟩
      have apart := List.all_eq_true.mp admitted other member
      simp only [decide_eq_true_eq] at apart
      exact apart.1
  | createMembership membership =>
      refine ⟨keyed.roles, keyed.users, nodup_map_concat keyed.memberships fun other member same => ?_⟩
      simp only [IdentityWrite.admits, decide_eq_true_eq] at admitted
      have apart := List.all_eq_true.mp admitted.1 other member
      simp only [decide_eq_true_eq] at apart
      exact apart (Prod.mk.inj same)
  | setLastLogin id now =>
      refine ⟨keyed.roles, ?_, keyed.memberships⟩
      have same : (((IdentityWrite.setLastLogin id now).apply rows).users).map (·.id) = rows.users.map (·.id) :=
        map_updateWhere fun _ => rfl
      rw [same]
      exact keyed.users
  | _ => exact ⟨keyed.roles, keyed.users, keyed.memberships⟩

theorem Provisioned.signedUp {ids : SignupIds} {before after : Directory} (provisioned : Provisioned before)
    (keyed : UniqueRows after) (signedUp : SignedUp ids before after) : Provisioned after := by
  obtain ⟨tenant, named, tenants⟩ := signedUp.tenants
  obtain ⟨added, roles, seeded, owner, present, ownerId, owns⟩ := signedUp.roles
  obtain ⟨user, person, enabled, users⟩ := signedUp.users
  obtain ⟨membership, of_tenant, of_user, of_role, active, memberships⟩ := signedUp.memberships
  have kept : ∀ old, Owned before old → Owned after old := by
    intro old owned
    obtain ⟨row, member, mine, live, ⟨account, known, same, open_⟩, role, there, key, type⟩ := owned
    exact ⟨row, by simp [memberships, member], mine, live, ⟨account, by simp [users, known], same, open_⟩,
      role, by simp [roles, there], key, type⟩
  refine ⟨keyed, ?_, ?_, ?_⟩
  · intro other member
    rw [tenants] at member
    cases List.mem_append.mp member with
    | inl old => exact kept other (provisioned.owned other old)
    | inr last =>
        obtain rfl := List.mem_singleton.mp last
        refine ⟨membership, by simp [memberships], of_tenant.trans named.symm, active, ?_, ?_⟩
        · exact ⟨user, by simp [users], person.trans of_user.symm, enabled⟩
        · exact ⟨owner, by simp [roles, present], ownerId.trans of_role.symm, owns⟩
  · intro row member
    rw [memberships] at member
    cases List.mem_append.mp member with
    | inl old =>
        obtain ⟨role, there, key, own⟩ := provisioned.ownRoles row old
        exact ⟨role, by simp [roles, there], key, own⟩
    | inr last =>
        obtain rfl := List.mem_singleton.mp last
        exact ⟨owner, by simp [roles, present], ownerId.trans of_role.symm, by
          rw [(seeded owner present).1, of_tenant]⟩
  · intro role member
    rw [roles] at member
    cases List.mem_append.mp member with
    | inl old => exact provisioned.seeded role old
    | inr new => exact (seeded role new).2

end Aicos.Identity

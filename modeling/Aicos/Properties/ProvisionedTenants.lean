import Aicos.Commerce.Tables
import Aicos.Identity.Provisioning

namespace Aicos.Properties

open Aicos.Commerce Aicos.Data Aicos.Identity Aicos.Transaction Aicos.Transaction.Certified
open Aicos.Transition

/-! Who may do what, in every state that signups, logins, refreshes and logouts lead to. -/

/-- Nobody is locked out of a tenant, and nobody acts outside the tenant of their role. -/
structure Governed (rows : Directory) : Prop where
  /-- Each tenant has a member whom the guards of no route turn away. -/
  sovereign : ∀ tenant ∈ rows.tenants, ∃ owner, ∀ rid email, ∃ principal,
    validate { sub := owner, tid := tenant.id, rid, email } rows = .ok principal ∧
      ∀ route, rolesGuard route (some principal) = .ok ()
  /-- A principal's grants are the seeded ones of a role of its own tenant. -/
  confined : ∀ payload principal, validate payload rows = .ok principal →
    (∃ role ∈ rows.roles, role.id = principal.roleId ∧ role.tenantId = some principal.tenantId) ∧
      principal.permissions = rolePermissions principal.roleType
  /-- What is open to staff is open to managers. -/
  nested : ∀ staffToken managerToken staff manager, validate staffToken rows = .ok staff →
    validate managerToken rows = .ok manager → staff.roleType = .storeStaff → manager.roleType = .storeManager →
      ∀ route, rolesGuard route (some staff) = .ok () → rolesGuard route (some manager) = .ok ()

section Rows

variable {rows : Directory}

theorem staff_subset_manager : rolePermissions .storeStaff ⊆ rolePermissions .storeManager := by
  decide

theorem confined_of_provisioned (provisioned : Provisioned rows) {payload : AccessTokenPayload}
    {principal : AuthenticatedUser} (valid : validate payload rows = .ok principal) :
    (∃ role ∈ rows.roles, role.id = principal.roleId ∧ role.tenantId = some principal.tenantId) ∧
      principal.permissions = rolePermissions principal.roleType := by
  obtain ⟨membership, account, role, found, _, _, _, role_found, rfl⟩ := validate_ok_iff.mp valid
  have member := List.mem_of_find?_eq_some found
  have present := List.mem_of_find?_eq_some role_found
  have key : role.id = membership.roleId := by simpa using List.find?_some role_found
  refine ⟨?_, provisioned.seeded role present⟩
  obtain ⟨other, there, same, own⟩ := provisioned.ownRoles membership member
  exact ⟨other, there, same, own⟩

theorem governed_of_provisioned (provisioned : Provisioned rows) : Governed rows := by
  refine ⟨?_, fun payload principal => confined_of_provisioned provisioned, ?_⟩
  · intro tenant member
    obtain ⟨membership, there, mine, active, ⟨user, known, person, enabled⟩, role, present, key, owns⟩ :=
      provisioned.owned tenant member
    refine ⟨membership.userId, fun rid email => ?_⟩
    have found : findMembership tenant.id membership.userId rows = some membership := by
      have keyed := find?_of_key provisioned.keyed.memberships there
      rw [findMembership, ← mine]
      simpa [Prod.ext_iff] using keyed
    have account : findUser membership.userId rows = some user := by
      have keyed := find?_of_key provisioned.keyed.users known
      rwa [person] at keyed
    have granted : findRole membership.roleId rows = some role := by
      have keyed := find?_of_key provisioned.keyed.roles present
      rwa [key] at keyed
    refine ⟨_, validate_ok_iff.mpr ⟨membership, user, role, found, active, account, enabled, granted, rfl⟩, ?_⟩
    intro route
    refine rolesGuard_ok_iff.mpr (.inr ⟨_, rfl, fun required _ => ?_⟩)
    rw [provisioned.seeded role present, owns]
    exact isPermissionGranted_owner required
  · intro staffToken managerToken staff manager first second isStaff isManager route opened
    have few := (confined_of_provisioned provisioned first).2
    have many := (confined_of_provisioned provisioned second).2
    obtain none | ⟨_, same, all⟩ := rolesGuard_ok_iff.mp opened
    · exact rolesGuard_ok_iff.mpr (.inl none)
    · cases same
      refine rolesGuard_ok_iff.mpr (.inr ⟨manager, rfl, fun required asked => ?_⟩)
      have granted := all required asked
      rw [few, isStaff] at granted
      rw [many, isManager]
      exact isPermissionGranted_mono staff_subset_manager granted

end Rows

section Outlines

/-- What a transaction of `AuthService` commits: the rows of one signup, or nothing that
bears on tenants, roles and members. -/
def OwesMembers (rows : Directory) (entry : Committed IdentityWrite Unit) : Prop :=
  (∀ statement ∈ entry.statements, statement.keepsMembers) ∨
    ∃ ids, SignedUp ids rows (identityStore.view entry.statements rows)

theorem checkCredentials_keepsMembers (runtime : Runtime) (dto : LoginDto) (now : Instant) :
    (checkCredentials runtime dto now).Writes IdentityWrite.keepsMembers := by
  rw [checkCredentials, Program.writes_query_bind]
  intro rows
  split
  · exact Program.writes_pure _
  · dsimp only
    split
    · exact Program.writes_pure _
    · rw [Program.writes_query_bind]
      intro later
      split
      · exact Program.writes_pure _
      · exact ⟨trivial, trivial⟩

theorem consumeSession_keepsMembers (runtime : Runtime) (token : String) (payload : RefreshTokenPayload)
    (now : Instant) : (consumeSession runtime token payload now).Writes IdentityWrite.keepsMembers := by
  rw [consumeSession, Program.writes_query_bind]
  intro rows
  split
  · exact Program.writes_pure _
  · split
    · exact Program.writes_pure _
    · rw [Program.writes_exec_bind, Program.writes_query_bind]
      refine ⟨trivial, fun later => ?_⟩
      split
      · exact Program.writes_pure _
      · split <;> exact Program.writes_pure _

theorem sessionRequest_keepsMembers (runtime : Runtime) (request : SessionRequest) :
    (request.program runtime).Writes IdentityWrite.keepsMembers := by
  cases request with
  | refresh token now =>
      simp only [SessionRequest.program]
      split
      · exact Program.writes_throw _
      · exact consumeSession_keepsMembers runtime token _ now
  | logout token now =>
      simp only [SessionRequest.program]
      split
      · exact Program.writes_pure _
      · exact ⟨trivial, trivial⟩
  | createSession session => exact ⟨trivial, trivial⟩
  | storeHash id refreshTokenHash => exact ⟨trivial, trivial⟩

theorem provision_owesMembers (runtime : Runtime) (dto : SignupDto) (passwordHash : String) (ids : SignupIds)
    (now : Instant) (rows : Directory) :
    Outline identityStore Provisioned (fun _ _ => True) OwesMembers
      (provision runtime dto passwordHash ids now).discard [] rows := by
  rw [Program.discard, provision, Program.query_bind, Program.read_bind]
  intro first _ _
  dsimp only
  split
  · trivial
  · rw [Program.query_bind, Program.read_bind]
    intro second _ _
    dsimp only
    split
    · trivial
    · let tenant : Tenant := {
        id := ids.tenant
        slug := normaliseSlug runtime (dto.tenantSlug.getD dto.tenantName)
        name := trim dto.tenantName
        status := .trial }
      let user : User := {
        id := ids.user
        email := trim (runtime.toLowerCase dto.email)
        emailVerified := false
        passwordHash := some passwordHash
        fullName := some (trim dto.fullName)
        status := .active
        lastLoginAt := some now
        deletedAt := none }
      change Outline identityStore Provisioned _ OwesMembers (Program.writeAll () (signupWrites ids tenant user now)) [] _
      refine outline_writeAll fun third _ _ _ => .inr ⟨ids, ?_⟩
      exact signedUp_view ids now rfl rfl rfl third

theorem outline_authTransaction (runtime : Runtime) (request : AuthTransaction) (rows : Directory) :
    Outline identityStore Provisioned (fun _ _ => True) OwesMembers (request.program runtime) [] rows := by
  have quiet {α : Type} {body : IdentityProgram α} (writes : body.Writes IdentityWrite.keepsMembers) :
      Outline identityStore Provisioned (fun _ _ => True) OwesMembers body.discard [] rows :=
    outline_of_writes (fun _ _ keeps => .inl keeps) (writes.bind fun _ => trivial) (by simp)
  cases request with
  | signup dto passwordHash ids now => exact provision_owesMembers runtime dto passwordHash ids now rows
  | login dto now => exact quiet (checkCredentials_keepsMembers runtime dto now)
  | session request => exact quiet (sessionRequest_keepsMembers runtime request)

theorem provisioned_commit {rows : Directory} {entry : Committed IdentityWrite Unit} (provisioned : Provisioned rows)
    (admitted : identityStore.admitsAll entry.statements rows = true) (owed : OwesMembers rows entry) :
    Provisioned (identityStore.view entry.statements rows) := by
  cases owed with
  | inl keeps => exact provisioned.keepsMembers_view keeps
  | inr signup =>
      obtain ⟨ids, signedUp⟩ := signup
      have keyed : UniqueRows (identityStore.view entry.statements rows) :=
        identityStore.view_preserves (fun _ _ _ here held => held.apply here) admitted provisioned.keyed
      exact provisioned.signedUp keyed signedUp

end Outlines

/-- Any transactions of signups, logins, refreshes and logouts, with their statements in any
order, each of them given up at any point. -/
def AuthSchedule (runtime : Runtime) (schedule : List (Certified.Action Directory IdentityWrite AuthError Unit)) : Prop :=
  ∀ action ∈ schedule, Certified.Starts (fun program => ∃ request : AuthTransaction,
    program = request.program runtime) action

/-- In every state that the transactions of `AuthService` lead to, each tenant has a member
to whom all its routes are open, every principal acts with the seeded grants of a role of
its own tenant, and managers may do what staff may do. -/
theorem governed_in_every_state (runtime : Runtime) (start : Directory) (provisioned : Provisioned start)
    (schedule : List (Certified.Action Directory IdentityWrite AuthError Unit))
    (requests : AuthSchedule runtime schedule) :
    Visits (Certified.step identityStore) (fun state => Governed state.committed) (Certified.State.idle start)
      schedule := by
  have holds : ∀ rows (_ : List (Committed IdentityWrite Unit)), Provisioned rows → Provisioned rows :=
    fun _ _ held => held
  have commits : ∀ rows (_ : List (Committed IdentityWrite Unit)) entry, Provisioned rows →
      identityStore.admitsAll entry.statements rows = true → OwesMembers rows entry →
      Provisioned (identityStore.view entry.statements rows) ∧ True :=
    fun _ _ _ held admitted owed => ⟨provisioned_commit held admitted owed, trivial⟩
  have bodies : ∀ program, (∃ request : AuthTransaction, program = request.program runtime) → ∀ rows,
      Provisioned rows → Outline identityStore Provisioned (fun _ _ => True) OwesMembers program [] rows := by
    intro program started rows _
    obtain ⟨request, rfl⟩ := started
    exact outline_authTransaction runtime request rows
  have visits := invariant_of_outlines (fun _ => trivial) (fun _ _ _ _ _ => trivial) holds commits bodies
    provisioned requests
  exact visits.mono fun state held => governed_of_provisioned held.2

def emptyDirectory : Directory where
  tenants := []
  roles := []
  users := []
  memberships := []
  sessions := []

def adaSignup : SignupDto where
  email := "ada@example.com"
  password := "lovelace"
  fullName := "Ada"
  tenantName := "Lamps"
  tenantSlug := none

theorem provisioned_empty : Provisioned emptyDirectory where
  keyed := ⟨List.nodup_nil, List.nodup_nil, List.nodup_nil⟩
  owned := by simp [emptyDirectory]
  ownRoles := by simp [emptyDirectory]
  seeded := by simp [emptyDirectory]

def adaSignsUp : List (Certified.Action Directory IdentityWrite AuthError Unit) :=
  .begin 1 ((AuthTransaction.signup adaSignup "$$" ⟨1, 1, 1⟩ 0).program plainRuntime) ::
    (List.replicate 8 (.advance 1) ++ [.commit 1])

theorem governed_after_a_signup :
    (Transition.run (Certified.step identityStore) (Certified.State.idle emptyDirectory)
        adaSignsUp).committed.tenants.length = 1 ∧
      Visits (Certified.step identityStore) (fun state => Governed state.committed)
        (Certified.State.idle emptyDirectory) adaSignsUp := by
  refine ⟨by decide, governed_in_every_state plainRuntime emptyDirectory provisioned_empty adaSignsUp ?_⟩
  intro action member
  cases List.mem_cons.mp member with
  | inl first =>
      subst first
      exact ⟨_, rfl⟩
  | inr later =>
      cases List.mem_append.mp later with
      | inl advance =>
          obtain rfl := List.eq_of_mem_replicate advance
          trivial
      | inr commit =>
          obtain rfl := List.mem_singleton.mp commit
          trivial

end Aicos.Properties

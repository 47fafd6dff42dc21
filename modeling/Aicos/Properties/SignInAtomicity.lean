import Aicos.Identity.Sessions
import Aicos.Identity.SignIns

namespace Aicos.Properties

open Aicos.Commerce Aicos.Data Aicos.Identity Aicos.Transaction

/-! What a failed refresh or signup leaves behind.  Each is three transactions,
and the later ones do not take back the first. -/

/-- A call that fails leaves the rows as they were. -/
def AllOrNothing {α : Type} (call : Call α) (rows : Directory) : Prop :=
  ∀ failure after, call rows = (.error failure, after) → after = rows

def UserThere (id : UserId) (rows : Directory) : Prop :=
  ∃ user ∈ rows.users, user.id = id

/-- Nothing stops `issueTokens` for a user who is there: none of its steps fails, and
no session has its cuid, the placeholder or the new hash. -/
structure Issues (runtime : Runtime) (fails : AuthStep → Bool) (principal : Principal) (draw : Draw)
    (now : Instant) (rows : Directory) : Prop where
  steps : ∀ step, step ≠ .hashPassword → step ≠ .transaction → fails step = false
  fresh : ∀ entry ∈ sessionHashes rows, entry.1 ≠ draw.sessionId ∧ entry.2 ≠ "pending" ∧
    entry.2 ≠ runtime.hash draw.salt (runtime.signRefresh (refreshPayload principal draw.sessionId) now)

/-- The owner of an accepted refresh token is still an active member, and nothing stops the new pair. -/
def Exchanges (runtime : Runtime) (fails : AuthStep → Bool) (payload : RefreshTokenPayload) (draw : Draw)
    (now : Instant) (rows : Directory) : Prop :=
  ∃ membership, findMembership payload.tid payload.sub rows = some membership ∧ membership.status = .active ∧
    UserThere payload.sub rows ∧ Issues runtime fails (refreshedPrincipal payload membership) draw now rows

variable {runtime : Runtime} {config : AuthConfig} {fails : AuthStep → Bool} {principal : Principal} {draw : Draw}
variable {now : Instant} {rows : Directory}

theorem bind_apply {α β : Type} (first : Call α) (rest : α → Call β) (rows : Directory) :
    (first >>= rest) rows =
      match first rows with
      | (.ok value, after) => rest value after
      | (.error failure, after) => (.error failure, after) := rfl

theorem allOrNothing_iff {α : Type} {call : Call α} {result : Except AuthFailure α} {after : Directory}
    (ran : call rows = (result, after)) :
    AllOrNothing call rows ↔ ∀ failure, result = .error failure → after = rows := by
  simp only [AllOrNothing, ran, Prod.mk.injEq, and_imp]
  exact ⟨fun all failure failed => all failure after failed rfl,
    fun all failure other failed same => same ▸ all failure failed⟩

theorem asSystem_ok {α : Type} {step : AuthStep} {program : IdentityProgram α} {value : α} {after : Directory}
    (works : fails step = false) (ran : program.alone identityStore rows = .ok (value, after)) :
    asSystem fails step program rows = (.ok value, after) := by
  simp [asSystem, works, ran]

theorem asSystem_error {α : Type} {step : AuthStep} {program : IdentityProgram α}
    (stops : fails step = false → ∀ outcome, program.alone identityStore rows ≠ .ok outcome) :
    ∃ failure, asSystem fails step program rows = (.error failure, rows) := by
  rw [asSystem]
  cases works : fails step with
  | true => exact ⟨.step step, rfl⟩
  | false =>
      cases result : program.alone identityStore rows with
      | ok outcome => exact (stops works outcome result).elim
      | error abort =>
          cases abort with
          | thrown error => exact ⟨.http error, rfl⟩
          | rejected statement => exact ⟨.constraint statement, rfl⟩

/-- A request whose first transaction fails has changed nothing. -/
theorem allOrNothing_of_error {α β : Type} {first : Call α} {rest : α → Call β} {failure : AuthFailure}
    (failed : first rows = (.error failure, rows)) : AllOrNothing (first >>= rest) rows := by
  have ran : (first >>= rest) rows = (.error failure, rows) := by rw [bind_apply, failed]
  exact (allOrNothing_iff ran).mpr fun _ _ => rfl

theorem asSystem_exec (step : AuthStep) (statement : IdentityWrite) (rows : Directory) :
    asSystem fails step (Program.exec statement) rows =
      if fails step then (.error (.step step), rows)
      else if statement.admits rows then (.ok (), statement.apply rows)
      else (.error (.constraint statement), rows) := by
  rw [asSystem, Program.exec, Program.alone]
  cases fails step with
  | true => rfl
  | false => by_cases admitted : statement.admits rows <;> simp [identityStore, admitted, Program.alone]

def inserted (config : AuthConfig) (principal : Principal) (draw : Draw) (now : Instant) : IdentityWrite :=
  .createSession (placeholderSession config.refreshTtl principal draw.sessionId now)

theorem inserted_admits :
    (inserted config principal draw now).admits rows = true ↔
      (∀ entry ∈ sessionHashes rows, entry.1 ≠ draw.sessionId ∧ entry.2 ≠ "pending") ∧
        UserThere principal.userId rows := by
  simp [inserted, IdentityWrite.admits, placeholderSession, sessionHashes, UserThere]

theorem storeHash_admits (refreshTokenHash : String) :
    (IdentityWrite.storeHash draw.sessionId refreshTokenHash).admits
        ((inserted config principal draw now).apply rows) = true ↔
      ∀ entry ∈ sessionHashes rows, entry.1 = draw.sessionId ∨ entry.2 ≠ refreshTokenHash := by
  simp [inserted, IdentityWrite.admits, IdentityWrite.apply, placeholderSession, sessionHashes]

theorem Issues.congr {after : Directory} (same : sessionHashes after = sessionHashes rows) :
    Issues runtime fails principal draw now after ↔ Issues runtime fails principal draw now rows := by
  constructor
  · intro given
    obtain ⟨steps, fresh⟩ := given
    exact ⟨steps, same ▸ fresh⟩
  · intro given
    obtain ⟨steps, fresh⟩ := given
    exact ⟨steps, same ▸ fresh⟩

theorem Issues.not_of_fails {step : AuthStep} (failed : fails step = true) (first : step ≠ .hashPassword)
    (second : step ≠ .transaction) :
    ¬ (UserThere principal.userId rows ∧ Issues runtime fails principal draw now rows) := by
  intro given
  obtain ⟨_, issues⟩ := given
  rw [issues.steps step first second] at failed
  cases failed

/-- `issueTokens` returns a pair exactly where the user is there and `Issues` holds;
where it throws, it has inserted its session or nothing. -/
theorem issueTokens_outcome (config : AuthConfig) :
    ((UserThere principal.userId rows ∧ Issues runtime fails principal draw now rows) ∧
        ∃ pair after, issueTokens runtime config fails principal draw now rows = (.ok pair, after)) ∨
      (¬ (UserThere principal.userId rows ∧ Issues runtime fails principal draw now rows) ∧
        ∃ failure after, issueTokens runtime config fails principal draw now rows = (.error failure, after) ∧
          (after = rows ∨ after = (inserted config principal draw now).apply rows)) := by
  have opened : asSystem fails .createSession
      (Program.exec (.createSession (placeholderSession config.refreshTtl principal draw.sessionId now))) rows =
        if fails .createSession then (.error (.step .createSession), rows)
        else if (inserted config principal draw now).admits rows then
          (.ok (), (inserted config principal draw now).apply rows)
        else (.error (.constraint (inserted config principal draw now)), rows) := asSystem_exec _ _ _
  simp only [issueTokens, bind_apply, opened, asSystem_exec, compute]
  cases creates : fails .createSession with
  | true => exact .inr ⟨Issues.not_of_fails creates (by decide) (by decide), _, _, rfl, .inl rfl⟩
  | false =>
  by_cases admitted : (inserted config principal draw now).admits rows = true
  · cases access : fails .signAccess with
    | true => exact .inr ⟨Issues.not_of_fails access (by decide) (by decide), _, _, by simp [admitted]; rfl, .inr rfl⟩
    | false =>
    cases refresh : fails .signRefresh with
    | true => exact .inr ⟨Issues.not_of_fails refresh (by decide) (by decide), _, _, by simp [admitted]; rfl, .inr rfl⟩
    | false =>
    cases hashes : fails .hashToken with
    | true => exact .inr ⟨Issues.not_of_fails hashes (by decide) (by decide), _, _, by simp [admitted]; rfl, .inr rfl⟩
    | false =>
    cases stores : fails .storeHash with
    | true => exact .inr ⟨Issues.not_of_fails stores (by decide) (by decide), _, _, by simp [admitted]; rfl, .inr rfl⟩
    | false =>
    obtain ⟨fresh, user⟩ := inserted_admits.mp admitted
    have steps : ∀ step, step ≠ .hashPassword → step ≠ .transaction → fails step = false := by
      intro step first second
      cases step <;> first | contradiction | assumption
    by_cases stored : (IdentityWrite.storeHash draw.sessionId
        (runtime.hash draw.salt (runtime.signRefresh (refreshPayload principal draw.sessionId) now))).admits
          ((inserted config principal draw now).apply rows) = true
    · refine .inl ⟨⟨user, steps, fun entry member => ?_⟩, _, _, by simp [admitted, stored]; rfl⟩
      obtain ⟨unused, pending⟩ := fresh entry member
      exact ⟨unused, pending, ((storeHash_admits _).mp stored entry member).resolve_left unused⟩
    · refine .inr ⟨fun both => stored ?_, _, _, by simp [admitted, stored]; rfl, .inr rfl⟩
      exact (storeHash_admits _).mpr fun entry member => .inr (both.2.fresh entry member).2.2
  · refine .inr ⟨fun both => admitted (inserted_admits.mpr ⟨fun entry member => ?_, both.1⟩), _, _,
      by simp [admitted]; rfl, .inl rfl⟩
    exact ⟨(both.2.fresh entry member).1, (both.2.fresh entry member).2.1⟩

/-- Once its first transaction has changed the rows, a request has to issue its tokens. -/
theorem allOrNothing_issueTokens_iff {call : Call TokenPair} {opened : Directory}
    (continues : call rows = issueTokens runtime config fails principal draw now opened)
    (changed : opened ≠ rows) (inserts : (inserted config principal draw now).apply opened ≠ rows) :
    AllOrNothing call rows ↔ UserThere principal.userId opened ∧ Issues runtime fails principal draw now opened := by
  rcases issueTokens_outcome config with ⟨issued, pair, after, ran⟩ | ⟨failed, failure, after, ran, left⟩
  · exact ⟨fun _ => issued, fun _ => (allOrNothing_iff (continues.trans ran)).mpr fun _ absurd => by cases absurd⟩
  · refine ⟨fun whole => ?_, fun issued => (failed issued).elim⟩
    have same : after = rows := (allOrNothing_iff (continues.trans ran)).mp whole failure rfl
    rcases left with rfl | rfl
    · exact (changed same).elim
    · exact (inserts same).elim

/-- The session of the refresh token is live, and its user is still an active member. -/
theorem consumeSession_alone {token : String} {payload : RefreshTokenPayload} {session : Session}
    (found : findSession payload.sid rows = some session)
    (accepted : acceptsToken runtime token payload now session = true) :
    (consumeSession runtime token payload now).alone identityStore rows =
      .ok ((findMembership payload.tid payload.sub rows).filter fun membership => membership.status = .active,
        (IdentityWrite.revokeSession session.id now).apply rows) := by
  have there : (IdentityWrite.revokeSession session.id now).admits rows = true := by
    simpa [IdentityWrite.admits] using ⟨session, List.mem_of_find?_eq_some found, rfl⟩
  have untouched : findMembership payload.tid payload.sub ((IdentityWrite.revokeSession session.id now).apply rows) =
      findMembership payload.tid payload.sub rows := rfl
  simp only [consumeSession, Program.query_bind, Program.alone, found, accepted, not_true_eq_false, if_false,
    Program.exec_bind, identityStore, there, if_true, untouched]
  cases findMembership payload.tid payload.sub rows with
  | none => rfl
  | some membership => by_cases active : membership.status = .active <;> simp [active, Program.alone, Option.filter]

theorem consumeSession_refused {token : String} {payload : RefreshTokenPayload}
    (refused : ∀ session, findSession payload.sid rows = some session →
      acceptsToken runtime token payload now session = false) :
    (consumeSession runtime token payload now).alone identityStore rows = .ok (none, rows) := by
  simp only [consumeSession, Program.query_bind, Program.alone]
  cases found : findSession payload.sid rows with
  | none => rfl
  | some session => simp [refused session found, Program.alone]

/-- An accepted session is not revoked yet, so what revokes it changes the rows. -/
theorem ne_of_revoked {token : String} {payload : RefreshTokenPayload} {session : Session} {after : Directory}
    (found : findSession payload.sid rows = some session)
    (accepted : acceptsToken runtime token payload now session = true) (revoked : Revoked payload.sid after) :
    after ≠ rows := by
  rintro rfl
  obtain ⟨other, there, since⟩ := revoked_iff.mp revoked
  obtain rfl : session = other := Option.some.inj (found.symm.trans there)
  exact since (of_decide_eq_true accepted).1

section Refresh

variable {token : String} {payload : RefreshTokenPayload} {after : Directory}

theorem allOrNothing_of_not_consumed {failure : AuthFailure} (verified : runtime.verifyRefresh token now = some payload)
    (failed : asSystem fails .transaction (consumeSession runtime token payload now) rows = (.error failure, rows)) :
    AllOrNothing (refresh runtime config fails token draw now) rows := by
  rw [refresh, verified]
  exact allOrNothing_of_error failed

theorem refresh_refused (config : AuthConfig) (draw : Draw) (verified : runtime.verifyRefresh token now = some payload)
    (consumed : asSystem fails .transaction (consumeSession runtime token payload now) rows = (.ok none, after)) :
    refresh runtime config fails token draw now rows =
      Call.fail (.http (.unauthorized "Refresh token is no longer valid")) after := by
  rw [refresh, verified]
  dsimp only
  rw [bind_apply, consumed]

theorem refresh_granted {membership : Membership} (config : AuthConfig) (draw : Draw)
    (verified : runtime.verifyRefresh token now = some payload)
    (consumed : asSystem fails .transaction (consumeSession runtime token payload now) rows =
      (.ok (some membership), after)) :
    refresh runtime config fails token draw now rows =
      issueTokens runtime config fails (refreshedPrincipal payload membership) draw now after := by
  rw [refresh, verified]
  dsimp only
  rw [bind_apply, consumed]

end Refresh

theorem refresh_allOrNothing_iff {token : String} :
    AllOrNothing (refresh runtime config fails token draw now) rows ↔
      ∀ payload session, runtime.verifyRefresh token now = some payload → fails .transaction = false →
        findSession payload.sid rows = some session → acceptsToken runtime token payload now session = true →
        Exchanges runtime fails payload draw now rows := by
  cases verified : runtime.verifyRefresh token now with
  | none => simp [refresh, verified, AllOrNothing, Call.fail]
  | some payload =>
  cases works : fails .transaction with
  | true =>
      obtain ⟨failure, failed⟩ : ∃ failure, asSystem fails .transaction
          (consumeSession runtime token payload now) rows = (.error failure, rows) :=
        asSystem_error fun fine => by simp [works] at fine
      simp [allOrNothing_of_not_consumed verified failed]
  | false =>
  by_cases live : ∃ session, findSession payload.sid rows = some session ∧
      acceptsToken runtime token payload now session = true
  · obtain ⟨session, found, accepted⟩ := live
    have mine : session.id = payload.sid := by simpa using List.find?_some found
    have revoked : Revoked payload.sid ((IdentityWrite.revokeSession session.id now).apply rows) :=
      mine ▸ revoked_revokeSession (mine.symm ▸ found) now
    have changed := ne_of_revoked found accepted revoked
    have consumed := asSystem_ok works (consumeSession_alone found accepted)
    have only : (∀ other session, some payload = some other → false = false →
        findSession other.sid rows = some session → acceptsToken runtime token other now session = true →
        Exchanges runtime fails other draw now rows) ↔ Exchanges runtime fails payload draw now rows := by
      refine ⟨fun all => all payload session rfl rfl found accepted, ?_⟩
      intro there other _ same _ _ _
      exact Option.some.inj same ▸ there
    rw [only]
    cases granted : (findMembership payload.tid payload.sub rows).filter
        fun membership => membership.status = .active with
    | none =>
        rw [granted] at consumed
        have opened := refresh_refused config draw verified consumed
        refine ⟨fun whole => (changed ((allOrNothing_iff opened).mp whole _ rfl)).elim, ?_⟩
        intro given
        obtain ⟨membership, there, active, _⟩ := given
        simp [there, active, Option.filter] at granted
    | some membership =>
        rw [granted] at consumed
        have opened := refresh_granted config draw verified consumed
        have inserts : (inserted config (refreshedPrincipal payload membership) draw now).apply
            ((IdentityWrite.revokeSession session.id now).apply rows) ≠ rows :=
          ne_of_revoked found accepted (revoked.view [inserted config (refreshedPrincipal payload membership) draw now])
        have keeps : (IdentityWrite.revokeSession session.id now).keepsHashes := trivial
        obtain ⟨there, active⟩ := Option.filter_eq_some_iff.mp granted
        rw [allOrNothing_issueTokens_iff opened changed inserts, Issues.congr (apply_sessionHashes keeps rows)]
        constructor
        · intro given
          obtain ⟨user, issues⟩ := given
          exact ⟨membership, there, of_decide_eq_true active, user, issues⟩
        · intro given
          obtain ⟨other, same, _, user, issues⟩ := given
          obtain rfl := Option.some.inj (there.symm.trans same)
          exact ⟨user, issues⟩
  · have refused : (consumeSession runtime token payload now).alone identityStore rows = .ok (none, rows) :=
      consumeSession_refused fun session found => by simpa using fun accepted => live ⟨session, found, accepted⟩
    have stopped := refresh_refused config draw verified (asSystem_ok works refused)
    rw [allOrNothing_iff stopped]
    refine ⟨fun _ other session same _ found accepted => ?_, fun _ _ _ => rfl⟩
    obtain rfl := Option.some.inj same
    exact (live ⟨session, found, accepted⟩).elim

/-! `signup`. -/

/-- The owner of the new tenant; the owner's role is the first one seeded. -/
def owner (runtime : Runtime) (dto : SignupDto) (ids : SignupIds) : Principal where
  userId := ids.user
  tenantId := ids.tenant
  roleId := ids.role
  email := trim (runtime.toLowerCase dto.email)

def seeded (tenantId : TenantId) (id : RoleId) (definition : RoleDefinition) : Role where
  id := id
  tenantId := some tenantId
  type := definition.type
  name := definition.name
  description := some definition.description
  permissions := rolePermissions definition.type
  isSystem := true

/-- What the first transaction of `signup` writes. -/
def provisioned (runtime : Runtime) (dto : SignupDto) (passwordHash : String) (ids : SignupIds) (now : Instant) :
    List IdentityWrite :=
  .createTenant {
      id := ids.tenant
      slug := normaliseSlug runtime (dto.tenantSlug.getD dto.tenantName)
      name := trim dto.tenantName
      status := .trial } ::
    roleDefinitions.mapIdx (fun index definition => .createRole (seeded ids.tenant (ids.role + index) definition)) ++
    [.createUser {
        id := ids.user
        email := trim (runtime.toLowerCase dto.email)
        emailVerified := false
        passwordHash := some passwordHash
        fullName := some (trim dto.fullName)
        status := .active
        lastLoginAt := some now
        deletedAt := none },
      .createMembership {
        tenantId := ids.tenant
        userId := ids.user
        roleId := ids.role
        status := .active
        acceptedAt := some now
        createdAt := now }]

/-- Email and slug are free, and so are the drawn cuids and the keys under them. -/
structure Provisions (runtime : Runtime) (dto : SignupDto) (ids : SignupIds) (rows : Directory) : Prop where
  email : findUserByEmail (trim (runtime.toLowerCase dto.email)) rows = none
  slug : findTenantBySlug (normaliseSlug runtime (dto.tenantSlug.getD dto.tenantName)) rows = none
  tenant : ∀ tenant ∈ rows.tenants, tenant.id ≠ ids.tenant
  role : ∀ role ∈ rows.roles, role.id ∉ [ids.role, ids.role + 1, ids.role + 2] ∧
    ¬ (role.tenantId = some ids.tenant ∧ role.name ∈ roleDefinitions.map (·.name))
  user : ∀ user ∈ rows.users, user.id ≠ ids.user
  membership : ∀ membership ∈ rows.memberships,
    ¬ (membership.tenantId = ids.tenant ∧ membership.userId = ids.user)

theorem provision_alone {dto : SignupDto} {passwordHash : String} {ids : SignupIds}
    (email : findUserByEmail (trim (runtime.toLowerCase dto.email)) rows = none)
    (slug : findTenantBySlug (normaliseSlug runtime (dto.tenantSlug.getD dto.tenantName)) rows = none) :
    (provision runtime dto passwordHash ids now).alone identityStore rows =
      (Program.writeAll (owner runtime dto ids) (provisioned runtime dto passwordHash ids now)).alone identityStore rows := by
  simp only [provision, Program.query_bind, Program.alone, email, slug]
  rfl

theorem provisioned_admitted {dto : SignupDto} {passwordHash : String} {ids : SignupIds}
    (email : findUserByEmail (trim (runtime.toLowerCase dto.email)) rows = none)
    (slug : findTenantBySlug (normaliseSlug runtime (dto.tenantSlug.getD dto.tenantName)) rows = none) :
    identityStore.admitsAll (provisioned runtime dto passwordHash ids now) rows = true ↔
      Provisions runtime dto ids rows := by
  have used : ∀ user ∈ rows.users, user.email ≠ trim (runtime.toLowerCase dto.email) := by
    simpa [findUserByEmail] using email
  have taken : ∀ tenant ∈ rows.tenants, tenant.slug ≠ normaliseSlug runtime (dto.tenantSlug.getD dto.tenantName) := by
    simpa [findTenantBySlug] using slug
  have written : identityStore.admitsAll (provisioned runtime dto passwordHash ids now) rows = true ↔
      (∀ tenant ∈ rows.tenants, tenant.id ≠ ids.tenant ∧
        tenant.slug ≠ normaliseSlug runtime (dto.tenantSlug.getD dto.tenantName)) ∧
      (∀ role ∈ rows.roles, role.id ≠ ids.role ∧ (role.tenantId ≠ some ids.tenant ∨ role.name ≠ "Owner")) ∧
      (∀ role ∈ rows.roles, role.id ≠ ids.role + 1 ∧ (role.tenantId ≠ some ids.tenant ∨ role.name ≠ "Manager")) ∧
      (∀ role ∈ rows.roles, role.id ≠ ids.role + 2 ∧ (role.tenantId ≠ some ids.tenant ∨ role.name ≠ "Staff")) ∧
      (∀ user ∈ rows.users, user.id ≠ ids.user ∧ user.email ≠ trim (runtime.toLowerCase dto.email)) ∧
      ∀ membership ∈ rows.memberships, membership.tenantId ≠ ids.tenant ∨ membership.userId ≠ ids.user := by
    simp [provisioned, roleDefinitions, seeded, Store.admitsAll, identityStore, IdentityWrite.admits,
      IdentityWrite.apply]
  rw [written]
  constructor
  · intro given
    obtain ⟨tenant, first, second, third, user, membership⟩ := given
    refine ⟨email, slug, fun row member => (tenant row member).1, fun row member => ?_,
      fun row member => (user row member).1, fun row member => not_and_or.mpr (membership row member)⟩
    have unseeded := And.intro (first row member) (And.intro (second row member) (third row member))
    simp only [roleDefinitions, List.map_cons, List.map_nil, List.mem_cons, List.not_mem_nil, or_false]
    grind
  · intro given
    obtain ⟨_, _, tenant, role, user, membership⟩ := given
    simp only [roleDefinitions, List.map_cons, List.map_nil, List.mem_cons, List.not_mem_nil, or_false] at role
    refine ⟨fun row member => ⟨tenant row member, taken row member⟩, fun row member => ?_, fun row member => ?_,
      fun row member => ?_, fun row member => ⟨user row member, used row member⟩,
      fun row member => not_and_or.mp (membership row member)⟩
    all_goals
      have unseeded := role row member
      grind

theorem provisioned_view (dto : SignupDto) (passwordHash : String) (ids : SignupIds) :
    (identityStore.view (provisioned runtime dto passwordHash ids now) rows).tenants.length =
        rows.tenants.length + 1 ∧
      UserThere ids.user (identityStore.view (provisioned runtime dto passwordHash ids now) rows) := by
  simp [provisioned, roleDefinitions, Store.view, identityStore, IdentityWrite.apply, UserThere]

theorem provision_ok_iff {dto : SignupDto} {passwordHash : String} {ids : SignupIds} {principal : Principal}
    {after : Directory} :
    (provision runtime dto passwordHash ids now).alone identityStore rows = .ok (principal, after) ↔
      Provisions runtime dto ids rows ∧ principal = owner runtime dto ids ∧
        after = identityStore.view (provisioned runtime dto passwordHash ids now) rows := by
  cases email : findUserByEmail (trim (runtime.toLowerCase dto.email)) rows with
  | some user =>
      have thrown : (provision runtime dto passwordHash ids now).alone identityStore rows =
          .error (.thrown (.conflict "An account with this email already exists")) := by
        simp only [provision, Program.query_bind, Program.alone, email]
        rfl
      rw [thrown]
      constructor
      · intro returned
        cases returned
      · intro given
        obtain ⟨provisions, _⟩ := given
        cases email.symm.trans provisions.email
  | none =>
  cases slug : findTenantBySlug (normaliseSlug runtime (dto.tenantSlug.getD dto.tenantName)) rows with
  | some tenant =>
      have thrown : ∃ error, (provision runtime dto passwordHash ids now).alone identityStore rows =
          .error (.thrown error) := by
        simp only [provision, Program.query_bind, Program.alone, email, slug]
        exact ⟨_, rfl⟩
      obtain ⟨error, thrown⟩ := thrown
      rw [thrown]
      constructor
      · intro returned
        cases returned
      · intro given
        obtain ⟨provisions, _⟩ := given
        cases slug.symm.trans provisions.slug
  | none => rw [provision_alone email slug, Program.alone_writeAll_iff, provisioned_admitted email slug]

theorem signup_allOrNothing_iff {dto : SignupDto} {ids : SignupIds} {passwordSalt : Nat} :
    AllOrNothing (signup runtime config fails dto ids passwordSalt draw now) rows ↔
      (fails .hashPassword = false → fails .transaction = false → Provisions runtime dto ids rows →
        Issues runtime fails (owner runtime dto ids) draw now rows) := by
  have opens : signup runtime config fails dto ids passwordSalt draw now =
      compute fails .hashPassword (runtime.hash passwordSalt dto.password) >>= fun passwordHash =>
        asSystem fails .transaction (provision runtime dto passwordHash ids now) >>= fun principal =>
          issueTokens runtime config fails principal draw now := rfl
  cases hashes : fails .hashPassword with
  | true =>
      have failed : compute fails .hashPassword (runtime.hash passwordSalt dto.password) rows =
          (.error (.step .hashPassword), rows) := by simp [compute, hashes]
      simp [opens, allOrNothing_of_error failed]
  | false =>
  have hashed : compute fails .hashPassword (runtime.hash passwordSalt dto.password) rows =
      (.ok (runtime.hash passwordSalt dto.password), rows) := by simp [compute, hashes]
  generalize runtime.hash passwordSalt dto.password = passwordHash at opens hashed
  by_cases commits : fails .transaction = false ∧ Provisions runtime dto ids rows
  · obtain ⟨works, provisions⟩ := commits
    have ran : (provision runtime dto passwordHash ids now).alone identityStore rows =
        .ok (owner runtime dto ids, identityStore.view (provisioned runtime dto passwordHash ids now) rows) :=
      provision_ok_iff.mpr ⟨provisions, rfl, rfl⟩
    have opened := asSystem_ok works ran
    have continues : signup runtime config fails dto ids passwordSalt draw now rows =
        issueTokens runtime config fails (owner runtime dto ids) draw now
          (identityStore.view (provisioned runtime dto passwordHash ids now) rows) := by
      rw [opens, bind_apply, hashed]
      dsimp only
      rw [bind_apply, opened]
    obtain ⟨grown, user⟩ : _ ∧ UserThere ids.user
        (identityStore.view (provisioned runtime dto passwordHash ids now) rows) :=
      provisioned_view dto passwordHash ids
    have kept := alone_sessionHashes (provision_writes runtime dto passwordHash ids now) ran
    have tenants : ∀ after : Directory, after.tenants.length = rows.tenants.length + 1 → after ≠ rows := by
      rintro after longer rfl
      omega
    rw [allOrNothing_issueTokens_iff continues (tenants _ grown) (tenants _ grown), Issues.congr kept]
    exact ⟨fun issued _ _ _ => issued.2, fun issues => ⟨user, issues rfl works provisions⟩⟩
  · obtain ⟨failure, failed⟩ : ∃ failure, asSystem fails .transaction
        (provision runtime dto passwordHash ids now) rows = (.error failure, rows) :=
      asSystem_error fun works outcome ran => commits ⟨works, (provision_ok_iff.mp ran).1⟩
    have stopped : signup runtime config fails dto ids passwordSalt draw now rows = (.error failure, rows) := by
      rw [opens, bind_apply, hashed]
      dsimp only
      rw [bind_apply, failed]
    rw [allOrNothing_iff stopped]
    exact ⟨fun _ _ works provisions => (commits ⟨works, provisions⟩).elim, fun _ _ _ => rfl⟩

theorem sign_ins_all_or_nothing_iff (runtime : Runtime) (config : AuthConfig) (fails : AuthStep → Bool)
    (token : String) (dto : SignupDto) (ids : SignupIds) (passwordSalt : Nat) (draw : Draw) (now : Instant)
    (rows : Directory) :
    (AllOrNothing (refresh runtime config fails token draw now) rows ↔
      ∀ payload session, runtime.verifyRefresh token now = some payload → fails .transaction = false →
        findSession payload.sid rows = some session → acceptsToken runtime token payload now session = true →
        Exchanges runtime fails payload draw now rows) ∧
    (AllOrNothing (signup runtime config fails dto ids passwordSalt draw now) rows ↔
      (fails .hashPassword = false → fails .transaction = false → Provisions runtime dto ids rows →
        Issues runtime fails (owner runtime dto ids) draw now rows)) :=
  ⟨refresh_allOrNothing_iff, signup_allOrNothing_iff⟩

def openSession : Session where
  id := 1
  userId := 1
  refreshTokenHash := "$$uts"
  expiresAt := 100
  revokedAt := none

def graceSignup : SignupDto where
  email := "grace@example.com"
  password := "hopper"
  fullName := "Grace"
  tenantName := "Compilers"
  tenantSlug := none

/-- The transaction that inserts the session is lost: the token is revoked all the
same, and the account stays without anyone signed in. -/
theorem session_lost_after_commit :
    ¬ AllOrNothing (refresh plainRuntime plainConfig (· = .createSession) "uts" ⟨2, 0⟩ 10) (adaRows [openSession]) ∧
      ¬ AllOrNothing (signup plainRuntime plainConfig (· = .createSession) graceSignup ⟨2, 2, 2⟩ 0 ⟨2, 0⟩ 10)
        (adaRows [openSession]) := by
  constructor
  · rw [refresh_allOrNothing_iff]
    intro whole
    obtain ⟨_, _, _, _, issues⟩ := whole ⟨1, 1, 1⟩ openSession (by decide) rfl (by decide) (by decide)
    cases issues.steps .createSession (by decide) (by decide)
  · rw [signup_allOrNothing_iff]
    intro whole
    have provisions : Provisions plainRuntime graceSignup ⟨2, 2, 2⟩ (adaRows [openSession]) := by
      constructor <;> decide
    cases (whole rfl rfl provisions).steps .createSession (by decide) (by decide)

end Aicos.Properties

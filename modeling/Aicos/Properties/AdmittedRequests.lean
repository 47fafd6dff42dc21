import Aicos.Commerce.Tables
import Aicos.Identity.Admission
import Aicos.Identity.SignIns

namespace Aicos.Properties

open Aicos.Commerce Aicos.Identity

/-! Which requests reach a handler, and for whom. -/

section Admission

variable {tokens : AccessTokens} {withinLimit : Bool} {route : Route} {request : ApiRequest} {now : Instant}
  {rows : Directory}

/-- The principal of a protected handler: the member that the presented token speaks for. -/
def Authenticated (tokens : AccessTokens) (request : ApiRequest) (now : Instant) (rows : Directory)
    (user : AuthenticatedUser) : Prop :=
  ∃ token payload, presentedToken tokens request = some token ∧ tokens.verify token now = some payload ∧
    Member rows payload user

theorem jwtAuthGuard_ok_iff {user : Option AuthenticatedUser} :
    jwtAuthGuard tokens route request now rows = .ok user ↔
      (route.isPublic = true ∧ user = none) ∨
        (route.isPublic = false ∧ ∃ principal, user = some principal ∧
          Authenticated tokens request now rows principal) := by
  unfold jwtAuthGuard Authenticated
  cases open_ : route.isPublic with
  | true => simp [pure, Except.pure, eq_comm]
  | false =>
      simp only [Bool.false_eq_true, if_false, false_and, false_or, true_and]
      cases presented : presentedToken tokens request with
      | none => simp [throw, throwThe, MonadExceptOf.throw]
      | some token =>
          cases verified : tokens.verify token now with
          | none => simp [verified, throw, throwThe, MonadExceptOf.throw]
          | some payload =>
              simp only [Option.bind_some, verified, bind_eq_ok]
              constructor
              · intro passed
                obtain ⟨principal, valid, same⟩ := passed
                cases same
                exact ⟨principal, rfl, token, payload, rfl, verified, validate_ok_iff.mp valid⟩
              · intro given
                obtain ⟨principal, rfl, _, _, same, verified', member⟩ := given
                cases same
                rw [verified] at verified'
                cases verified'
                exact ⟨principal, validate_ok_iff.mpr member, rfl⟩

theorem canActivate_ok_iff {user : Option AuthenticatedUser} :
    canActivate tokens withinLimit route request now rows = .ok user ↔
      withinLimit = true ∧ csrfGuard request = .ok () ∧
        jwtAuthGuard tokens route request now rows = .ok user ∧ rolesGuard route user = .ok () := by
  unfold canActivate
  cases withinLimit with
  | false => simp [throw, throwThe, MonadExceptOf.throw]
  | true =>
      simp only [not_true, if_false, bind_eq_ok, true_and]
      constructor
      · intro passed
        obtain ⟨_, echoed, principal, authenticated, _, allowed, same⟩ := passed
        cases same
        exact ⟨echoed, authenticated, allowed⟩
      · intro given
        obtain ⟨echoed, authenticated, allowed⟩ := given
        exact ⟨(), echoed, user, authenticated, (), allowed, rfl⟩

end Admission

/-- A protected handler is called for an active member that the token speaks for, whose
role grants all that the route asks, and who is no browser session without the CSRF token;
and for nobody else.  The tenant it works in is that member's. -/
theorem protected_handlers_serve_members (tokens : AccessTokens) (withinLimit : Bool) (route : Route)
    (request : ApiRequest) (now : Instant) (rows : Directory) (user : Option AuthenticatedUser)
    (guarded : route.isPublic = false) :
    canActivate tokens withinLimit route request now rows = .ok user ↔
      withinLimit = true ∧ (request.method ∈ safeMethods ∨ cookieAuthed request = false ∨ Echoed request) ∧
        ∃ token payload principal, presentedToken tokens request = some token ∧
          tokens.verify token now = some payload ∧ Member rows payload principal ∧
          (∀ required ∈ route.permissions, isPermissionGranted required principal.permissions = true) ∧
          user = some principal ∧ currentTenant user = some payload.tid := by
  rw [canActivate_ok_iff, csrfGuard_ok_iff, jwtAuthGuard_ok_iff, rolesGuard_ok_iff]
  refine and_congr_right fun _ => and_congr_right fun _ => ?_
  constructor
  · intro given
    obtain ⟨authenticated, allowed⟩ := given
    obtain ⟨opened, _⟩ | ⟨_, principal, rfl, token, payload, presented, verified, member⟩ := authenticated
    · rw [guarded] at opened
      cases opened
    · have tenant : principal.tenantId = payload.tid := by
        obtain ⟨membership, _, _, found, _, _, _, _, rfl⟩ := member
        have wanted := List.find?_some found
        simp only [decide_eq_true_eq] at wanted
        exact wanted.1
      refine ⟨token, payload, principal, presented, verified, member, ?_, rfl, by rw [← tenant]; rfl⟩
      cases allowed with
      | inl none => simp [none]
      | inr granted =>
          obtain ⟨other, same, all⟩ := granted
          cases same
          exact all
  · intro given
    obtain ⟨token, payload, principal, presented, verified, member, granted, rfl, _⟩ := given
    exact ⟨.inr ⟨guarded, principal, rfl, token, payload, presented, verified, member⟩,
      .inr ⟨principal, rfl, granted⟩⟩

/-- A GET of ada's with a bearer token. -/
def adaGet : ApiRequest where
  method := "GET"
  cookies := fun _ => none
  csrfToken := none
  authorization := some "Bearer a"
  tenantHeader := none

def adaTokens : AccessTokens where
  fromAuthHeader := fun header => (header.toList.splitOn ' ').tail.head?.map String.ofList
  verify := fun token _ => if token = "a" then some { sub := 1, tid := 1, rid := 1, email := "" } else none

theorem ada_is_served :
    adaGet.method ∈ safeMethods ∧ canActivate adaTokens true ⟨false, ["user:read"]⟩ adaGet 0 (adaRows []) =
      .ok (some ⟨1, 1, "ada@example.com", 1, .storeOwner, ["*"]⟩) :=
  ⟨by decide, (protected_handlers_serve_members adaTokens true ⟨false, ["user:read"]⟩ adaGet 0 (adaRows [])
    (some ⟨1, 1, "ada@example.com", 1, .storeOwner, ["*"]⟩) rfl).mpr
      ⟨rfl, .inl (by decide), "a", ⟨1, 1, 1, ""⟩, ⟨1, 1, "ada@example.com", 1, .storeOwner, ["*"]⟩, by decide, rfl,
        ⟨adaOwns, Identity.ada,
          ⟨1, some 1, .storeOwner, "Owner", none, ["*"], true⟩, by decide, rfl, by decide, rfl,
          by decide, rfl⟩, by decide, rfl, rfl⟩⟩

/-- A mutation that another origin makes the browser send: with the browser's cookies, and
without the headers only the console's own pages can set. -/
def Forged (request : ApiRequest) : Prop :=
  request.method ∉ safeMethods ∧ request.authorization = none ∧ ¬ Echoed request

/-- A forged mutation that reaches a handler, public or not, reaches it with neither a
principal nor a session cookie, so no handler acts in the browser's session. -/
theorem forged_mutations_meet_no_session (tokens : AccessTokens) (withinLimit : Bool) (route : Route)
    (request : ApiRequest) (now : Instant) (rows : Directory) (user : Option AuthenticatedUser)
    (forged : Forged request) (admitted : canActivate tokens withinLimit route request now rows = .ok user) :
    user = none ∧ cookieAuthed request = false ∧ route.isPublic = true ∧ route.permissions = [] := by
  obtain ⟨mutates, headerless, unechoed⟩ := forged
  obtain ⟨_, passed, authenticated, allowed⟩ := canActivate_ok_iff.mp admitted
  have sessionless : cookieAuthed request = false := by
    obtain safe | sessionless | echoed := csrfGuard_ok_iff.mp passed
    · exact absurd safe mutates
    · exact sessionless
    · exact absurd echoed unechoed
  have tokenless : presentedToken tokens request = none := by
    have empty : truthy (request.cookies accessCookie) = false := (Bool.or_eq_false_iff.mp sessionless).1
    unfold presentedToken
    cases cookie : request.cookies accessCookie with
    | none => simp [headerless]
    | some token =>
        have blank : token = "" := by simpa [truthy, cookie] using empty
        simp [blank, headerless]
  obtain ⟨opened, rfl⟩ | ⟨_, principal, rfl, token, _, presented, _⟩ := jwtAuthGuard_ok_iff.mp authenticated
  · obtain none | ⟨principal, same, _⟩ := rolesGuard_ok_iff.mp allowed
    · exact ⟨rfl, sessionless, opened, none⟩
    · cases same
  · rw [tokenless] at presented
    cases presented

/-- A form of another origin, sent to a public handler by a browser without a session. -/
def strayForm : ApiRequest where
  method := "POST"
  cookies := fun _ => none
  csrfToken := none
  authorization := none
  tenantHeader := none

theorem stray_form_meets_no_session : cookieAuthed strayForm = false :=
  (forged_mutations_meet_no_session adaTokens true ⟨true, []⟩ strayForm 0 (adaRows []) none
    ⟨by decide, rfl, fun echoed => absurd echoed.1 (by decide)⟩ rfl).2.1

/-- Two readings of access tokens that agree on who a token is for, whatever role and
e-mail they find in it. -/
def SameMembers (first second : AccessTokens) : Prop :=
  first.fromAuthHeader = second.fromAuthHeader ∧
    ∀ token now, (first.verify token now).map (fun claims => (claims.sub, claims.tid)) =
      (second.verify token now).map fun claims => (claims.sub, claims.tid)

theorem validate_congr {first second : AccessTokenPayload} (sub : first.sub = second.sub) (tid : first.tid = second.tid)
    (rows : Directory) : validate first rows = validate second rows := by
  unfold validate
  rw [sub, tid]

theorem presentedToken_congr {first second : AccessTokens} (headers : first.fromAuthHeader = second.fromAuthHeader)
    (request : ApiRequest) : presentedToken first request = presentedToken second request := by
  unfold presentedToken
  rw [headers]

/-- Who a handler works for comes from the rows: neither the role and the e-mail in the
token nor the `X-Tenant-Id` header of the request makes any difference. -/
theorem authority_comes_from_the_rows (first second : AccessTokens) (withinLimit : Bool) (route : Route)
    (request : ApiRequest) (header : Option TenantId) (now : Instant) (rows : Directory)
    (same : SameMembers first second) :
    canActivate first withinLimit route request now rows =
      canActivate second withinLimit route { request with tenantHeader := header } now rows := by
  obtain ⟨headers, subjects⟩ := same
  have guard : jwtAuthGuard first route request now rows =
      jwtAuthGuard second route { request with tenantHeader := header } now rows := by
    have presented : presentedToken second { request with tenantHeader := header } = presentedToken first request :=
      (presentedToken_congr headers request).symm
    unfold jwtAuthGuard
    rw [presented]
    cases presentedToken first request with
    | none => rfl
    | some token =>
        have agree := subjects token now
        simp only [Option.bind_some]
        cases found : first.verify token now with
        | none =>
            rw [found, Option.map_none] at agree
            rw [Option.map_eq_none_iff.mp agree.symm]
        | some claims =>
            rw [found, Option.map_some] at agree
            obtain ⟨other, there, equal⟩ := Option.map_eq_some_iff.mp agree.symm
            obtain ⟨sub, tid⟩ := Prod.mk.inj equal
            rw [there]
            simp only [validate_congr sub.symm tid.symm]
  unfold canActivate
  rw [guard]
  rfl

/-- The tokens of `adaTokens` with another role and e-mail in them. -/
def forgedClaims : AccessTokens :=
  { adaTokens with verify := fun token _ => if token = "a" then some ⟨1, 1, 9, "eve@example.com"⟩ else none }

theorem forged_claims_gain_nothing :
    canActivate adaTokens true ⟨false, ["user:read"]⟩ adaGet 0 (adaRows []) =
      canActivate forgedClaims true ⟨false, ["user:read"]⟩ { adaGet with tenantHeader := some 2 } 0 (adaRows []) := by
  refine authority_comes_from_the_rows adaTokens forgedClaims true ⟨false, ["user:read"]⟩ adaGet (some 2) 0
    (adaRows []) ⟨rfl, fun token now => ?_⟩
  simp only [adaTokens, forgedClaims]
  split <;> rfl

end Aicos.Properties

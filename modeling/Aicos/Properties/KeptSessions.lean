import Aicos.Properties.EchoedRequests
import Aicos.Properties.SignInAtomicity
import Aicos.Properties.SilentRefresh

namespace Aicos.Properties

open Aicos.Commerce Aicos.Data Aicos.Identity Aicos.Transaction Aicos.Transition

/-! The rotation of refresh tokens between the console and the API: the page always holds
the newest token of its session, or that token is on its way. -/

/-- What JWT signatures and argon2 hashes are for. -/
structure Runtime.Sound (runtime : Runtime) : Prop where
  signed : ∀ payload issued now other,
    runtime.verifyRefresh (runtime.signRefresh payload issued) now = some other → other = payload
  filled : ∀ payload issued, runtime.signRefresh payload issued ≠ ""
  hashed : ∀ salt text, runtime.verify (runtime.hash salt text) text = true

/-- The token of a session that is open, of a user who is an active member. -/
structure LiveToken (runtime : Runtime) (rows : Directory) (token : String) (payload : RefreshTokenPayload)
    (session : Session) (membership : Membership) : Prop where
  filled : token ≠ ""
  signed : ∀ now other, runtime.verifyRefresh token now = some other → other = payload
  found : findSession payload.sid rows = some session
  unrevoked : session.revokedAt = none
  mine : session.userId = payload.sub
  hashed : runtime.verify session.refreshTokenHash token = true
  member : findMembership payload.tid payload.sub rows = some membership
  active : membership.status = .active

def Live (runtime : Runtime) (rows : Directory) (token : String) : Prop :=
  ∃ payload session membership, LiveToken runtime rows token payload session membership

/-- Neither the token nor its session has run out. -/
def Unexpired (runtime : Runtime) (rows : Directory) (token : String) (now : Instant) : Prop :=
  ∃ payload, runtime.verifyRefresh token now = some payload ∧
    ∀ session, findSession payload.sid rows = some session → now ≤ session.expiresAt

section Calls

variable {α β : Type} {rest : α → Call β} {fails : AuthStep → Bool} {step : AuthStep} {rows after : Directory}
  {result : Except AuthFailure β}

/-- A failure that has no answer for the client. -/
def Silent (failure : AuthFailure) : Prop :=
  ∀ error, failure ≠ .http error

theorem silent_step (step : AuthStep) : Silent (.step step) :=
  fun _ same => by cases same

theorem silent_constraint (statement : IdentityWrite) : Silent (.constraint statement) :=
  fun _ same => by cases same

theorem compute_ran {value : α} (ran : (compute fails step value >>= rest) rows = (result, after)) :
    (∃ failure, result = .error failure ∧ Silent failure) ∨ rest value rows = (result, after) := by
  rw [bind_apply, compute] at ran
  by_cases broken : fails step = true
  · rw [if_pos broken] at ran
    cases ran
    exact .inl ⟨_, rfl, silent_step _⟩
  · rw [if_neg broken] at ran
    exact .inr ran

theorem exec_ran {statement : IdentityWrite} {rest : Unit → Call β}
    (ran : (asSystem fails step (Program.exec statement) >>= rest) rows = (result, after)) :
    (∃ failure, result = .error failure ∧ Silent failure) ∨
      statement.admits rows = true ∧ rest () (statement.apply rows) = (result, after) := by
  rw [bind_apply, asSystem_exec] at ran
  by_cases broken : fails step = true
  · rw [if_pos broken] at ran
    cases ran
    exact .inl ⟨_, rfl, silent_step _⟩
  · rw [if_neg broken] at ran
    by_cases admitted : statement.admits rows = true
    · rw [if_pos admitted] at ran
      exact .inr ⟨admitted, ran⟩
    · rw [if_neg admitted] at ran
      cases ran
      exact .inl ⟨_, rfl, silent_constraint _⟩

end Calls

section Issue

variable {runtime : Runtime} {config : AuthConfig} {fails : AuthStep → Bool} {principal : Principal} {draw : Draw}
  {now : Instant} {rows after : Directory} {result : Except AuthFailure TokenPair}

/-- What `issueTokens` comes to: a session with the hash of the token it returns, or a 500. -/
theorem issueTokens_ran (ran : issueTokens runtime config fails principal draw now rows = (result, after)) :
    (∃ failure, result = .error failure ∧ Silent failure) ∨
      ∃ tokens, result = .ok tokens ∧
        tokens.refreshToken = runtime.signRefresh (refreshPayload principal draw.sessionId) now ∧
        (inserted config principal draw now).admits rows = true ∧
        after = (IdentityWrite.storeHash draw.sessionId (runtime.hash draw.salt tokens.refreshToken)).apply
          ((inserted config principal draw now).apply rows) := by
  unfold issueTokens at ran
  obtain failed | ⟨admitted, ran⟩ := exec_ran ran
  · exact .inl failed
  obtain failed | ran := compute_ran ran
  · exact .inl failed
  obtain failed | ran := compute_ran ran
  · exact .inl failed
  obtain failed | ran := compute_ran ran
  · exact .inl failed
  obtain failed | ⟨_, ran⟩ := exec_ran ran
  · exact .inl failed
  cases ran
  exact .inr ⟨_, rfl, rfl, admitted, rfl⟩

end Issue

section Rotation

variable {runtime : Runtime} {config : AuthConfig} {rows after : Directory} {token : String}

/-- The session that a refresh opens is there under its new hash. -/
theorem findSession_opened {principal : Principal} {draw : Draw} {now : Instant} (hash : String)
    (admitted : (inserted config principal draw now).admits rows = true) :
    findSession draw.sessionId ((IdentityWrite.storeHash draw.sessionId hash).apply
        ((inserted config principal draw now).apply rows)) =
      some (withHash hash (placeholderSession config.refreshTtl principal draw.sessionId now)) := by
  obtain ⟨fresh, _⟩ := inserted_admits.mp admitted
  have absent : rows.sessions.find? (fun session => session.id = draw.sessionId) = none := by
    refine List.find?_eq_none.mpr fun session member same => ?_
    exact (fresh (session.id, session.refreshTokenHash) (List.mem_map.mpr ⟨session, member, rfl⟩)).1
      (of_decide_eq_true same)
  have placed : (rows.sessions ++ [placeholderSession config.refreshTtl principal draw.sessionId now]).find?
      (fun session => session.id = draw.sessionId) =
        some (placeholderSession config.refreshTtl principal draw.sessionId now) := by
    rw [List.find?_append, absent, Option.none_or]
    exact List.find?_cons_of_pos (decide_eq_true rfl)
  show (updateWhere _ _ (rows.sessions ++ [_])).find? (fun session => session.id = draw.sessionId) = _
  have kept : ∀ session, (withHash hash session).id = session.id := fun _ => rfl
  rw [find?_updateWhere_key kept, placed]
  exact congrArg some (if_pos (decide_eq_true rfl))

theorem LiveToken.renewed (sound : Runtime.Sound runtime) {payload : RefreshTokenPayload} {session : Session}
    {membership : Membership} (live : LiveToken runtime rows token payload session membership) {draw : Draw}
    {now : Instant}
    (admitted : (inserted config (refreshedPrincipal payload membership) draw now).admits
      ((IdentityWrite.revokeSession session.id now).apply rows) = true) :
    let fresh := runtime.signRefresh (refreshPayload (refreshedPrincipal payload membership) draw.sessionId) now
    Live runtime ((IdentityWrite.storeHash draw.sessionId (runtime.hash draw.salt fresh)).apply
      ((inserted config (refreshedPrincipal payload membership) draw now).apply
        ((IdentityWrite.revokeSession session.id now).apply rows))) fresh := by
  have named := List.find?_some live.member
  obtain ⟨tenant, _⟩ := of_decide_eq_true named
  refine ⟨refreshPayload (refreshedPrincipal payload membership) draw.sessionId, _, membership, {
    filled := sound.filled _ _
    signed := sound.signed _ _
    found := findSession_opened _ admitted
    unrevoked := rfl
    mine := rfl
    hashed := sound.hashed _ _
    member := ?_
    active := live.active }⟩
  have member := live.member
  rw [← tenant] at member
  exact member

/-- A refresh with the newest token ends with a newer one, or with a 500. -/
theorem Live.refresh (sound : Runtime.Sound runtime) (live : Live runtime rows token) {fails : AuthStep → Bool}
    {draw : Draw} {now : Instant} (unexpired : Unexpired runtime rows token now)
    {result : Except AuthFailure TokenPair}
    (ran : Identity.refresh runtime config fails token draw now rows = (result, after)) :
    (∃ failure, result = .error failure ∧ Silent failure) ∨
      ∃ tokens, result = .ok tokens ∧ Live runtime after tokens.refreshToken := by
  obtain ⟨payload, session, membership, live⟩ := live
  obtain ⟨other, verified, inTime⟩ := unexpired
  obtain rfl := live.signed now other verified
  have accepted : acceptsToken runtime token other now session = true :=
    decide_eq_true ⟨live.unrevoked, live.mine, inTime session live.found, live.hashed⟩
  cases works : fails .transaction with
  | true =>
      have broken : asSystem fails .transaction (consumeSession runtime token other now) rows =
          (.error (.step .transaction), rows) := if_pos works
      rw [Identity.refresh, verified] at ran
      dsimp only at ran
      rw [bind_apply, broken] at ran
      cases ran
      exact .inl ⟨_, rfl, silent_step _⟩
  | false =>
      have consumed := asSystem_ok works (consumeSession_alone live.found accepted)
      rw [live.member, Option.filter_some, if_pos (decide_eq_true live.active)] at consumed
      rw [refresh_granted config draw verified consumed] at ran
      obtain failed | ⟨tokens, issued, signed, admitted, rfl⟩ := issueTokens_ran ran
      · exact .inl failed
      · refine .inr ⟨tokens, issued, ?_⟩
        rw [signed]
        exact live.renewed sound admitted

/-- What the API answers to the newest token: too many requests, a newer one, or a 500. -/
theorem Live.served (sound : Runtime.Sound runtime) (live : Live runtime rows token) {cookies : CookieConfig}
    {request : ApiRequest} (passes : csrfGuard request = .ok ()) (carried : request.cookies refreshCookie = some token)
    {draw : RefreshDraw} (unexpired : Unexpired runtime rows token draw.now) {reply : Reply}
    (served : serveRefresh runtime config cookies request draw rows = (reply, after)) :
    (reply = ⟨429, []⟩ ∧ after = rows) ∨ reply.status = 500 ∨
      ∃ tokens, reply = ⟨200, setAuthCookies draw.csrf tokens cookies⟩ ∧
        Live runtime after tokens.refreshToken := by
  obtain ⟨_, _, _, newest⟩ := id live
  have kept : (request.cookies refreshCookie).filter (fun token => token ≠ "") = some token := by
    rw [carried, Option.filter_some, if_pos (decide_eq_true newest.filled)]
  unfold serveRefresh at served
  rw [passes, kept] at served
  split at served
  · cases served
    exact .inl ⟨rfl, rfl⟩
  · dsimp only at served
    cases refreshed : Identity.refresh runtime config draw.fails token draw.draw draw.now rows with
    | mk result rows' =>
        rw [refreshed] at served
        obtain ⟨failure, rfl, silent⟩ | ⟨tokens, rfl, renewed⟩ := live.refresh sound unexpired refreshed
        · cases failure with
          | http error => exact absurd rfl (silent error)
          | constraint statement => cases served; exact .inr (.inl rfl)
          | step failed => cases served; exact .inr (.inl rfl)
        · cases served
          exact .inr (.inr ⟨tokens, rfl, renewed⟩)

end Rotation

/-- The browser holds the newest token. -/
def Held (runtime : Runtime) (console : Console) : Prop :=
  ∃ token, console.jar.value refreshCookie = some token ∧ Live runtime console.directory token

/-- A response that brings the newest token. -/
def Brings (runtime : Runtime) (cookies : CookieConfig) (rows : Directory) (reply : Reply) : Prop :=
  ∃ csrf tokens, reply = ⟨200, setAuthCookies csrf tokens cookies⟩ ∧ Live runtime rows tokens.refreshToken

/-- The page's own tokens: what the browser holds and what a response brings. -/
def Ours (cookies : CookieConfig) (console : Console) (token : String) : Prop :=
  console.jar.value refreshCookie = some token ∨
    ∃ csrf tokens, ⟨.refresh, .answered ⟨200, setAuthCookies csrf tokens cookies⟩⟩ ∈ console.network ∧
      tokens.refreshToken = token

/-- What may be under way: calls whose answers set no cookies, and a refresh that was asked
with the newest token or brings a newer one. -/
def Conveys (runtime : Runtime) (cookies : CookieConfig) (console : Console) : Flight → Prop
  | ⟨.call _, .asked _⟩ => True
  | ⟨.call _, .answered reply⟩ => reply.cookies = []
  | ⟨.refresh, .asked request⟩ =>
      Held runtime console ∧ request.cookies refreshCookie = console.jar.value refreshCookie
  | ⟨.refresh, .answered reply⟩ =>
      (Held runtime console ∧ reply = ⟨429, []⟩) ∨ Brings runtime cookies console.directory reply

structure HoldsSession (runtime : Runtime) (cookies : CookieConfig) (console : Console) : Prop where
  page : PageInvariant console
  echoing : Echoing cookies console
  flights : ∀ flight ∈ console.network, Conveys runtime cookies console flight
  idle : console.refreshPromise = false → Held runtime console

/-- No answer to a refresh gets lost or is a 500, a refresh comes in time, the other answers
set no cookies (none is to a login, a signup or a logout), the CSRF cookie outlasts the two
others, and nobody else ends the session. -/
def Unhindered (runtime : Runtime) (config : AuthConfig) (cookies : CookieConfig) (console : Console) :
    ConsoleAction → Prop
  | .call _ _ | .deliver _ => True
  | .answer _ reply => reply.cookies = []
  | .serveRefresh flight draw => draw.csrf ≠ "" ∧
      ∀ request, console.network[flight]? = some ⟨.refresh, .asked request⟩ →
        (∀ token, request.cookies refreshCookie = some token → Unexpired runtime console.directory token draw.now) ∧
          (serveRefresh runtime config cookies request draw console.directory).1.status ≠ 500
  | .lose flight => ∀ reply, console.network[flight]? ≠ some ⟨.refresh, .answered reply⟩
  | .expire name => name ≠ refreshCookie ∧
      (name = csrfCookie → ∀ cookie ∈ console.jar, cookie.name ≠ accessCookie ∧ cookie.name ≠ refreshCookie)
  | .elsewhere change => ∀ token, Ours cookies console token → Live runtime console.directory token →
      Live runtime (change console.directory) token

theorem Unhindered.served {runtime : Runtime} {config : AuthConfig} {cookies : CookieConfig} {console : Console}
    {action : ConsoleAction} (unhindered : Unhindered runtime config cookies console action) :
    Served cookies console action := by
  cases action with
  | answer flight reply => exact .inl unhindered
  | serveRefresh flight draw => exact unhindered.1
  | expire name => exact unhindered.2
  | call _ _ | deliver _ | lose _ | elsewhere _ => trivial

section Page

variable {runtime : Runtime} {config : AuthConfig} {cookies : CookieConfig} {console after : Console} {flight : Nat}
  {wire : Wire}

/-- What was live for the page still is. -/
def StillLive (runtime : Runtime) (cookies : CookieConfig) (console after : Console) : Prop :=
  ∀ token, Ours cookies console token → Live runtime console.directory token → Live runtime after.directory token

theorem keeps_of_eq (same : after.directory = console.directory) : StillLive runtime cookies console after := by
  intro token _ live
  rwa [same]

theorem Held.mono (held : Held runtime console) (jar : after.jar.value refreshCookie = console.jar.value refreshCookie)
    (keeps : StillLive runtime cookies console after) : Held runtime after := by
  obtain ⟨token, carried, live⟩ := held
  exact ⟨token, jar.trans carried, keeps token (.inl carried) live⟩

theorem Conveys.mono {other : Flight} (conveys : Conveys runtime cookies console other)
    (member : other ∈ console.network) (jar : after.jar.value refreshCookie = console.jar.value refreshCookie)
    (keeps : StillLive runtime cookies console after) : Conveys runtime cookies after other := by
  obtain ⟨owner, wire⟩ := other
  cases owner with
  | call id => cases wire <;> exact conveys
  | refresh =>
      cases wire with
      | asked request => exact ⟨conveys.1.mono jar keeps, conveys.2.trans jar.symm⟩
      | answered reply =>
          obtain ⟨held, same⟩ | ⟨csrf, tokens, rfl, live⟩ := conveys
          · exact .inl ⟨held.mono jar keeps, same⟩
          · exact .inr ⟨csrf, tokens, rfl, keeps _ (.inr ⟨csrf, tokens, member, rfl⟩) live⟩

/-- A flight of a call does not depend on the token. -/
theorem Conveys.of_call {other : Flight} {id : Nat} (conveys : Conveys runtime cookies console other)
    (call : other.owner = .call id) : Conveys runtime cookies after other := by
  obtain ⟨owner, wire⟩ := other
  cases call
  cases wire <;> exact conveys

/-- One refresh is out at most. -/
theorem Balanced.others_are_calls (balanced : Balanced console)
    (found : console.network[flight]? = some ⟨.refresh, wire⟩) {other : Flight}
    (member : other ∈ console.network.eraseIdx flight) : ∃ id, other.owner = .call id := by
  have landed := (balanced.land found).flights .refresh
  have one : owes (console.land flight) .refresh ≤ 1 := by
    simp only [owes]
    split <;> omega
  have none_left : flightsOf (console.land flight) .refresh = 0 := by
    rw [if_pos rfl] at landed
    omega
  cases whose : other.owner with
  | call id => exact ⟨id, rfl⟩
  | refresh => exact absurd (decide_eq_true whose) (List.countP_eq_zero.mp none_left other member)

theorem Balanced.waits (balanced : Balanced console)
    (found : console.network[flight]? = some ⟨.refresh, wire⟩) : console.refreshPromise = true := by
  have counted := balanced.flights .refresh
  have positive : 0 < flightsOf console .refresh :=
    List.countP_pos_iff.mpr ⟨_, List.mem_of_getElem? found, decide_eq_true rfl⟩
  cases promise : console.refreshPromise with
  | true => rfl
  | false =>
      simp only [owes, promise, Bool.false_eq_true, if_false] at counted
      omega

theorem value_accept (jar : Jar) (csrf : String) (tokens : TokenPair) :
    (jar.accept (setAuthCookies csrf tokens cookies)).value refreshCookie = some tokens.refreshToken := by
  have first : accessCookie ≠ refreshCookie := by decide
  have last : csrfCookie ≠ refreshCookie := by decide
  simp [setAuthCookies, Jar.accept, Jar.set, Jar.value, last, Ne.symm last]

theorem SessionJar.refresh_carried {jar : Jar} (shaped : SessionJar jar) (hosts : Hosts) :
    (rawFetch hosts jar "POST" "/auth/refresh").cookies refreshCookie = jar.value refreshCookie := by
  have goes : Jar.pathMatches refreshPath ("/api/v1" ++ "/auth/refresh") = true := by decide
  exact value_filter fun cookie member named => by rw [shaped.confined cookie member named, goes]

variable (holds : HoldsSession runtime cookies console)

include holds

theorem HoldsSession.others (found : console.network[flight]? = some ⟨.refresh, wire⟩) {other : Flight}
    (member : other ∈ console.network.eraseIdx flight) : Conveys runtime cookies after other := by
  obtain ⟨id, call⟩ := holds.page.balanced.others_are_calls found member
  exact (holds.flights other (List.mem_of_mem_eraseIdx member)).of_call call

theorem HoldsSession.silentRefresh (jar : after.jar = console.jar) (rows : after.directory = console.directory)
    (promise : after.refreshPromise = console.refreshPromise) (subset : after.network ⊆ console.network) :
    (∀ flight ∈ after.silentRefresh.network, Conveys runtime cookies after.silentRefresh flight) ∧
      (after.silentRefresh.refreshPromise = false → Held runtime after.silentRefresh) := by
  have kept (flight : Flight) (member : flight ∈ after.network) (now : Console) (sameJar : now.jar = after.jar)
      (sameRows : now.directory = after.directory) : Conveys runtime cookies now flight :=
    (holds.flights flight (subset member)).mono (subset member) (by rw [sameJar, jar])
      (keeps_of_eq (sameRows.trans rows))
  unfold Console.silentRefresh
  split
  · rename_i waits
    refine ⟨fun flight member => kept flight member _ rfl rfl, fun idle => ?_⟩
    rw [waits] at idle
    cases idle
  · rename_i idle
    have held : Held runtime console := holds.idle (by rw [← promise]; simpa using idle)
    have jarKept := congrArg (fun jar : Jar => jar.value refreshCookie) jar
    refine ⟨fun flight member => ?_, nofun⟩
    cases List.mem_append.mp member with
    | inl old => exact kept flight old _ rfl rfl
    | inr new =>
        obtain rfl := List.mem_singleton.mp new
        have keeps : StillLive runtime cookies console { after.fetch .refresh "POST" "/auth/refresh" with
            refreshPromise := true } := keeps_of_eq rows
        exact ⟨held.mono jarKept keeps, (jar ▸ holds.echoing.jar).refresh_carried after.hosts⟩

/-- Steps that change neither the token nor who may use it. -/
theorem HoldsSession.kept (after : Console)
    (jar : after.jar.value refreshCookie = console.jar.value refreshCookie)
    (keeps : StillLive runtime cookies console after) (promise : after.refreshPromise = console.refreshPromise)
    (subset : after.network ⊆ console.network) :
    (∀ flight ∈ after.network, Conveys runtime cookies after flight) ∧
      (after.refreshPromise = false → Held runtime after) := by
  refine ⟨fun flight member => (holds.flights flight (subset member)).mono (subset member) jar keeps, fun idle => ?_⟩
  exact (holds.idle (promise.symm.trans idle)).mono jar keeps

theorem HoldsSession.receive {id : Nat} (status : Nat) (jar : after.jar = console.jar)
    (rows : after.directory = console.directory) (promise : after.refreshPromise = console.refreshPromise)
    (subset : after.network ⊆ console.network) :
    (∀ flight ∈ (after.receive id status).network, Conveys runtime cookies (after.receive id status) flight) ∧
      ((after.receive id status).refreshPromise = false → Held runtime (after.receive id status)) := by
  have value := congrArg (fun jar : Jar => jar.value refreshCookie) jar
  have entered (phase : CallPhase) := holds.kept (after.enter id phase) value (keeps_of_eq rows) promise subset
  unfold Console.receive
  split
  · split
    · have unsent : (after.enter id .refreshing).network ⊆ console.network := subset
      exact holds.silentRefresh jar rows promise unsent
    · exact entered _
  · exact entered _
  · exact holds.kept after value (keeps_of_eq rows) promise subset

/-- A refresh that is over. -/
theorem HoldsSession.resolve (found : console.network[flight]? = some ⟨.refresh, wire⟩) (ok : Bool)
    (subset : after.network ⊆ console.network.eraseIdx flight) (held : Held runtime after) :
    (∀ flight ∈ (after.resolve ok).network, Conveys runtime cookies (after.resolve ok) flight) ∧
      ((after.resolve ok).refreshPromise = false → Held runtime (after.resolve ok)) := by
  refine ⟨fun other member => ?_, fun _ => held⟩
  cases List.mem_append.mp member with
  | inl old => exact holds.others found (subset old)
  | inr retried =>
      cases ok with
      | false => cases retried
      | true =>
          obtain ⟨entry, _, sent⟩ := List.mem_filterMap.mp retried
          unfold Console.retry at sent
          split at sent
          · cases sent
            trivial
          · cases sent

/-- The API answers a refresh. -/
theorem HoldsSession.served (sound : Runtime.Sound runtime) {request : ApiRequest} {draw : RefreshDraw}
    (found : console.network[flight]? = some ⟨.refresh, .asked request⟩)
    (unexpired : ∀ token, request.cookies refreshCookie = some token →
      Unexpired runtime console.directory token draw.now)
    {reply : Reply} {rows : Directory} (unbroken : reply.status ≠ 500)
    (served : serveRefresh runtime config cookies request draw console.directory = (reply, rows)) :
    Conveys runtime cookies { console.answer flight reply with directory := rows } ⟨.refresh, .answered reply⟩ := by
  have asked := holds.flights _ (List.mem_of_getElem? found)
  obtain ⟨⟨token, carried, live⟩, sent⟩ := asked
  have passes : csrfGuard request = .ok () := holds.echoing.proper _ (List.mem_of_getElem? found)
  have newest := sent.trans carried
  obtain ⟨rfl, rfl⟩ | broken | ⟨tokens, rfl, renewed⟩ :=
    live.served sound passes newest (unexpired token newest) served
  · exact .inl ⟨⟨token, carried, live⟩, rfl⟩
  · exact absurd broken unbroken
  · exact .inr ⟨draw.csrf, tokens, rfl, renewed⟩

/-- A response to a refresh that arrives leaves the newest token with the browser. -/
theorem HoldsSession.delivered {reply : Reply}
    (found : console.network[flight]? = some ⟨.refresh, .answered reply⟩) :
    Held runtime { console.land flight with jar := console.jar.accept reply.cookies } := by
  have conveys := holds.flights _ (List.mem_of_getElem? found)
  obtain ⟨held, rfl⟩ | ⟨csrf, tokens, rfl, live⟩ := conveys
  · exact held
  · exact ⟨tokens.refreshToken, value_accept console.jar csrf tokens, live⟩

theorem HoldsSession.step (sound : Runtime.Sound runtime) {action : ConsoleAction}
    (unhindered : Unhindered runtime config cookies console action) :
    HoldsSession runtime cookies (console.step runtime config cookies action) := by
  suffices stays :
      (∀ flight ∈ (console.step runtime config cookies action).network,
        Conveys runtime cookies (console.step runtime config cookies action) flight) ∧
      ((console.step runtime config cookies action).refreshPromise = false →
        Held runtime (console.step runtime config cookies action)) from
    ⟨holds.page.step action, holds.echoing.step unhindered.served, stays.1, stays.2⟩
  have unchanged := holds.kept console rfl (keeps_of_eq rfl) rfl fun _ member => member
  cases action with
  | call method path =>
      have same : StillLive runtime cookies console (console.step runtime config cookies (.call method path)) :=
        keeps_of_eq rfl
      refine ⟨fun flight member => ?_, fun idle => (holds.idle idle).mono rfl same⟩
      cases List.mem_append.mp member with
      | inl old => exact (holds.flights flight old).mono old rfl same
      | inr new =>
          obtain rfl := List.mem_singleton.mp new
          trivial
  | answer flight reply =>
      simp only [Console.step]
      split
      · rename_i id request found
        have same : StillLive runtime cookies console (console.answer flight reply) := keeps_of_eq rfl
        refine ⟨fun other member => ?_, fun idle => (holds.idle idle).mono rfl same⟩
        have modified := (perm_modify found fun flight => { flight with wire := .answered reply }).mem_iff.mp member
        cases List.mem_cons.mp modified with
        | inl answered =>
            subst answered
            exact unhindered
        | inr kept =>
            have old := List.mem_of_mem_eraseIdx kept
            exact (holds.flights other old).mono old rfl same
      · exact unchanged
  | serveRefresh flight draw =>
      simp only [Console.step]
      split
      · rename_i request found
        obtain ⟨_, inTime⟩ := unhindered
        obtain ⟨unexpired, unbroken⟩ := inTime request found
        have conveys := holds.served sound found unexpired unbroken rfl
        have waits := holds.page.balanced.waits found
        refine ⟨fun other member => ?_, fun idle => ?_⟩
        · have modified := (perm_modify found fun flight => { flight with
            wire := .answered (serveRefresh runtime config cookies request draw console.directory).1 }).mem_iff.mp
              member
          cases List.mem_cons.mp modified with
          | inl answered =>
              subst answered
              exact conveys
          | inr kept => exact holds.others found kept
        · cases waits.symm.trans idle
      · exact unchanged
  | deliver flight =>
      simp only [Console.step]
      split
      · rename_i owner reply found
        cases owner with
        | refresh => exact holds.resolve found reply.ok (fun _ member => member) (holds.delivered found)
        | call id =>
            have plain : reply.cookies = [] := holds.flights _ (List.mem_of_getElem? found)
            have same : console.jar.accept reply.cookies = console.jar := by
              rw [plain]
              rfl
            exact holds.receive reply.status same rfl rfl fun _ member => List.mem_of_mem_eraseIdx member
      · exact unchanged
  | lose flight =>
      simp only [Console.step]
      split
      · rename_i wire found
        cases wire with
        | asked request =>
            have held : Held runtime console := (holds.flights _ (List.mem_of_getElem? found)).1
            exact holds.resolve found false (fun _ member => member) held
        | answered reply => exact absurd found (unhindered reply)
      · rename_i id wire found
        exact holds.kept _ rfl (keeps_of_eq rfl) rfl fun _ member => List.mem_of_mem_eraseIdx member
      · exact unchanged
  | expire name =>
      obtain ⟨other, _⟩ := unhindered
      have same : (console.jar.drop name).value refreshCookie = console.jar.value refreshCookie :=
        value_filter fun cookie _ named => decide_eq_true (named ▸ Ne.symm other)
      exact holds.kept _ same (keeps_of_eq rfl) rfl fun _ member => member
  | elsewhere change => exact holds.kept _ rfl unhindered rfl fun _ member => member

theorem HoldsSession.newest :
    Held runtime console ∨ ∃ reply, ⟨.refresh, .answered reply⟩ ∈ console.network ∧
      Brings runtime cookies console.directory reply := by
  cases promise : console.refreshPromise with
  | false => exact .inl (holds.idle promise)
  | true =>
      obtain ⟨flight, wire, found⟩ := holds.page.balanced.in_flight .refresh (by simp [owes, promise])
      have member := List.mem_of_getElem? found
      have conveys := holds.flights _ member
      cases wire with
      | asked request => exact .inl conveys.1
      | answered reply =>
          obtain ⟨held, _⟩ | brings := conveys
          · exact .inl held
          · exact .inr ⟨reply, member, brings⟩

end Page

/-- The newest token is with the browser or in a response to it, with the browser where no
refresh is out, and a refresh that comes in time is not refused. -/
def KeepsSession (runtime : Runtime) (config : AuthConfig) (cookies : CookieConfig) (console : Console) : Prop :=
  (Held runtime console ∨ ∃ reply, ⟨.refresh, .answered reply⟩ ∈ console.network ∧
    Brings runtime cookies console.directory reply) ∧
  (console.refreshPromise = false → Held runtime console) ∧
  ∀ request draw, ⟨.refresh, .asked request⟩ ∈ console.network →
    (∀ token, request.cookies refreshCookie = some token → Unexpired runtime console.directory token draw.now) →
      (serveRefresh runtime config cookies request draw console.directory).1.status ∈ [200, 429, 500]

/-- Each refresh ends the session that the one before it opened, and with any number of calls
that share refreshes, and answers in any order, a page on the API's host is never left with
an old token. -/
theorem rotation_keeps_the_session (runtime : Runtime) (config : AuthConfig) (cookies : CookieConfig)
    (hosts : Hosts) (directory : Directory) (jar : Jar) (trace : List ConsoleAction) (sound : Runtime.Sound runtime)
    (atHome : hosts.page = hosts.api) (shaped : SessionJar jar)
    (held : Held runtime (Console.start hosts directory jar))
    (unhindered : Along (Console.step runtime config cookies) (Unhindered runtime config cookies)
      (Console.start hosts directory jar) trace) :
    Visits (Console.step runtime config cookies) (KeepsSession runtime config cookies)
      (Console.start hosts directory jar) trace := by
  have start : HoldsSession runtime cookies (Console.start hosts directory jar) := {
    page := pageInvariant_start hosts directory jar
    echoing := ⟨atHome, shaped, fun _ member => nomatch member⟩
    flights := fun _ member => nomatch member
    idle := fun _ => held }
  have visits : Visits (Console.step runtime config cookies) (HoldsSession runtime cookies)
      (Console.start hosts directory jar) trace :=
    visits_of_along (fun _ _ holds quiet => holds.step sound quiet) start unhindered
  refine visits.mono fun console holds => ⟨holds.newest, holds.idle, fun request draw member unexpired => ?_⟩
  obtain ⟨⟨token, carried, live⟩, sent⟩ := holds.flights _ member
  have newest := sent.trans carried
  have passes : csrfGuard request = .ok () := holds.echoing.proper _ member
  cases served : serveRefresh runtime config cookies request draw console.directory with
  | mk reply rows =>
      obtain ⟨rfl, _⟩ | broken | ⟨tokens, rfl, _⟩ :=
        live.served sound passes newest (unexpired token newest) served
      · simp
      · simp [broken]
      · simp

/-- Tokens that are never empty. -/
def dottedRuntime : Runtime :=
  { plainRuntime with
    signRefresh := fun payload now => String.ofList ('.' :: (plainRuntime.signRefresh payload now).toList) }

theorem dottedRuntime_sound : Runtime.Sound dottedRuntime where
  signed := by
    intro payload issued now other verified
    simp [dottedRuntime, plainRuntime, List.count_replicate] at verified
    exact verified.symm
  filled := by
    intro payload issued same
    have chars := congrArg String.toList same
    simp [dottedRuntime] at chars
  hashed := by
    intro salt text
    simp [dottedRuntime, plainRuntime]

def dottedSession : Session :=
  { openSession with refreshTokenHash := "$$.uts" }

def adaJar : Jar :=
  setAuthCookies "c" ⟨"a", ".uts", "Bearer", "15m"⟩ ⟨true, "15m", "30d"⟩

def adaRefreshes : List ConsoleAction :=
  [.call "GET" "/products", .answer 0 ⟨401, []⟩, .deliver 0,
    .serveRefresh 0 ⟨true, fun _ => false, ⟨2, 0⟩, "d", 10⟩, .deliver 0]

theorem adaJar_shaped : SessionJar adaJar where
  csrf := by decide
  confined := by decide
  paired := fun _ => by decide

theorem ada_live : Live dottedRuntime (adaRows [dottedSession]) ".uts" :=
  ⟨⟨1, 1, 1⟩, dottedSession, adaOwns, {
    filled := by decide
    signed := fun _ _ verified => (Option.some.inj verified).symm
    found := by decide
    unrevoked := rfl
    mine := rfl
    hashed := by decide
    member := by decide
    active := rfl }⟩

theorem adaRefreshes_unhindered :
    Along (Console.step dottedRuntime plainConfig ⟨true, "15m", "30d"⟩)
      (Unhindered dottedRuntime plainConfig ⟨true, "15m", "30d"⟩)
      (Console.start oneHost (adaRows [dottedSession]) adaJar) adaRefreshes := by
  refine ⟨trivial, rfl, trivial, ⟨by decide, fun request found => ?_⟩, trivial, trivial⟩
  have asked : some (⟨.refresh, .asked (rawFetch oneHost adaJar "POST" "/auth/refresh")⟩ : Flight) =
      some ⟨.refresh, .asked request⟩ := found
  cases asked
  refine ⟨fun token carried => ?_, by decide⟩
  have same : some ".uts" = some token := carried
  cases same
  refine ⟨⟨1, 1, 1⟩, by decide, fun session there => ?_⟩
  have mine : some dottedSession = some session := there
  cases mine
  decide

/-- Ada's access token has run out, and the refresh that her page sends is served. -/
theorem adas_session_is_kept :
    Visits (Console.step dottedRuntime plainConfig ⟨true, "15m", "30d"⟩)
      (KeepsSession dottedRuntime plainConfig ⟨true, "15m", "30d"⟩)
      (Console.start oneHost (adaRows [dottedSession]) adaJar) adaRefreshes :=
  rotation_keeps_the_session dottedRuntime plainConfig _ _ _ adaJar adaRefreshes dottedRuntime_sound rfl adaJar_shaped
    ⟨".uts", by decide, ada_live⟩ adaRefreshes_unhindered

end Aicos.Properties

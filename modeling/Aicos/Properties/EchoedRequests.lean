import Aicos.Identity.ApiClient
import Aicos.Identity.SignIns
import Aicos.Transition.Run

namespace Aicos.Properties

open Aicos.Commerce Aicos.Identity Aicos.Transition

/-! The two ends of the double submit: what the console's `rawFetch` sends is what
`CsrfGuard` asks for. -/

/-- The cookies of a session as `setAuthCookies` makes them, with the CSRF cookie never
missing beside the other two. -/
structure SessionJar (jar : Jar) : Prop where
  csrf : ∀ cookie ∈ jar, cookie.name = csrfCookie → cookie.httpOnly = false ∧ cookie.path = "/" ∧ cookie.value ≠ ""
  confined : ∀ cookie ∈ jar, cookie.name = refreshCookie → cookie.path = refreshPath
  paired : (∃ cookie ∈ jar, cookie.name = accessCookie ∨ cookie.name = refreshCookie) →
    ∃ cookie ∈ jar, cookie.name = csrfCookie

/-- A response sets all three cookies or none. -/
def SetsSession (config : CookieConfig) (set : List Cookie) : Prop :=
  set = [] ∨ ∃ csrf tokens, csrf ≠ "" ∧ set = setAuthCookies csrf tokens config

section Jars

variable {jar : Jar} {config : CookieConfig} {name : String} {cookie : Cookie}

theorem value_eq_none_iff : jar.value name = none ↔ ∀ cookie ∈ jar, cookie.name ≠ name := by
  simp [Jar.value]

theorem exists_of_value {value : String} (found : jar.value name = some value) :
    ∃ cookie ∈ jar, cookie.name = name ∧ cookie.value = value := by
  obtain ⟨cookie, first, rfl⟩ := Option.map_eq_some_iff.mp found
  exact ⟨cookie, List.mem_of_find?_eq_some first, by simpa using List.find?_some first, rfl⟩

theorem mem_set {other : Cookie} :
    other ∈ jar.set cookie ↔ other = cookie ∨ other ∈ jar ∧ other.name ≠ cookie.name := by
  simp [Jar.set]

/-- A filter that keeps all the cookies of a name does not change what the name stands for. -/
theorem value_filter {keep : Cookie → Bool} (kept : ∀ cookie ∈ jar, cookie.name = name → keep cookie = true) :
    Jar.value (jar.filter keep) name = jar.value name := by
  unfold Jar.value
  induction jar with
  | nil => rfl
  | cons cookie rest ih =>
      have later := ih fun other member => kept other (List.mem_cons_of_mem _ member)
      by_cases named : cookie.name = name
      · simp [List.filter_cons_of_pos (kept cookie List.mem_cons_self named), named]
      · rw [List.find?_cons_of_neg (by simpa using named), ← later]
        by_cases keeps : keep cookie = true
        · rw [List.filter_cons_of_pos keeps, List.find?_cons_of_neg (by simpa using named)]
        · rw [List.filter_cons_of_neg keeps]

theorem SessionJar.accept (shaped : SessionJar jar) {set : List Cookie} (fresh : SetsSession config set) :
    SessionJar (jar.accept set) := by
  obtain rfl | ⟨csrf, tokens, filled, rfl⟩ := fresh
  · exact shaped
  · refine ⟨?_, ?_, ?_⟩
    · intro cookie member named
      simp only [setAuthCookies, Jar.accept, List.foldl_cons, List.foldl_nil, mem_set] at member
      obtain rfl | ⟨rest, apart⟩ := member
      · exact ⟨rfl, rfl, filled⟩
      · exact absurd named apart
    · intro cookie member named
      simp only [setAuthCookies, Jar.accept, List.foldl_cons, List.foldl_nil, mem_set] at member
      obtain rfl | ⟨rfl | ⟨rfl | ⟨old, _⟩, _⟩, _⟩ := member
      · cases (show csrfCookie ≠ refreshCookie by decide) named
      · rfl
      · cases (show accessCookie ≠ refreshCookie by decide) named
      · exact shaped.confined cookie old named
    · intro _
      simp only [setAuthCookies, Jar.accept, List.foldl_cons, List.foldl_nil, mem_set]
      exact ⟨_, .inl rfl, rfl⟩

theorem SessionJar.drop (shaped : SessionJar jar)
    (last : name = csrfCookie → ∀ cookie ∈ jar, cookie.name ≠ accessCookie ∧ cookie.name ≠ refreshCookie) :
    SessionJar (jar.drop name) := by
  have kept : ∀ cookie, cookie ∈ jar.drop name ↔ cookie ∈ jar ∧ cookie.name ≠ name := by
    simp [Jar.drop]
  refine ⟨fun cookie member => shaped.csrf cookie ((kept cookie).mp member).1,
    fun cookie member => shaped.confined cookie ((kept cookie).mp member).1, ?_⟩
  intro session
  obtain ⟨cookie, member, named⟩ := session
  obtain ⟨member, _⟩ := (kept cookie).mp member
  obtain ⟨csrf, present, is_csrf⟩ := shaped.paired ⟨cookie, member, named⟩
  refine ⟨csrf, (kept csrf).mpr ⟨present, fun same => ?_⟩, is_csrf⟩
  have gone := last (same.symm.trans is_csrf) cookie member
  exact named.elim gone.1 gone.2

/-- What the console sends from the API's own host passes the CSRF guard, whatever the
method and the path. -/
theorem SessionJar.rawFetch_passes (shaped : SessionJar jar) {hosts : Hosts} (atHome : hosts.page = hosts.api)
    (method path : String) : csrfGuard (rawFetch hosts jar method path) = .ok () := by
  have sent : (jar.sentTo ("/api/v1" ++ path)).value csrfCookie = jar.value csrfCookie :=
    value_filter fun cookie member named => by simp [Jar.pathMatches, (shaped.csrf cookie member named).2.1]
  have read : (jar.readable hosts).value csrfCookie = jar.value csrfCookie := by
    rw [Jar.readable, if_pos atHome]
    exact value_filter fun cookie member named => by simp [(shaped.csrf cookie member named).1]
  rw [csrfGuard_ok_iff]
  cases authed : cookieAuthed (rawFetch hosts jar method path) with
  | false => exact .inr (.inl rfl)
  | true =>
      -- a session cookie went out, so the jar holds a CSRF cookie
      have session : ∃ cookie ∈ jar, cookie.name = accessCookie ∨ cookie.name = refreshCookie := by
        have carried : ∀ name, truthy ((rawFetch hosts jar method path).cookies name) = true →
            ∃ cookie ∈ jar, cookie.name = name := by
          intro name carries
          cases found : (jar.sentTo ("/api/v1" ++ path)).value name with
          | none => simp [rawFetch, found, truthy] at carries
          | some value =>
              obtain ⟨cookie, member, named, _⟩ := exists_of_value found
              exact ⟨cookie, List.mem_of_mem_filter member, named⟩
        obtain access | refresh := Bool.or_eq_true_iff.mp authed
        · obtain ⟨cookie, member, named⟩ := carried accessCookie access
          exact ⟨cookie, member, .inl named⟩
        · obtain ⟨cookie, member, named⟩ := carried refreshCookie refresh
          exact ⟨cookie, member, .inr named⟩
      obtain ⟨cookie, member, named⟩ := shaped.paired session
      cases found : jar.value csrfCookie with
      | none => exact absurd named (value_eq_none_iff.mp found cookie member)
      | some value =>
          obtain ⟨csrf, present, is_csrf, rfl⟩ := exists_of_value found
          have filled := (shaped.csrf csrf present is_csrf).2.2
          have header : (rawFetch hosts jar method path).csrfToken = some csrf.value := by
            simp [rawFetch, read, found, filled, Option.filter_eq_some_iff]
          refine .inr (.inr ⟨?_, ?_⟩)
          · simp [header, filled, truthy]
          · rw [header, ← found, ← sent]
            rfl

/-- On any other host than the API's the console finds no token to echo, and each mutation
that carries a session is refused. -/
theorem rawFetch_refused_elsewhere {hosts : Hosts} (away : hosts.page ≠ hosts.api) {method path : String}
    (mutates : method ∉ safeMethods) (session : cookieAuthed (rawFetch hosts jar method path) = true) :
    csrfGuard (rawFetch hosts jar method path) = .error (.forbidden "CSRF token missing or invalid") := by
  have mutates : (rawFetch hosts jar method path).method ∉ safeMethods := mutates
  have headless : truthy (rawFetch hosts jar method path).csrfToken = false := by
    simp [rawFetch, Jar.readable, away, Jar.value, truthy]
  unfold csrfGuard
  simp [mutates, session, headless, throw, throwThe, MonadExceptOf.throw]

/-- The refresh token leaves the browser on the auth routes only. -/
theorem SessionJar.refresh_confined (shaped : SessionJar jar) (hosts : Hosts) (method : String) {path : String}
    (elsewhere : Jar.pathMatches refreshPath ("/api/v1" ++ path) = false) :
    (rawFetch hosts jar method path).cookies refreshCookie = none := by
  refine value_eq_none_iff.mpr fun cookie member named => ?_
  obtain ⟨held, goes⟩ := List.mem_filter.mp member
  rw [shaped.confined cookie held named, elsewhere] at goes
  cases goes

end Jars

/-- A request that the guard lets through, or a response of the kind the API sends. -/
def Proper (config : CookieConfig) : Wire → Prop
  | .asked request => csrfGuard request = .ok ()
  | .answered reply => SetsSession config reply.cookies

structure Echoing (config : CookieConfig) (console : Console) : Prop where
  atHome : console.hosts.page = console.hosts.api
  jar : SessionJar console.jar
  proper : ∀ flight ∈ console.network, Proper config flight.wire

/-- The API sets session cookies only through `setAuthCookies`, and the CSRF cookie, which
lives as long as the refresh cookie, is not the first to go. -/
def Served (config : CookieConfig) (console : Console) : ConsoleAction → Prop
  | .answer _ reply => SetsSession config reply.cookies
  | .serveRefresh _ draw => draw.csrf ≠ ""
  | .expire name => name = csrfCookie →
      ∀ cookie ∈ console.jar, cookie.name ≠ accessCookie ∧ cookie.name ≠ refreshCookie
  | _ => True

theorem serveRefresh_setsSession (runtime : Runtime) (config : AuthConfig) (cookies : CookieConfig)
    (request : ApiRequest) {draw : RefreshDraw} (filled : draw.csrf ≠ "") (rows : Directory) :
    SetsSession cookies (serveRefresh runtime config cookies request draw rows).1.cookies := by
  unfold serveRefresh
  split
  · exact .inl rfl
  · split
    · exact .inl rfl
    · split
      · exact .inl rfl
      · split
        · exact .inr ⟨draw.csrf, _, filled, rfl⟩
        · exact .inl rfl
        · exact .inl rfl

section Steps

variable {config : CookieConfig} {console : Console}

theorem Echoing.fetch (echoing : Echoing config console) (owner : Owner) (method path : String) :
    Echoing config (console.fetch owner method path) := by
  refine ⟨echoing.atHome, echoing.jar, fun flight member => ?_⟩
  cases List.mem_append.mp member with
  | inl old => exact echoing.proper flight old
  | inr new =>
      obtain rfl := List.mem_singleton.mp new
      exact echoing.jar.rawFetch_passes echoing.atHome method path

theorem Echoing.land (echoing : Echoing config console) (flight : Nat) : Echoing config (console.land flight) :=
  ⟨echoing.atHome, echoing.jar, fun other member => echoing.proper other (List.mem_of_mem_eraseIdx member)⟩

theorem Echoing.answer (echoing : Echoing config console) (flight : Nat) {reply : Reply}
    (sets : SetsSession config reply.cookies) : Echoing config (console.answer flight reply) := by
  refine ⟨echoing.atHome, echoing.jar, fun other member => ?_⟩
  obtain ⟨index, found⟩ := List.mem_iff_getElem?.mp member
  rw [Console.answer, List.getElem?_modify] at found
  obtain ⟨before, there, rfl⟩ := Option.map_eq_some_iff.mp found
  split
  · exact sets
  · exact echoing.proper before (List.mem_of_getElem? there)

theorem Echoing.withDirectory (echoing : Echoing config console) (directory : Directory) :
    Echoing config { console with directory } :=
  ⟨echoing.atHome, echoing.jar, echoing.proper⟩

theorem Echoing.silentRefresh (echoing : Echoing config console) : Echoing config console.silentRefresh := by
  unfold Console.silentRefresh
  split
  · exact echoing
  · have sent := echoing.fetch .refresh "POST" "/auth/refresh"
    exact ⟨sent.atHome, sent.jar, sent.proper⟩

theorem Echoing.resolve (echoing : Echoing config console) (ok : Bool) : Echoing config (console.resolve ok) := by
  refine ⟨echoing.atHome, echoing.jar, fun flight member => ?_⟩
  cases List.mem_append.mp member with
  | inl old => exact echoing.proper flight old
  | inr retried =>
      cases ok with
      | false => cases retried
      | true =>
          obtain ⟨entry, _, sent⟩ := List.mem_filterMap.mp retried
          unfold Console.retry at sent
          split at sent
          · cases sent
            exact echoing.jar.rawFetch_passes echoing.atHome _ _
          · cases sent

theorem Echoing.receive (echoing : Echoing config console) (id status : Nat) :
    Echoing config (console.receive id status) := by
  have entered (phase : CallPhase) : Echoing config (console.enter id phase) := ⟨echoing.atHome, echoing.jar, echoing.proper⟩
  unfold Console.receive
  split
  · split
    · exact (entered .refreshing).silentRefresh
    · exact entered _
  · exact entered _
  · exact echoing

theorem Echoing.step {runtime : Runtime} {auth : AuthConfig} (echoing : Echoing config console)
    {action : ConsoleAction} (served : Served config console action) :
    Echoing config (console.step runtime auth config action) := by
  cases action with
  | call method path =>
      have sent := echoing.fetch (.call console.calls.length) method path
      exact ⟨sent.atHome, sent.jar, sent.proper⟩
  | answer flight reply =>
      simp only [Console.step]
      split
      · exact echoing.answer flight served
      · exact echoing
  | serveRefresh flight draw =>
      simp only [Console.step]
      split
      · rename_i request found
        have sets := serveRefresh_setsSession runtime auth config request served console.directory
        exact (echoing.answer flight sets).withDirectory _
      · exact echoing
  | deliver flight =>
      simp only [Console.step]
      split
      · rename_i owner reply found
        have sets : SetsSession config reply.cookies := echoing.proper _ (List.mem_of_getElem? found)
        have landed : Echoing config { console.land flight with jar := console.jar.accept reply.cookies } :=
          ⟨echoing.atHome, echoing.jar.accept sets, (echoing.land flight).proper⟩
        cases owner with
        | refresh => exact landed.resolve reply.ok
        | call id => exact landed.receive id reply.status
      · exact echoing
  | lose flight =>
      simp only [Console.step]
      split
      · exact (echoing.land flight).resolve false
      · exact ⟨echoing.atHome, echoing.jar, (echoing.land flight).proper⟩
      · exact echoing
  | expire name => exact ⟨echoing.atHome, echoing.jar.drop served, echoing.proper⟩
  | elsewhere change => exact echoing.withDirectory _

end Steps

/-- All requests of a page that are under way pass `CsrfGuard`, and the next one would;
and none outside the auth routes carries the refresh token. -/
def EchoesAlways (console : Console) : Prop :=
  (∀ flight ∈ console.network, ∀ request, flight.wire = .asked request → csrfGuard request = .ok ()) ∧
    ∀ method path, csrfGuard (rawFetch console.hosts console.jar method path) = .ok () ∧
      (Jar.pathMatches refreshPath ("/api/v1" ++ path) = false →
        (rawFetch console.hosts console.jar method path).cookies refreshCookie = none)

/-- A mutation that finds its access token expired, on a page with no session yet but the
one that an answer has just set. -/
def expiredCall : List ConsoleAction :=
  [.call "POST" "/auth/login",
    .answer 0 ⟨200, setAuthCookies "c" ⟨"a", "r", "Bearer", "15m"⟩ ⟨true, "15m", "30d"⟩⟩,
    .deliver 0, .call "PATCH" "/products/1", .answer 0 ⟨401, []⟩, .deliver 0, .expire accessCookie]

/-- The console of a development machine, where the port is all that differs. -/
def oneHost : Hosts :=
  ⟨"localhost", "localhost"⟩

theorem sessionJar_nil : SessionJar [] :=
  ⟨by simp, by simp, by simp⟩

theorem served_expiredCall (runtime : Runtime) (auth : AuthConfig) (hosts : Hosts) (directory : Directory) :
    Along (Console.step runtime auth ⟨true, "15m", "30d"⟩) (Served ⟨true, "15m", "30d"⟩)
      (Console.start hosts directory []) expiredCall :=
  ⟨trivial, .inr ⟨"c", _, by decide, rfl⟩, trivial, trivial, .inl rfl, trivial,
    fun same => absurd same (by decide), trivial⟩

end Aicos.Properties

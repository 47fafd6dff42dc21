import Aicos.Identity.Admission
import Aicos.Transition.Run

namespace Aicos.Identity

open Aicos.Commerce Aicos.Data Aicos.Transaction

/-! The API client of the admin console in one page of a browser: `api` with its silent
refresh, the cookies the browser keeps for it, and `AuthController.refresh` at the other
end.  Requests and answers are on their way for any time and in any order. -/

def basePath (path : String) : String :=
  String.ofList (path.toList.takeWhile (· ≠ '?'))

/-- The auth endpoints, whose 401 is the answer. -/
def noRefresh : List String := ["/auth/login", "/auth/signup", "/auth/refresh", "/auth/logout"]

/-- The hosts of the console and of the API, which are of one site, as `sameSite` asks. -/
structure Hosts where
  page : String
  api : String
deriving DecidableEq

/-- The cookies that the browser keeps for the API. -/
abbrev Jar := List Cookie

namespace Jar

def value (jar : Jar) (name : String) : Option String :=
  (jar.find? fun cookie => cookie.name = name).map (·.value)

def set (jar : Jar) (cookie : Cookie) : Jar :=
  cookie :: jar.filter fun other => other.name ≠ cookie.name

def accept (jar : Jar) (cookies : List Cookie) : Jar :=
  cookies.foldl set jar

def drop (jar : Jar) (name : String) : Jar :=
  jar.filter fun cookie => cookie.name ≠ name

def pathMatches (cookiePath path : String) : Bool :=
  cookiePath = "/" ∨ path = cookiePath ∨ (cookiePath.toList ++ ['/']).isPrefixOf path.toList

/-- The cookies that go out with a request to `path`. -/
def sentTo (jar : Jar) (path : String) : Jar :=
  jar.filter fun cookie => pathMatches cookie.path path

/-- `document.cookie`, which shows no `httpOnly` cookie.  The API sets its cookies without a
`Domain`, so they are those of its own host and a page on any other sees none. -/
def readable (jar : Jar) (hosts : Hosts) : Jar :=
  if hosts.page = hosts.api then jar.filter fun cookie => ¬ cookie.httpOnly else []

end Jar

/-- `rawFetch`, with the CSRF cookie echoed in its header. -/
def rawFetch (hosts : Hosts) (jar : Jar) (method path : String) : ApiRequest where
  method := method
  cookies := (jar.sentTo ("/api/v1" ++ path)).value
  csrfToken := ((jar.readable hosts).value csrfCookie).filter fun csrf => csrf ≠ ""
  authorization := none
  tenantHeader := none

structure Reply where
  status : Nat
  cookies : List Cookie
deriving DecidableEq

def Reply.ok (reply : Reply) : Bool :=
  200 ≤ reply.status ∧ reply.status < 300

/-- What the server draws for one refresh, and which of its steps fail. -/
structure RefreshDraw where
  withinLimit : Bool
  fails : AuthStep → Bool
  draw : Draw
  csrf : String
  now : Instant

/-- `POST /auth/refresh` behind the throttler and `CsrfGuard`.  The console sends no body,
so the token is the cookie's. -/
def serveRefresh (runtime : Runtime) (config : AuthConfig) (cookies : CookieConfig) (request : ApiRequest)
    (draw : RefreshDraw) (rows : Directory) : Reply × Directory :=
  if ¬ draw.withinLimit then ({ status := 429, cookies := [] }, rows)
  else
    match csrfGuard request with
    | .error _ => ({ status := 403, cookies := [] }, rows)
    | .ok _ =>
        match (request.cookies refreshCookie).filter fun token => token ≠ "" with
        | none => ({ status := 401, cookies := [] }, rows)
        | some token =>
            match refresh runtime config draw.fails token draw.draw draw.now rows with
            | (.ok tokens, after) => ({ status := 200, cookies := setAuthCookies draw.csrf tokens cookies }, after)
            | (.error (.http _), after) => ({ status := 401, cookies := [] }, after)
            | (.error _, after) => ({ status := 500, cookies := [] }, after)

/-- Where an `api` call stands; it settles with the status of its last response, or with
none where `fetch` threw. -/
inductive CallPhase where
  | first
  | refreshing
  | second
  | settled (status : Option Nat)
deriving DecidableEq

structure ApiCall where
  method : String
  path : String
  phase : CallPhase
deriving DecidableEq

/-- Whose `fetch` it is. -/
inductive Owner where
  | call (id : Nat)
  | refresh
deriving DecidableEq

inductive Wire where
  | asked (request : ApiRequest)
  | answered (reply : Reply)

structure Flight where
  owner : Owner
  wire : Wire

/-- The page, its browser and the server.  A call is known by its place in `calls`, and
`fetches` counts what was sent. -/
structure Console where
  hosts : Hosts
  directory : Directory
  jar : Jar
  refreshPromise : Bool
  calls : List ApiCall
  network : List Flight
  fetches : Nat

inductive ConsoleAction where
  | call (method path : String)
  /-- The server answers the call in this flight. -/
  | answer (flight : Nat) (reply : Reply)
  | serveRefresh (flight : Nat) (draw : RefreshDraw)
  | deliver (flight : Nat)
  /-- The request or its response never arrives, and `fetch` throws. -/
  | lose (flight : Nat)
  | expire (name : String)
  /-- Requests of other browsers. -/
  | elsewhere (change : Directory → Directory)

namespace Console

def fetch (console : Console) (owner : Owner) (method path : String) : Console :=
  { console with
    network := console.network ++ [⟨owner, .asked (rawFetch console.hosts console.jar method path)⟩]
    fetches := console.fetches + 1 }

def enter (console : Console) (id : Nat) (phase : CallPhase) : Console :=
  { console with calls := console.calls.modify id fun call => { call with phase } }

def land (console : Console) (flight : Nat) : Console :=
  { console with network := console.network.eraseIdx flight }

/-- `silentRefresh`: one refresh for all the calls that wait. -/
def silentRefresh (console : Console) : Console :=
  if console.refreshPromise then console
  else { console.fetch .refresh "POST" "/auth/refresh" with refreshPromise := true }

/-- The second attempt of a call that waited. -/
def retry (hosts : Hosts) (jar : Jar) (call : ApiCall) (id : Nat) : Option Flight :=
  if call.phase = .refreshing then some ⟨.call id, .asked (rawFetch hosts jar call.method call.path)⟩ else none

def resumed (ok : Bool) (call : ApiCall) : ApiCall :=
  if call.phase = .refreshing then { call with phase := if ok then .second else .settled (some 401) } else call

/-- The refresh is over, and the calls that wait for it go on. -/
def resolve (console : Console) (ok : Bool) : Console :=
  let retries :=
    if ok then console.calls.zipIdx.filterMap fun entry => retry console.hosts console.jar entry.1 entry.2 else []
  { console with
    refreshPromise := false
    calls := console.calls.map (resumed ok)
    network := console.network ++ retries
    fetches := console.fetches + retries.length }

/-- A call has its response. -/
def receive (console : Console) (id status : Nat) : Console :=
  match console.calls[id]? with
  | some { path, phase := .first, .. } =>
      if status = 401 ∧ basePath path ∉ noRefresh then (console.enter id .refreshing).silentRefresh
      else console.enter id (.settled (some status))
  | some { phase := .second, .. } => console.enter id (.settled (some status))
  | _ => console

def answer (console : Console) (flight : Nat) (reply : Reply) : Console :=
  { console with network := console.network.modify flight fun other => { other with wire := .answered reply } }

def step (runtime : Runtime) (config : AuthConfig) (cookies : CookieConfig) (console : Console) :
    ConsoleAction → Console
  | .call method path =>
      { console.fetch (.call console.calls.length) method path with
        calls := console.calls ++ [{ method, path, phase := .first }] }
  | .answer flight reply =>
      match console.network[flight]? with
      | some ⟨.call _, .asked _⟩ => console.answer flight reply
      | _ => console
  | .serveRefresh flight draw =>
      match console.network[flight]? with
      | some ⟨.refresh, .asked request⟩ =>
          let (reply, directory) := Identity.serveRefresh runtime config cookies request draw console.directory
          { console.answer flight reply with directory }
      | _ => console
  | .deliver flight =>
      match console.network[flight]? with
      | some ⟨owner, .answered reply⟩ =>
          let console := { console.land flight with jar := console.jar.accept reply.cookies }
          match owner with
          | .refresh => console.resolve reply.ok
          | .call id => console.receive id reply.status
      | _ => console
  | .lose flight =>
      match console.network[flight]? with
      | some ⟨.refresh, _⟩ => (console.land flight).resolve false
      | some ⟨.call id, _⟩ => (console.land flight).enter id (.settled none)
      | none => console
  | .expire name => { console with jar := console.jar.drop name }
  | .elsewhere change => { console with directory := change console.directory }

/-- A page that was just loaded. -/
def start (hosts : Hosts) (directory : Directory) (jar : Jar) : Console where
  hosts := hosts
  directory := directory
  jar := jar
  refreshPromise := false
  calls := []
  network := []
  fetches := 0

end Console

end Aicos.Identity

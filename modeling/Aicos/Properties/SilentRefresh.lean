import Aicos.Identity.ApiClient
import Mathlib.Algebra.BigOperators.Group.List.Basic
import Mathlib.Algebra.Ring.Nat
import Mathlib.Data.List.Perm.Basic

namespace Aicos.Properties

open Aicos.Commerce Aicos.Data Aicos.Identity Aicos.Transition

/-! One page of the console with any number of calls under way. -/

section Lists

variable {α : Type} {rows : List α} {row : α} {index : Nat}

theorem perm_cons_eraseIdx (found : rows[index]? = some row) : rows.Perm (row :: rows.eraseIdx index) := by
  obtain ⟨bound, rfl⟩ := List.getElem?_eq_some_iff.mp found
  exact (List.getElem_cons_eraseIdx_perm bound).symm

theorem perm_modify (found : rows[index]? = some row) (change : α → α) :
    (rows.modify index change).Perm (change row :: rows.eraseIdx index) := by
  obtain ⟨bound, rfl⟩ := List.getElem?_eq_some_iff.mp found
  rw [List.modify_eq_take_cons_drop bound, List.eraseIdx_eq_take_drop_succ]
  exact List.perm_middle

theorem sum_modify (amount : α → Nat) (found : rows[index]? = some row) (change : α → α) :
    ((rows.modify index change).map amount).sum + amount row = (rows.map amount).sum + amount (change row) := by
  have before := ((perm_cons_eraseIdx found).map amount).sum_eq
  have after := ((perm_modify found change).map amount).sum_eq
  rw [List.map_cons, List.sum_cons] at before after
  omega

end Lists

/-- How many `fetch`es of a call are out. -/
def flightsOut : CallPhase → Nat
  | .first | .second => 1
  | .refreshing | .settled _ => 0

/-- The `fetch`es that the state of the page accounts for. -/
def owes (console : Console) : Owner → Nat
  | .refresh => if console.refreshPromise then 1 else 0
  | .call id => (console.calls[id]?.map fun call => flightsOut call.phase).getD 0

def flightsOf (console : Console) (owner : Owner) : Nat :=
  console.network.countP fun flight => flight.owner = owner

/-- Every `fetch` that is out has somebody waiting for it, once; who waits for a refresh
waits for one that is out. -/
structure Balanced (console : Console) : Prop where
  flights : ∀ owner, flightsOf console owner = owes console owner
  waiting : ∀ call ∈ console.calls, call.phase = .refreshing → console.refreshPromise = true

/-- The same with a response of `owner` taken off the network and not handled yet. -/
structure Landed (owner : Owner) (console : Console) : Prop where
  flights : ∀ other, flightsOf console other + (if other = owner then 1 else 0) = owes console other
  waiting : ∀ call ∈ console.calls, call.phase = .refreshing → console.refreshPromise = true

section Steps

variable {console : Console} {owner : Owner} {wire : Wire} {flight id status : Nat}

theorem Balanced.land (balanced : Balanced console) (found : console.network[flight]? = some ⟨owner, wire⟩) :
    Landed owner (console.land flight) := by
  refine ⟨fun other => ?_, balanced.waiting⟩
  have counted := (perm_cons_eraseIdx found).countP_eq fun flight => decide (flight.owner = other)
  rw [List.countP_cons] at counted
  have same : owes (console.land flight) other = owes console other := by
    cases other <;> rfl
  rw [same, ← balanced.flights other, flightsOf, flightsOf, counted, Console.land]
  simp [eq_comm]

theorem Balanced.answer (balanced : Balanced console) (found : console.network[flight]? = some ⟨owner, wire⟩)
    (reply : Reply) : Balanced (console.answer flight reply) := by
  refine ⟨fun other => ?_, balanced.waiting⟩
  have before := (perm_cons_eraseIdx found).countP_eq fun flight => decide (flight.owner = other)
  have after := (perm_modify found fun flight => { flight with wire := Wire.answered reply }).countP_eq
    fun flight => decide (flight.owner = other)
  rw [List.countP_cons] at before after
  have same : owes (console.answer flight reply) other = owes console other := by
    cases other <;> rfl
  rw [same, ← balanced.flights other, flightsOf, flightsOf, before, Console.answer, after]

theorem flightsOf_fetch (console : Console) (owner other : Owner) (method path : String) :
    flightsOf (console.fetch owner method path) other = flightsOf console other + if other = owner then 1 else 0 := by
  simp [flightsOf, Console.fetch, List.countP_append, eq_comm]

theorem owes_enter (console : Console) (phase : CallPhase) {call : ApiCall} (found : console.calls[id]? = some call)
    (other : Owner) :
    owes (console.enter id phase) other = if other = .call id then flightsOut phase else owes console other := by
  cases other with
  | refresh => rfl
  | call wanted =>
      by_cases same : wanted = id
      · subst same
        simp [owes, Console.enter, found]
      · simp [owes, Console.enter, same, Ne.symm same]

/-- A call whose response is in has one of its two requests out. -/
theorem Landed.call_out (landed : Landed (.call id) console) :
    ∃ call, console.calls[id]? = some call ∧ flightsOut call.phase = 1 ∧ flightsOf console (.call id) = 0 := by
  have counted := landed.flights (.call id)
  simp only [if_true, owes] at counted
  cases found : console.calls[id]? with
  | none => simp [found] at counted
  | some call =>
      simp only [found, Option.map_some, Option.getD_some] at counted
      refine ⟨call, rfl, ?_⟩
      cases phase : call.phase <;> simp [phase, flightsOut] at counted ⊢ <;> omega

theorem Landed.enter_flights (landed : Landed (.call id) console) {phase : CallPhase} (home : flightsOut phase = 0)
    (other : Owner) : flightsOf (console.enter id phase) other = owes (console.enter id phase) other := by
  obtain ⟨call, found, _, none⟩ := landed.call_out
  have counted := landed.flights other
  have same : flightsOf (console.enter id phase) other = flightsOf console other := rfl
  rw [owes_enter console _ found, same]
  by_cases mine : other = .call id
  · rw [if_pos mine, mine, none, home]
  · rw [if_neg mine] at counted ⊢
    omega

theorem Landed.settle (landed : Landed (.call id) console) (status : Option Nat) :
    Balanced (console.enter id (.settled status)) := by
  obtain ⟨call, found, _, _⟩ := landed.call_out
  refine ⟨landed.enter_flights rfl, ?_⟩
  · intro call member refreshing
    have modified := (perm_modify found fun call => { call with phase := CallPhase.settled status }).mem_iff.mp member
    cases List.mem_cons.mp modified with
    | inl changed =>
        subst changed
        cases refreshing
    | inr kept => exact landed.waiting call (List.mem_of_mem_eraseIdx kept) refreshing

theorem Landed.refresh (landed : Landed (.call id) console) :
    Balanced (console.enter id .refreshing).silentRefresh := by
  have counted : ∀ other, flightsOf (console.enter id .refreshing) other = owes (console.enter id .refreshing) other :=
    landed.enter_flights rfl
  unfold Console.silentRefresh
  split
  · rename_i promise
    exact ⟨counted, fun _ _ _ => promise⟩
  · rename_i idle
    refine ⟨fun other => ?_, fun _ _ _ => rfl⟩
    have sent := flightsOf_fetch (console.enter id .refreshing) .refresh other "POST" "/auth/refresh"
    rw [counted other] at sent
    have idle : console.refreshPromise = false := by simpa [Console.enter] using idle
    cases other with
    | refresh => simpa [flightsOf, owes, Console.enter, idle] using sent
    | call wanted => simpa [flightsOf, owes, Console.fetch] using sent

theorem Landed.receive (landed : Landed (.call id) console) (status : Nat) : Balanced (console.receive id status) := by
  obtain ⟨call, found, out, _⟩ := landed.call_out
  obtain ⟨method, path, phase⟩ := call
  cases phase with
  | first =>
      simp only [Console.receive, found]
      split
      · exact landed.refresh
      · exact landed.settle (some status)
  | second =>
      simp only [Console.receive, found]
      exact landed.settle (some status)
  | refreshing => cases out
  | settled status => cases out

/-- Whether an owner's next `fetch` waits for the refresh. -/
def waitingFor (calls : List ApiCall) (shift : Nat) : Owner → Nat
  | .refresh => 0
  | .call id => if shift ≤ id then
      (calls[id - shift]?.map fun call => if call.phase = .refreshing then 1 else 0).getD 0 else 0

/-- The retries of the waiting calls, one for each. -/
theorem countP_retries (hosts : Hosts) (jar : Jar) (calls : List ApiCall) (shift : Nat) (other : Owner) :
    ((calls.zipIdx shift).filterMap fun entry => Console.retry hosts jar entry.1 entry.2).countP
        (fun flight => flight.owner = other) = waitingFor calls shift other := by
  induction calls generalizing shift with
  | nil => cases other <;> simp [waitingFor]
  | cons call rest ih =>
      rw [List.zipIdx_cons, List.filterMap_cons]
      have later := ih (shift + 1)
      cases other with
      | refresh =>
          by_cases waits : call.phase = .refreshing <;> simpa [Console.retry, waits, waitingFor] using later
      | call id =>
          simp only [waitingFor] at later ⊢
          obtain before | rfl | after := Nat.lt_trichotomy id shift
          · have apart : shift ≠ id := by omega
            rw [if_neg (by omega)] at later ⊢
            by_cases waits : call.phase = .refreshing <;> simpa [Console.retry, waits, apart] using later
          · rw [if_neg (by omega)] at later
            rw [if_pos (Nat.le_refl _), Nat.sub_self]
            by_cases waits : call.phase = .refreshing <;> simpa [Console.retry, waits] using later
          · have apart : shift ≠ id := by omega
            have inner : id - shift = id - (shift + 1) + 1 := by omega
            rw [if_pos (by omega)] at later ⊢
            rw [inner, List.getElem?_cons_succ]
            by_cases waits : call.phase = .refreshing <;> simpa [Console.retry, waits, apart] using later

theorem flightsOf_resolve (console : Console) (ok : Bool) (other : Owner) :
    flightsOf (console.resolve ok) other =
      flightsOf console other + if ok then waitingFor console.calls 0 other else 0 := by
  cases ok with
  | true =>
      rw [if_pos rfl, ← countP_retries console.hosts console.jar, flightsOf, flightsOf, ← List.countP_append]
      rfl
  | false => simp [flightsOf, Console.resolve]

theorem Landed.resolve (landed : Landed .refresh console) (ok : Bool) : Balanced (console.resolve ok) := by
  have promise : console.refreshPromise = true := by
    have counted := landed.flights .refresh
    by_contra idle
    simp [owes, idle] at counted
  have settled : ∀ call ∈ (console.resolve ok).calls, call.phase ≠ .refreshing := by
    intro call member
    obtain ⟨before, _, rfl⟩ := List.mem_map.mp member
    unfold Console.resumed
    split
    · cases ok <;> simp
    · assumption
  refine ⟨fun other => ?_, fun call member waits => absurd waits (settled call member)⟩
  have counted := landed.flights other
  rw [flightsOf_resolve]
  cases other with
  | refresh =>
      have gone : flightsOf console .refresh = 0 := by simpa [owes, promise] using counted
      simp [gone, waitingFor, owes, Console.resolve]
  | call id =>
      have moved : owes (console.resolve ok) (.call id) =
          (console.calls[id]?.map fun call => flightsOut (Console.resumed ok call).phase).getD 0 := by
        simp [owes, Console.resolve, Function.comp_def]
      rw [moved]
      simp only [reduceCtorEq, if_false, owes] at counted
      cases found : console.calls[id]? with
      | none => simpa [found, waitingFor] using counted
      | some call =>
          have out : flightsOf console (.call id) = flightsOut call.phase := by simpa [found] using counted
          obtain ⟨method, path, phase⟩ := call
          cases phase <;> cases ok <;> simp [found, waitingFor, out, Console.resumed, flightsOut]

end Steps

/-- What a call can still have the network do, and the `fetch`es it may still cause. -/
def credit : CallPhase → Nat
  | .first => 4
  | .refreshing => 2
  | .second | .settled _ => 0

def allowance : CallPhase → Nat
  | .first => 2
  | .refreshing => 1
  | .second | .settled _ => 0

def weight : Wire → Nat
  | .asked _ => 2
  | .answered _ => 1

@[simp] theorem weight_asked (request : ApiRequest) : weight (.asked request) = 2 := rfl

@[simp] theorem weight_answered (reply : Reply) : weight (.answered reply) = 1 := rfl

/-- How many more steps the network can take before all is quiet. -/
def pending (console : Console) : Nat :=
  (console.network.map fun flight => weight flight.wire).sum + (console.calls.map fun call => credit call.phase).sum

/-- No call has caused more than three `fetch`es: two of its own and a refresh. -/
def Frugal (console : Console) : Prop :=
  console.fetches + (console.calls.map fun call => allowance call.phase).sum ≤ 3 * console.calls.length

section Measures

variable {console : Console} {owner : Owner} {wire : Wire} {flight id : Nat}

theorem pending_land (found : console.network[flight]? = some ⟨owner, wire⟩) :
    pending (console.land flight) + weight wire = pending console := by
  have network := ((perm_cons_eraseIdx found).map fun flight => weight flight.wire).sum_eq
  rw [List.map_cons, List.sum_cons] at network
  dsimp only at network
  simp only [pending, Console.land]
  omega

theorem pending_answer {request : ApiRequest} (found : console.network[flight]? = some ⟨owner, .asked request⟩)
    (reply : Reply) : pending (console.answer flight reply) < pending console := by
  have network := sum_modify (fun flight => weight flight.wire) found
    fun flight => { flight with wire := Wire.answered reply }
  dsimp only at network
  rw [weight_asked, weight_answered] at network
  simp only [pending, Console.answer]
  omega

theorem sum_enter (amount : CallPhase → Nat) {call : ApiCall} (found : console.calls[id]? = some call)
    (phase : CallPhase) :
    ((console.enter id phase).calls.map fun call => amount call.phase).sum + amount call.phase =
      (console.calls.map fun call => amount call.phase).sum + amount phase :=
  sum_modify (fun call => amount call.phase) found fun call => { call with phase }

theorem retry_of_waits {call : ApiCall} (waits : call.phase = .refreshing) (hosts : Hosts) (jar : Jar) (id : Nat) :
    Console.retry hosts jar call id = some ⟨.call id, .asked (rawFetch hosts jar call.method call.path)⟩ :=
  if_pos waits

theorem retry_of_not {call : ApiCall} (waits : call.phase ≠ .refreshing) (hosts : Hosts) (jar : Jar) (id : Nat) :
    Console.retry hosts jar call id = none :=
  if_neg waits

theorem length_retries (hosts : Hosts) (jar : Jar) (calls : List ApiCall) (shift : Nat) :
    ((calls.zipIdx shift).filterMap fun entry => Console.retry hosts jar entry.1 entry.2).length =
      calls.countP fun call => call.phase = .refreshing := by
  induction calls generalizing shift with
  | nil => rfl
  | cons call rest ih =>
      rw [List.zipIdx_cons, List.filterMap_cons]
      by_cases waits : call.phase = .refreshing
      · simp [retry_of_waits waits, waits, ih]
      · simp [retry_of_not waits, waits, ih]

theorem weight_retries (hosts : Hosts) (jar : Jar) (calls : List ApiCall) (shift : Nat) :
    (((calls.zipIdx shift).filterMap fun entry => Console.retry hosts jar entry.1 entry.2).map fun flight =>
      weight flight.wire).sum = 2 * calls.countP fun call => call.phase = .refreshing := by
  induction calls generalizing shift with
  | nil => rfl
  | cons call rest ih =>
      rw [List.zipIdx_cons, List.filterMap_cons]
      by_cases waits : call.phase = .refreshing
      · simp [retry_of_waits waits, waits, ih]
        omega
      · simp [retry_of_not waits, waits, ih]

/-- A refresh that is over takes from each waiting call what it gave for its retry. -/
theorem sum_resumed (amount : CallPhase → Nat) (price : Nat) (paid : amount .refreshing = price)
    (free : amount .second = 0) (settled : ∀ status, amount (.settled status) = 0) (ok : Bool) (calls : List ApiCall) :
    ((calls.map (Console.resumed ok)).map fun call => amount call.phase).sum +
        price * (calls.countP fun call => call.phase = .refreshing) =
      (calls.map fun call => amount call.phase).sum := by
  induction calls with
  | nil => simp
  | cons call rest ih =>
      by_cases waits : call.phase = .refreshing
      · have gone : amount (Console.resumed ok call).phase = 0 := by
          cases ok <;> simp [Console.resumed, waits, free, settled]
        simp only [List.map_cons, List.sum_cons, gone, waits, paid, List.countP_cons_of_pos, decide_true]
        rw [Nat.mul_add, ← ih]
        omega
      · have kept : Console.resumed ok call = call := by simp [Console.resumed, waits]
        simp only [List.map_cons, List.sum_cons, kept, ← ih, waits, decide_false, Bool.false_eq_true, not_false_eq_true,
          List.countP_cons_of_neg]
        omega

theorem pending_resolve (console : Console) (ok : Bool) : pending (console.resolve ok) ≤ pending console := by
  have calls := sum_resumed credit 2 rfl rfl (fun _ => rfl) ok console.calls
  have retries := weight_retries console.hosts console.jar console.calls 0
  cases ok with
  | true =>
      simp only [pending, Console.resolve, if_true, List.map_append, List.sum_append]
      omega
  | false =>
      simp only [pending, Console.resolve, Bool.false_eq_true, if_false, List.append_nil]
      omega

theorem Frugal.resolve (frugal : Frugal console) (ok : Bool) : Frugal (console.resolve ok) := by
  have calls := sum_resumed allowance 1 rfl rfl (fun _ => rfl) ok console.calls
  have retries := length_retries console.hosts console.jar console.calls 0
  unfold Frugal at frugal ⊢
  cases ok with
  | true =>
      simp only [Console.resolve, if_true, List.length_map]
      omega
  | false =>
      simp only [Console.resolve, Bool.false_eq_true, if_false, List.length_map, List.length_nil]
      omega

theorem pending_enter {call : ApiCall} (found : console.calls[id]? = some call) (phase : CallPhase) :
    pending (console.enter id phase) + credit call.phase = pending console + credit phase := by
  have calls := sum_enter credit found phase
  have network : (console.enter id phase).network = console.network := rfl
  simp only [pending, network]
  omega

theorem pending_silentRefresh (console : Console) : pending console.silentRefresh ≤ pending console + 2 := by
  unfold Console.silentRefresh
  split
  · omega
  · simp only [pending, Console.fetch, List.map_append, List.map_singleton, List.sum_append, List.sum_singleton,
      weight_asked]
    omega

theorem pending_receive (console : Console) (id status : Nat) : pending (console.receive id status) ≤ pending console := by
  unfold Console.receive
  split
  · rename_i method path found
    split
    · have entered := pending_enter found .refreshing
      have refreshed := pending_silentRefresh (console.enter id .refreshing)
      simp only [credit] at entered
      omega
    · have entered := pending_enter found (.settled (some status))
      simp only [credit] at entered
      omega
  · rename_i method path found
    have entered := pending_enter found (.settled (some status))
    simp only [credit] at entered
    omega
  · exact Nat.le_refl _

theorem Frugal.enter (frugal : Frugal console) {call : ApiCall} (found : console.calls[id]? = some call)
    {phase : CallPhase} (less : allowance phase ≤ allowance call.phase) : Frugal (console.enter id phase) := by
  have calls := sum_enter allowance found phase
  have same : (console.enter id phase).fetches = console.fetches := rfl
  have length : (console.enter id phase).calls.length = console.calls.length := List.length_modify ..
  unfold Frugal at frugal ⊢
  rw [same, length]
  omega

theorem Frugal.receive (frugal : Frugal console) (id status : Nat) : Frugal (console.receive id status) := by
  unfold Console.receive
  split
  · rename_i method path found
    split
    · have calls := sum_enter allowance found .refreshing
      have length : (console.enter id .refreshing).calls.length = console.calls.length := List.length_modify ..
      have same : (console.enter id .refreshing).fetches = console.fetches := rfl
      simp only [allowance] at calls
      unfold Frugal at frugal ⊢
      simp only [allowance] at frugal
      unfold Console.silentRefresh
      split
      · rw [length, same]
        simp only [allowance]
        omega
      · simp only [Console.fetch, length, same, allowance]
        omega
    · exact frugal.enter found (Nat.zero_le _)
  · rename_i method path found
    exact frugal.enter found (Nat.zero_le _)
  · exact frugal

end Measures

/-- The steps of the network that something is there for. -/
def Progresses (console : Console) : ConsoleAction → Prop
  | .answer flight _ => ∃ id request, console.network[flight]? = some ⟨.call id, .asked request⟩
  | .serveRefresh flight _ => ∃ request, console.network[flight]? = some ⟨.refresh, .asked request⟩
  | .deliver flight => ∃ owner reply, console.network[flight]? = some ⟨owner, .answered reply⟩
  | .lose flight => ∃ owner wire, console.network[flight]? = some ⟨owner, wire⟩
  | _ => False

/-- What holds of a page whatever its calls, its server and its network do. -/
structure PageInvariant (console : Console) : Prop where
  balanced : Balanced console
  frugal : Frugal console

section Runs

variable {runtime : Runtime} {config : AuthConfig} {cookies : CookieConfig} {console : Console}

theorem Balanced.withJar (balanced : Balanced console) (jar : Jar) : Balanced { console with jar } := by
  refine ⟨fun owner => ?_, balanced.waiting⟩
  have flights := balanced.flights owner
  cases owner <;> exact flights

theorem Landed.withJar {owner : Owner} (landed : Landed owner console) (jar : Jar) :
    Landed owner { console with jar } := by
  refine ⟨fun other => ?_, landed.waiting⟩
  have flights := landed.flights other
  cases other <;> exact flights

theorem Balanced.withDirectory (balanced : Balanced console) (directory : Directory) :
    Balanced { console with directory } := by
  refine ⟨fun owner => ?_, balanced.waiting⟩
  have flights := balanced.flights owner
  cases owner <;> exact flights

theorem Balanced.call (balanced : Balanced console) (method path : String) :
    Balanced (console.step runtime config cookies (.call method path)) := by
  refine ⟨fun other => ?_, ?_⟩
  · have sent := flightsOf_fetch console (.call console.calls.length) other method path
    have before := balanced.flights other
    cases other with
    | refresh =>
        simp only [reduceCtorEq, if_false, Nat.add_zero] at sent
        exact sent.trans before
    | call id =>
        refine sent.trans ?_
        rw [before]
        simp only [owes, Console.step]
        obtain less | rfl | more := Nat.lt_trichotomy id console.calls.length
        · have apart : id ≠ console.calls.length := by omega
          simp [List.getElem?_append_left less, apart]
        · simp [flightsOut]
        · have apart : id ≠ console.calls.length := by omega
          have beyond : (console.calls ++ [{ method, path, phase := CallPhase.first }])[id]? = none := by
            rw [List.getElem?_eq_none_iff, List.length_append, List.length_singleton]
            omega
          rw [beyond, List.getElem?_eq_none_iff.mpr (Nat.le_of_lt more), if_neg (by simpa using apart)]
          rfl
  · intro call member waits
    cases List.mem_append.mp member with
    | inl old => exact balanced.waiting call old waits
    | inr new =>
        obtain rfl := List.mem_singleton.mp new
        cases waits

theorem PageInvariant.step (kept : PageInvariant console) (action : ConsoleAction) :
    PageInvariant (console.step runtime config cookies action) := by
  obtain ⟨balanced, frugal⟩ := kept
  cases action with
  | call method path =>
      refine ⟨balanced.call method path, ?_⟩
      unfold Frugal at frugal ⊢
      simp only [Console.step, Console.fetch, List.map_append, List.map_singleton, List.sum_append, List.sum_singleton,
        List.length_append, List.length_singleton, allowance]
      simp only [allowance] at frugal
      omega
  | answer flight reply =>
      simp only [Console.step]
      split
      · rename_i id request found
        exact ⟨balanced.answer found reply, frugal⟩
      · exact ⟨balanced, frugal⟩
  | serveRefresh flight draw =>
      simp only [Console.step]
      split
      · rename_i request found
        exact ⟨(balanced.answer found _).withDirectory _, frugal⟩
      · exact ⟨balanced, frugal⟩
  | deliver flight =>
      simp only [Console.step]
      split
      · rename_i owner reply found
        have landed := (balanced.land found).withJar (console.jar.accept reply.cookies)
        have taken : Frugal { console.land flight with jar := console.jar.accept reply.cookies } := frugal
        cases owner with
        | refresh => exact ⟨landed.resolve reply.ok, taken.resolve reply.ok⟩
        | call id => exact ⟨landed.receive reply.status, taken.receive id reply.status⟩
      · exact ⟨balanced, frugal⟩
  | lose flight =>
      simp only [Console.step]
      split
      · rename_i wire found
        exact ⟨(balanced.land found).resolve false, Frugal.resolve frugal false⟩
      · rename_i id wire found
        have landed := balanced.land found
        obtain ⟨call, there, _, _⟩ := landed.call_out
        exact ⟨landed.settle none, Frugal.enter frugal there (Nat.zero_le _)⟩
      · exact ⟨balanced, frugal⟩
  | expire name => exact ⟨balanced.withJar _, frugal⟩
  | elsewhere change => exact ⟨balanced.withDirectory _, frugal⟩

theorem pending_step (balanced : Balanced console) {action : ConsoleAction} (progresses : Progresses console action) :
    pending (console.step runtime config cookies action) < pending console := by
  cases action with
  | answer flight reply =>
      obtain ⟨id, request, found⟩ := progresses
      simp only [Console.step, found]
      exact pending_answer found reply
  | serveRefresh flight draw =>
      obtain ⟨request, found⟩ := progresses
      simp only [Console.step, found]
      exact pending_answer found _
  | deliver flight =>
      obtain ⟨owner, reply, found⟩ := progresses
      have lighter := pending_land found
      rw [weight_answered] at lighter
      simp only [Console.step, found]
      cases owner with
      | refresh =>
          have resolved := pending_resolve { console.land flight with jar := console.jar.accept reply.cookies } reply.ok
          exact Nat.lt_of_le_of_lt resolved (by simp only [pending] at lighter ⊢; omega)
      | call id =>
          have received := pending_receive { console.land flight with jar := console.jar.accept reply.cookies } id
            reply.status
          exact Nat.lt_of_le_of_lt received (by simp only [pending] at lighter ⊢; omega)
  | lose flight =>
      obtain ⟨owner, wire, found⟩ := progresses
      have lighter := pending_land found
      have heavy : 0 < weight wire := by cases wire <;> simp
      cases owner with
      | refresh =>
          simp only [Console.step, found]
          exact Nat.lt_of_le_of_lt (pending_resolve _ false) (by omega)
      | call id =>
          simp only [Console.step, found]
          obtain ⟨call, there, _, _⟩ := (balanced.land found).call_out
          have entered := pending_enter there (.settled none)
          simp only [credit] at entered
          omega
  | call _ _ | expire _ | elsewhere _ => exact progresses.elim

theorem pageInvariant_start (hosts : Hosts) (directory : Directory) (jar : Jar) :
    PageInvariant (Console.start hosts directory jar) := by
  refine ⟨⟨fun owner => ?_, fun call member => ?_⟩, Nat.le_refl _⟩
  · cases owner <;> rfl
  · cases member

theorem pageInvariant_visits (hosts : Hosts) (directory : Directory) (jar : Jar) (trace : List ConsoleAction) :
    Visits (Console.step runtime config cookies) PageInvariant (Console.start hosts directory jar) trace :=
  visits_of_step (fun _ action kept => kept.step action) (pageInvariant_start hosts directory jar) trace

/-- The network takes no more steps by itself than are pending. -/
theorem PageInvariant.finite (kept : PageInvariant console) {later : List ConsoleAction}
    (along : Along (Console.step runtime config cookies) Progresses console later) :
    later.length ≤ pending console := by
  induction later generalizing console with
  | nil => exact Nat.zero_le _
  | cons action rest ih =>
      have less : pending (console.step runtime config cookies action) < pending console :=
        pending_step kept.balanced along.1
      have bound := ih (kept.step action) along.2
      rw [List.length_cons]
      omega

theorem Balanced.in_flight (balanced : Balanced console) (owner : Owner) (owed : 0 < owes console owner) :
    ∃ (flight : Nat) (wire : Wire), console.network[flight]? = some ⟨owner, wire⟩ := by
  rw [← balanced.flights owner] at owed
  obtain ⟨entry, member, mine⟩ := List.countP_pos_iff.mp owed
  obtain ⟨flight, found⟩ := List.mem_iff_getElem?.mp member
  obtain ⟨other, wire⟩ := entry
  obtain rfl : other = owner := of_decide_eq_true mine
  exact ⟨flight, wire, found⟩

/-- Whoever is not done has something on the network. -/
theorem Balanced.unsettled (balanced : Balanced console) {call : ApiCall} (member : call ∈ console.calls)
    (unsettled : ∀ status, call.phase ≠ .settled status) :
    ∃ (flight : Nat) (owner : Owner) (wire : Wire), console.network[flight]? = some ⟨owner, wire⟩ := by
  obtain ⟨id, found⟩ := List.mem_iff_getElem?.mp member
  have mine : owes console (.call id) = flightsOut call.phase := by simp [owes, found]
  obtain ⟨method, path, phase⟩ := call
  cases phase with
  | first | second =>
      obtain ⟨flight, wire, there⟩ := balanced.in_flight (.call id) (by rw [mine]; exact Nat.one_pos)
      exact ⟨flight, _, wire, there⟩
  | refreshing =>
      have promise := balanced.waiting _ member rfl
      obtain ⟨flight, wire, there⟩ := balanced.in_flight .refresh (by simp [owes, promise])
      exact ⟨flight, _, wire, there⟩
  | settled status => exact absurd rfl (unsettled status)

/-- What is on the network can arrive. -/
theorem progresses_of_flight {flight : Nat} {owner : Owner} {wire : Wire}
    (found : console.network[flight]? = some ⟨owner, wire⟩) :
    ∃ action, Progresses console action ∧ ∀ other, action ≠ .lose other := by
  cases wire with
  | answered reply => exact ⟨.deliver flight, ⟨owner, reply, found⟩, fun _ => nofun⟩
  | asked request =>
      cases owner with
      | refresh =>
          exact ⟨.serveRefresh flight ⟨true, fun _ => false, ⟨0, 0⟩, "", 0⟩, ⟨request, found⟩, fun _ => nofun⟩
      | call id => exact ⟨.answer flight ⟨200, []⟩, ⟨id, request, found⟩, fun _ => nofun⟩

end Runs

/-- However the calls of a page, their answers and losses interleave, at most one refresh is
out, it is out while a call waits for one, no call has two requests out, and no call has
cost more than three requests in all. -/
theorem one_refresh_for_all_calls (runtime : Runtime) (config : AuthConfig) (cookies : CookieConfig)
    (hosts : Hosts) (directory : Directory) (jar : Jar) (trace : List ConsoleAction) :
    Visits (Console.step runtime config cookies)
      (fun console =>
        flightsOf console .refresh = (if console.refreshPromise then 1 else 0) ∧
        ((∃ call ∈ console.calls, call.phase = .refreshing) → flightsOf console .refresh = 1) ∧
        (∀ id, flightsOf console (.call id) ≤ 1) ∧ console.fetches ≤ 3 * console.calls.length)
      (Console.start hosts directory jar) trace := by
  refine (pageInvariant_visits hosts directory jar trace).mono fun console kept => ?_
  have refreshes := kept.balanced.flights .refresh
  refine ⟨refreshes, fun waits => ?_, fun id => ?_, Nat.le_trans (Nat.le_add_right _ _) kept.frugal⟩
  · obtain ⟨call, member, waiting⟩ := waits
    rw [refreshes, owes, if_pos (kept.balanced.waiting call member waiting)]
  · rw [kept.balanced.flights, owes]
    cases console.calls[id]? with
    | none => exact Nat.zero_le 1
    | some call =>
        rw [Option.map_some, Option.getD_some]
        cases call.phase <;> simp [flightsOut]

/-- A call that is not done can always go on without a loss, and the network cannot go on
for ever: what is pending bounds its steps, so where it has come to rest every call has
settled and no refresh is left open. -/
theorem calls_settle (runtime : Runtime) (config : AuthConfig) (cookies : CookieConfig)
    (hosts : Hosts) (directory : Directory) (jar : Jar) (trace : List ConsoleAction) :
    Visits (Console.step runtime config cookies)
      (fun console =>
        (∀ later, Along (Console.step runtime config cookies) Progresses console later →
          later.length ≤ pending console) ∧
        (∀ call ∈ console.calls, (∀ status, call.phase ≠ .settled status) →
          ∃ action, Progresses console action ∧ ∀ flight, action ≠ .lose flight) ∧
        ((∀ action, ¬ Progresses console action) →
          console.refreshPromise = false ∧ ∀ call ∈ console.calls, ∃ status, call.phase = .settled status))
      (Console.start hosts directory jar) trace := by
  refine (pageInvariant_visits hosts directory jar trace).mono fun console kept => ?_
  have goes_on : ∀ call ∈ console.calls, (∀ status, call.phase ≠ .settled status) →
      ∃ action, Progresses console action ∧ ∀ flight, action ≠ .lose flight := by
    intro call member unsettled
    obtain ⟨flight, owner, wire, found⟩ := kept.balanced.unsettled member unsettled
    exact progresses_of_flight found
  refine ⟨fun later along => kept.finite along, goes_on, fun quiet => ⟨?_, fun call member => ?_⟩⟩
  · by_contra promise
    have promise : console.refreshPromise = true := by simpa using promise
    obtain ⟨flight, wire, found⟩ := kept.balanced.in_flight .refresh (by simp [owes, promise])
    obtain ⟨action, progresses, _⟩ := progresses_of_flight found
    exact quiet action progresses
  · by_contra unsettled
    obtain ⟨action, progresses, _⟩ := goes_on call member fun status same => unsettled ⟨status, same⟩
    exact quiet action progresses

end Aicos.Properties

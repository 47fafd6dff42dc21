import Aicos.Identity.Cookies

namespace Aicos.Properties

open Aicos.Commerce Aicos.Identity

/-! The three readings of a TTL: the lifetime of the signed token, the end of its session and
the age of its cookie. -/

/-- How the token library reads a TTL.  Raw digits are milliseconds to it. -/
structure ReadsTtl (ms : String → Option Nat) : Prop where
  withUnit : ∀ ttl : Ttl, ∀ unit, ttl.unit = some unit → ttl.text.length ≤ 100 →
    ms ttl.text = some (ttl.value * unit.ms)
  raw : ∀ ttl : Ttl, ttl.unit = none → ttl.text.length ≤ 100 → ms ttl.text = some ttl.value
  long : ∀ text, 100 < text.length → ms text = none

/-- What is issued under a configuration lasts as long as its tokens: the session that is made at
`now`, and the cookies that are sent at `sent` with the date at which they expire. -/
structure DurationsAgree (ms : String → Option Nat) (config : CookieConfig) (session : Session) (cookies : List Cookie)
    (now sent : Instant) : Prop where
  access : ∀ cookie ∈ cookies, cookie.name = accessCookie → ms config.accessTtl = some cookie.maxAge
  refresh : ∀ cookie ∈ cookies, cookie.name ≠ accessCookie → ms config.refreshTtl = some cookie.maxAge
  session : ∃ duration, ms config.refreshTtl = some duration ∧ newDate session.expiresAt = some (now + duration)
  expires : ∀ cookie ∈ cookies, newDate (sent + cookie.maxAge) = some (sent + cookie.maxAge)

/-- The library reads the TTL as the services do. -/
def ReadAlike (ttl : Ttl) : Prop :=
  (ttl.unit ≠ none ∨ ttl.value = 0) ∧ ttl.text.length ≤ 100

/-- A TTL that is given to `new Date` with the time ends where there are dates. -/
def EndsInTime (time : Instant) (ttl : Ttl) : Prop :=
  time + ttl.ms ≤ 8640000000000000

theorem newDate_iff {time : Instant} {ttl : Ttl} {date : Nat} :
    newDate (time + ttl.ms) = some date ↔ EndsInTime time ttl ∧ time + ttl.ms = date := by
  unfold newDate EndsInTime
  split <;> simp [*]

section Readings

variable {ms : String → Option Nat}

theorem ReadsTtl.alike_iff (reads : ReadsTtl ms) (ttl : Ttl) : ms ttl.text = some ttl.ms ↔ ReadAlike ttl := by
  unfold ReadAlike
  by_cases short : ttl.text.length ≤ 100
  · cases given : ttl.unit with
    | none =>
        rw [reads.raw ttl given short, Ttl.ms, given]
        simp [short]
        omega
    | some unit =>
        rw [reads.withUnit ttl unit given short, Ttl.ms, given]
        simp [short]
  · rw [reads.long _ (not_le.mp short)]
    simp [short]

theorem durationsAgree_iff (access refresh : Ttl) (secure : Bool) (csrf : String) (tokens : TokenPair)
    (principal : Principal) (id : SessionId) (now sent : Instant) :
    DurationsAgree ms ⟨secure, access.text, refresh.text⟩ (placeholderSession refresh.text principal id now)
      (setAuthCookies csrf tokens ⟨secure, access.text, refresh.text⟩) now sent ↔
      (ms access.text = some access.ms ∧ ms refresh.text = some refresh.ms) ∧
        EndsInTime now refresh ∧ EndsInTime sent access ∧ EndsInTime sent refresh := by
  have lasts : (placeholderSession refresh.text principal id now).expiresAt = now + refresh.ms := by
    rw [placeholderSession, ttlToMs_text]
  have cookies (Good : Cookie → Prop) :
      (∀ cookie ∈ setAuthCookies csrf tokens ⟨secure, access.text, refresh.text⟩, Good cookie) ↔
        Good ⟨accessCookie, tokens.accessToken, true, secure, .lax, "/", access.ms⟩ ∧
          Good ⟨refreshCookie, tokens.refreshToken, true, secure, .strict, refreshPath, refresh.ms⟩ ∧
          Good ⟨csrfCookie, csrf, false, secure, .lax, "/", refresh.ms⟩ := by
    rw [setAuthCookies, AuthCookies.ttlToMs_text, AuthCookies.ttlToMs_text]
    simp
  have refreshApart : refreshCookie ≠ accessCookie := by decide
  have csrfApart : csrfCookie ≠ accessCookie := by decide
  constructor
  · intro agree
    have first := (cookies _).mp agree.access
    have later := (cookies _).mp agree.refresh
    have ends := (cookies _).mp agree.expires
    obtain ⟨duration, _, date⟩ := agree.session
    rw [lasts, newDate_iff] at date
    rw [newDate_iff, newDate_iff] at ends
    exact ⟨⟨first.1 rfl, later.2.1 refreshApart⟩, date.1, ends.1.1, ends.2.1.1⟩
  · intro both
    obtain ⟨⟨first, later⟩, ends, shortly, lastly⟩ := both
    have dated : newDate (placeholderSession refresh.text principal id now).expiresAt = some (now + refresh.ms) := by
      rw [lasts]
      exact newDate_iff.mpr ⟨ends, rfl⟩
    exact {
      access := (cookies _).mpr ⟨fun _ => first, fun same => absurd same refreshApart, fun same => absurd same csrfApart⟩
      refresh := (cookies _).mpr ⟨fun other => absurd rfl other, fun _ => later, fun _ => later⟩
      session := ⟨_, later, dated⟩
      expires := (cookies _).mpr
        ⟨newDate_iff.mpr ⟨shortly, rfl⟩, newDate_iff.mpr ⟨lastly, rfl⟩, newDate_iff.mpr ⟨lastly, rfl⟩⟩ }

end Readings

theorem ttl_durations_agree_iff {ms : String → Option Nat} (reads : ReadsTtl ms) (access refresh : Ttl) (secure : Bool)
    (csrf : String) (tokens : TokenPair) (principal : Principal) (id : SessionId) (now sent : Instant) :
    DurationsAgree ms ⟨secure, access.text, refresh.text⟩ (placeholderSession refresh.text principal id now)
      (setAuthCookies csrf tokens ⟨secure, access.text, refresh.text⟩) now sent ↔
      (ReadAlike access ∧ ReadAlike refresh) ∧
        EndsInTime now refresh ∧ EndsInTime sent access ∧ EndsInTime sent refresh := by
  rw [durationsAgree_iff, reads.alike_iff, reads.alike_iff]

/-- The library on the TTLs of the environment. -/
def plainMs (text : String) : Option Nat :=
  let digits := text.toList.takeWhile Char.isDigit
  let value := digits.foldl (fun value digit => 10 * value + (digit.toNat - '0'.toNat)) 0
  if 100 < text.length then none
  else
    match text.toList.dropWhile Char.isDigit with
    | [] => some value
    | [unit] => (unitMs unit).map (value * ·)
    | _ => none

theorem plainMs_text {ttl : Ttl} (short : ttl.text.length ≤ 100) :
    plainMs ttl.text = some (ttl.value * (ttl.unit.map TtlUnit.ms).getD 1) := by
  unfold plainMs
  dsimp only
  rw [ttl.takeWhile_text, ttl.dropWhile_text, if_neg (not_lt.mpr short), Ttl.value]
  cases ttl.unit <;> simp

theorem plainMs_reads : ReadsTtl plainMs where
  withUnit ttl unit given short := by rw [plainMs_text short, given]; rfl
  raw ttl given short := by rw [plainMs_text short, given]; exact congrArg some (Nat.mul_one _)
  long text long := if_pos long

/-- `900`: fifteen minutes of raw seconds. -/
def rawSeconds : Ttl where
  digits := ['9', '0', '0']
  unit := none
  filled := by decide
  decimal := List.all_eq_true.mp rfl

/-- `30d`. -/
def thirtyDays : Ttl where
  digits := ['3', '0']
  unit := some .d
  filled := by decide
  decimal := List.all_eq_true.mp rfl

def issuedPair : TokenPair := ⟨"access", "refresh", "Bearer", "900"⟩

theorem ttl_durations_of_raw_seconds :
    DurationsAgree plainMs ⟨true, rawSeconds.text, thirtyDays.text⟩
      (placeholderSession thirtyDays.text ⟨1, 1, 1, "ada@shop.example"⟩ 1 0)
      (setAuthCookies "csrf" issuedPair ⟨true, rawSeconds.text, thirtyDays.text⟩) 0 1 ↔
      (ReadAlike rawSeconds ∧ ReadAlike thirtyDays) ∧
        EndsInTime 0 thirtyDays ∧ EndsInTime 1 rawSeconds ∧ EndsInTime 1 thirtyDays :=
  ttl_durations_agree_iff plainMs_reads rawSeconds thirtyDays true "csrf" issuedPair ⟨1, 1, 1, "ada@shop.example"⟩ 1 0 1

/-- The token of a session of 900 seconds lasts for 900 milliseconds. -/
theorem raw_seconds_signed_as_milliseconds :
    plainMs rawSeconds.text = some 900 ∧
    (placeholderSession rawSeconds.text ⟨1, 1, 1, "ada@shop.example"⟩ 1 0).expiresAt = 900000 ∧
    ¬ ∀ access refresh secure csrf tokens principal id now sent,
      DurationsAgree plainMs ⟨secure, Ttl.text access, Ttl.text refresh⟩
        (placeholderSession refresh.text principal id now)
        (setAuthCookies csrf tokens ⟨secure, access.text, refresh.text⟩) now sent := by
  refine ⟨by decide, by decide, ?_⟩
  intro agree
  have alike := (durationsAgree_iff _ _ _ _ _ _ _ _ _).mp
    (agree thirtyDays rawSeconds true "csrf" issuedPair ⟨1, 1, 1, "ada@shop.example"⟩ 1 0 0)
  exact absurd alike.1.2 (by decide)

end Aicos.Properties

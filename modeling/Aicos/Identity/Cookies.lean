import Aicos.Identity.Service

namespace Aicos.Identity

open Aicos.Data

/-! The cookie session of a browser: `setAuthCookies`, with a TTL parser of its own. -/

inductive SameSite where
  | lax | strict
deriving DecidableEq

structure Cookie where
  name : String
  value : String
  httpOnly : Bool
  secure : Bool
  sameSite : SameSite
  path : String
  maxAge : Nat
deriving DecidableEq

structure CookieConfig where
  secure : Bool
  accessTtl : String
  refreshTtl : String
deriving DecidableEq

def accessCookie : String := "aicos_access"

def refreshCookie : String := "aicos_refresh"

def csrfCookie : String := "aicos_csrf"

/-- The refresh cookie goes to the auth routes only. -/
def refreshPath : String := "/api/v1/auth"

namespace AuthCookies

/-- `AuthService.ttlToMs` once more, with the caller's fallback. -/
def ttlToMs (ttl : String) (fallback : Nat) : Nat :=
  let chars := (trim ttl).toList
  let digits := chars.takeWhile Char.isDigit
  let value := digits.foldl (fun value digit => 10 * value + (digit.toNat - '0'.toNat)) 0
  if digits = [] then fallback
  else
    match chars.dropWhile Char.isDigit with
    | [] => value * 1000
    | [unit] => ((unitMs unit).map (value * ·)).getD fallback
    | _ => fallback

end AuthCookies

/-- The cookies that a response sets; `csrf` is the token it draws and returns. -/
def setAuthCookies (csrf : String) (tokens : TokenPair) (config : CookieConfig) : List Cookie :=
  let accessMaxAge := AuthCookies.ttlToMs config.accessTtl (15 * 60000)
  let refreshMaxAge := AuthCookies.ttlToMs config.refreshTtl (30 * 86400000)
  [ { name := accessCookie
      value := tokens.accessToken
      httpOnly := true
      secure := config.secure
      sameSite := .lax
      path := "/"
      maxAge := accessMaxAge },
    { name := refreshCookie
      value := tokens.refreshToken
      httpOnly := true
      secure := config.secure
      sameSite := .strict
      path := refreshPath
      maxAge := refreshMaxAge },
    -- the client has to read this one to send it back in a header
    { name := csrfCookie
      value := csrf
      httpOnly := false
      secure := config.secure
      sameSite := .lax
      path := "/"
      maxAge := refreshMaxAge } ]

theorem ttlToMs_eq (ttl : String) : ttlToMs ttl = AuthCookies.ttlToMs ttl (30 * 24 * 60 * 60 * 1000) := by
  unfold ttlToMs AuthCookies.ttlToMs
  generalize (trim ttl).toList = chars
  rcases chars.dropWhile Char.isDigit with _ | ⟨unit, _ | _⟩ <;> rfl

section Texts

/-- The unit of a TTL. -/
inductive TtlUnit where
  | s | m | h | d
deriving DecidableEq

def TtlUnit.char : TtlUnit → Char
  | .s => 's'
  | .m => 'm'
  | .h => 'h'
  | .d => 'd'

def TtlUnit.ms : TtlUnit → Nat
  | .s => 1000
  | .m => 60000
  | .h => 3600000
  | .d => 86400000

/-- A TTL string of the environment: `/^(\d+)([smhd])?$/`. -/
structure Ttl where
  digits : List Char
  unit : Option TtlUnit
  filled : digits ≠ []
  decimal : ∀ digit ∈ digits, digit.isDigit = true

namespace Ttl

def text (ttl : Ttl) : String :=
  String.ofList (ttl.digits ++ (ttl.unit.map TtlUnit.char).toList)

def value (ttl : Ttl) : Nat :=
  ttl.digits.foldl (fun value digit => 10 * value + (digit.toNat - '0'.toNat)) 0

/-- What a TTL comes to where raw digits are seconds. -/
def ms (ttl : Ttl) : Nat :=
  ttl.value * (ttl.unit.map TtlUnit.ms).getD 1000

end Ttl

@[simp] theorem unitMs_char (unit : TtlUnit) : unitMs unit.char = some unit.ms := by
  cases unit <;> rfl

@[simp] theorem isDigit_char (unit : TtlUnit) : unit.char.isDigit = false := by
  cases unit <;> rfl

theorem isSpace_of_isDigit {char : Char} (digit : char.isDigit = true) : isSpace char = false := by
  have bounds : 48 ≤ char.toNat ∧ char.toNat ≤ 57 := by
    simp [Char.isDigit, UInt32.le_iff_toNat_le] at digit
    exact digit
  simp [isSpace, UInt32.le_iff_toNat_le, ← UInt32.toNat_inj]
  omega

theorem isSpace_char (unit : TtlUnit) : isSpace unit.char = false := by
  cases unit <;> decide

theorem Ttl.trim_text (ttl : Ttl) : trim ttl.text = ttl.text := by
  have kept : ∀ char ∈ ttl.digits ++ (ttl.unit.map TtlUnit.char).toList, isSpace char = false := by
    intro char member
    cases List.mem_append.mp member with
    | inl digit => exact isSpace_of_isDigit (ttl.decimal char digit)
    | inr last =>
        obtain ⟨unit, _, rfl⟩ := Option.map_eq_some_iff.mp (Option.mem_toList.mp last)
        exact isSpace_char unit
  rw [Ttl.text, trim, String.toList_ofList]
  exact congrArg String.ofList (stripBoth_eq_self (fun char head => kept char (List.mem_of_head? head))
    fun char last => kept char (List.mem_of_getLast? last))

theorem Ttl.takeWhile_text (ttl : Ttl) : ttl.text.toList.takeWhile Char.isDigit = ttl.digits := by
  rw [Ttl.text, String.toList_ofList, List.takeWhile_append_of_pos ttl.decimal]
  cases ttl.unit <;> simp

theorem Ttl.dropWhile_text (ttl : Ttl) :
    ttl.text.toList.dropWhile Char.isDigit = (ttl.unit.map TtlUnit.char).toList := by
  rw [Ttl.text, String.toList_ofList, List.dropWhile_append_of_pos ttl.decimal]
  cases ttl.unit <;> simp

theorem AuthCookies.ttlToMs_text (ttl : Ttl) (fallback : Nat) : AuthCookies.ttlToMs ttl.text fallback = ttl.ms := by
  unfold AuthCookies.ttlToMs
  rw [Ttl.trim_text]
  dsimp only
  rw [ttl.takeWhile_text, ttl.dropWhile_text, if_neg ttl.filled, Ttl.ms, Ttl.value]
  cases ttl.unit with
  | none => rfl
  | some unit => simp

theorem ttlToMs_text (ttl : Ttl) : ttlToMs ttl.text = ttl.ms :=
  (ttlToMs_eq ttl.text).trans (AuthCookies.ttlToMs_text ttl _)

end Texts

end Aicos.Identity

import Aicos.Data.Number

namespace Aicos.Money

open Aicos.Data

/-! How prices are shown: `formatMoney` of the shared package, `money` of the mail templates
and `formatCents` of the storefront. -/

/-- `new Intl.NumberFormat(locale, { style: 'currency', currency }).format(amount)`. -/
structure FormatCall where
  locale : String
  currency : String
  amount : Double

structure Runtime where
  toUpperCase : String → String
  toFixed : Nat → Double → String
  /-- `none` where the constructor throws: the code is not one of a currency. -/
  format : FormatCall → Option String

section Shared

variable (runtime : Runtime)

def zeroDecimalCurrencies : List String := ["JPY", "KRW", "VND", "CLP", "ISK", "HUF", "XOF", "XAF"]

def threeDecimalCurrencies : List String := ["BHD", "KWD", "OMR", "TND", "JOD"]

def defaultMinorUnits : Int := 100

def minorUnitFactor (currency : String) : Int :=
  let code := runtime.toUpperCase currency
  if code ∈ zeroDecimalCurrencies then 1
  else if code ∈ threeDecimalCurrencies then 1000
  else defaultMinorUnits

/-- `none` is the RangeError of an amount that is not an integer. -/
def fromCents (cents : Double) (currency : String) : Option Double :=
  if cents.value.isInt then some (cents.div (.ofInt (minorUnitFactor runtime currency))) else none

/-- `none` is the RangeError of an amount that is not finite. -/
def toCents (amount : Number) (currency : String) : Option Number :=
  match amount with
  | .finite major _ => some (Number.ofDouble (major.mul (.ofInt (minorUnitFactor runtime currency)))).round
  | _ => none

def formatMoney (cents : Double) (currency locale : Option String) : Option String :=
  let code := runtime.toUpperCase (currency.getD "USD")
  (fromCents runtime cents code).map fun amount =>
    (runtime.format ⟨locale.getD "en-US", code, amount⟩).getD s!"{runtime.toFixed 2 amount} {code}"

end Shared

/-- What `money` formats; `none` is a payload field that is not a number or not a string. -/
def moneyCall (cents : Option Double) (currency : Option String) : FormatCall where
  locale := "en-US"
  currency := currency.getD "USD"
  amount := (cents.getD 0).div (.ofInt 100)

def money (runtime : Runtime) (cents : Option Double) (currency : Option String) : Option String :=
  runtime.format (moneyCall cents currency)

def formatCentsCall (cents : Double) (currency : Option String) : FormatCall where
  locale := "en-US"
  currency := currency.getD "USD"
  amount := cents.div (.ofInt 100)

def formatCents (runtime : Runtime) (cents : Option Double) (currency : Option String) : Option String :=
  match cents with
  | none => some "—"
  | some cents => runtime.format (formatCentsCall cents currency)

end Aicos.Money

import Aicos.Data.Number

namespace Aicos.Data

/-! The decimal a text begins with, and the number JavaScript reads it as.  Exponents,
a plus and blanks are left out: the texts here have none. -/

def digitsValue (digits : List Char) : ℕ :=
  digits.foldl (fun value digit => 10 * value + (digit.toNat - '0'.toNat)) 0

def fractionDigits : List Char → List Char
  | '.' :: rest => rest.takeWhile Char.isDigit
  | _ => []

/-- Digits with at most one dot among them; what comes after is left aside. -/
def unsignedDecimal (chars : List Char) : Option ℚ :=
  let whole := chars.takeWhile Char.isDigit
  let fraction := fractionDigits (chars.dropWhile Char.isDigit)
  if whole ++ fraction = [] then none
  else some (digitsValue (whole ++ fraction) / 10 ^ fraction.length)

def decimal : List Char → Option ℚ
  | '-' :: rest => (unsignedDecimal rest).map Neg.neg
  | chars => unsignedDecimal chars

def parseFloat (chars : List Char) : Number :=
  match decimal chars with
  | some value => .ofDouble (.ofRat value)
  | none => .nan

section Written

variable {whole fraction : List Char}

theorem digitsValue_toDigits (number : ℕ) : digitsValue (Nat.toDigits 10 number) = number :=
  Nat.ofDigitChars_ten_toDigits

theorem digitsValue_append (first second : List Char) :
    digitsValue (first ++ second) = 10 ^ second.length * digitsValue first + digitsValue second := by
  rw [digitsValue, List.foldl_append]
  exact Nat.ofDigitChars_eq_ofDigitChars_zero

/-- Digits around a dot are read as what they denote. -/
theorem decimal_written (present : whole ≠ []) (digits : ∀ c ∈ whole, c.isDigit = true)
    (more : ∀ c ∈ fraction, c.isDigit = true) :
    decimal (whole ++ '.' :: fraction) =
      some ((digitsValue (whole ++ fraction) : ℚ) / 10 ^ fraction.length) := by
  have dot : ¬ '.'.isDigit = true := by decide
  have before : (whole ++ '.' :: fraction).takeWhile Char.isDigit = whole := by
    rw [List.takeWhile_append_of_pos digits, List.takeWhile_cons_of_neg dot, List.append_nil]
  have after : (whole ++ '.' :: fraction).dropWhile Char.isDigit = '.' :: fraction := by
    rw [List.dropWhile_append_of_pos digits, List.dropWhile_cons_of_neg dot]
  have tail : (fraction ++ []).takeWhile Char.isDigit = fraction ++ [] := List.takeWhile_append_of_pos more
  rw [List.append_nil] at tail
  have unsigned : unsignedDecimal (whole ++ '.' :: fraction) =
      some ((digitsValue (whole ++ fraction) : ℚ) / 10 ^ fraction.length) := by
    rw [unsignedDecimal, before, after, fractionDigits, tail]
    exact if_neg (List.append_ne_nil_of_left_ne_nil present fraction)
  cases whole with
  | nil => exact absurd rfl present
  | cons first rest =>
      have digit := digits first List.mem_cons_self
      unfold decimal
      split
      · rename_i same
        cases same
        cases digit
      · exact unsigned

end Written

example : decimal "1299.00-5".toList = some 1299 := by decide +kernel

end Aicos.Data

import Aicos.Data.DelimitedText
import Aicos.Import.CsvRows

namespace Aicos.Properties

open Aicos.Data Aicos.Import

/-! The rows `toRows` hands on against what the validators ask.  A text goes round the
validators: its cells may be too long, a price may come to less than zero, and a price that
is a number may have too many cents to be one. -/

/-- The least amount whose cents round up from a half. -/
def leastLoss : ℚ := ((5764607523034235 : ℤ) + 1 / 2) * 2 ^ (-60 : ℤ)

/-- The largest amount whose cents are a number. -/
def largestPrice : ℚ := ((5764607523034234 : ℤ) + 1 / 2) * 2 ^ (965 : ℤ)

/-- From here on an amount is read as infinite. -/
def unreadable : ℚ := ((9007199254740991 : ℤ) + 1 / 2) * 2 ^ (971 : ℤ)

def Payable (amount : ℚ) : Prop :=
  (-leastLoss < amount ∧ amount ≤ largestPrice) ∨ unreadable ≤ |amount|

section Cents

variable {amount : ℚ}

/-- A rounding, a multiplication and another rounding. -/
def cents (amount : ℚ) : ℚ := nearest (nearest amount * 100)

theorem cents_neg (amount : ℚ) : cents (-amount) = -cents amount := by
  rw [cents, nearest_neg, neg_mul, nearest_neg, cents]

theorem half_lt_cents : 1 / 2 < cents amount ↔ leastLoss ≤ amount := by
  have half : (4503599627370496 : ℤ) * (2 : ℚ) ^ (-53 : ℤ) = 1 / 2 := by norm_num
  constructor
  · intro more
    by_contra! below
    have down := nearest_le_of_lt_halfway (by norm_num) (by norm_num) (by norm_num) below
    have least : nearest amount * 100 < ((4503599627370496 : ℤ) + 1 / 2) * 2 ^ (-53 : ℤ) := by
      refine lt_of_le_of_lt (mul_le_mul_of_nonneg_right down (by norm_num)) ?_
      norm_num
    have kept := nearest_le_of_lt_halfway (by norm_num) (by norm_num) (by norm_num) least
    rw [half] at kept
    exact absurd more kept.not_gt
  · intro above
    have up := (le_nearest_iff_halfway_le (by norm_num) (by norm_num) (by norm_num) (by norm_num)).mpr above
    have most : ((4503599627370496 : ℤ) + 1 / 2) * 2 ^ (-53 : ℤ) < nearest amount * 100 := by
      refine lt_of_lt_of_le ?_ (mul_le_mul_of_nonneg_right up (by norm_num))
      norm_num
    have reached := le_nearest_of_halfway_lt (by norm_num) (by norm_num) (by norm_num) most
    refine lt_of_lt_of_le ?_ reached
    norm_num

theorem neg_half_le_cents : -1 / 2 ≤ cents amount ↔ -leastLoss < amount := by
  have mirrored : 1 / 2 < cents (-amount) ↔ leastLoss ≤ -amount := half_lt_cents
  rw [cents_neg] at mirrored
  constructor
  · intro kept
    by_contra! below
    have more := mirrored.mpr (by linarith)
    linarith
  · intro above
    by_contra! lost
    have less := mirrored.mp (by linarith)
    linarith

theorem nearest_lt_overflow : nearest amount < 2 ^ 1024 ↔ amount < unreadable := by
  have limit : (((9007199254740991 : ℤ) + 1 : ℤ) : ℚ) * 2 ^ (971 : ℤ) = 2 ^ 1024 := by
    rw [show 1024 = 53 + 971 by rfl, pow_add, zpow_ofNat]
    norm_num
  rw [← not_le, ← not_le, ← limit]
  exact not_congr (le_nearest_iff_halfway_le (by norm_num) (by norm_num) (by norm_num) (by norm_num))

theorem unreadable_eq : unreadable = 576460752303423456 * 2 ^ (965 : ℤ) := by
  rw [unreadable, show (971 : ℤ) = 6 + 965 by rfl, zpow_add₀ (by norm_num)]
  norm_num only
  ring

theorem cents_lt_overflow : cents amount < 2 ^ 1024 ↔ amount ≤ largestPrice := by
  have unit := two_zpow_pos 965
  rw [cents, nearest_lt_overflow]
  constructor
  · intro few
    by_contra! above
    have up := le_nearest_of_halfway_lt (by norm_num) (by norm_num) (by norm_num) above
    have many : unreadable < nearest amount * 100 := by
      rw [unreadable_eq]
      generalize (2 : ℚ) ^ (965 : ℤ) = step at unit up ⊢
      push_cast at up
      linarith
    exact absurd few many.not_gt
  · intro below
    have down := (nearest_le_iff_le_halfway (by norm_num) (by norm_num) (by norm_num) (by norm_num)).mpr below
    rw [unreadable_eq]
    generalize (2 : ℚ) ^ (965 : ℤ) = step at unit down ⊢
    push_cast at down
    linarith

/-- Which amounts come to cents. -/
theorem centsOf_isCents : (centsOf (Number.ofDouble (Double.ofRat amount))).IsCents ↔ Payable amount := by
  have readable : |(Double.ofRat amount).value| < 2 ^ 1024 ↔ |amount| < unreadable := by
    rw [Double.ofRat_value, abs_nearest, nearest_lt_overflow]
  by_cases finite : |amount| < unreadable
  · have product : ((Double.ofRat amount).mul (Double.ofInt 100)).value = cents amount := by
      rw [Double.mul, Double.ofInt_value (by norm_num), Double.ofRat_value, Double.ofRat_value, cents]
      norm_num
    rw [Number.ofDouble_of_small (readable.mpr finite), centsOf, Number.round_ofDouble_isCents, product]
    rw [Payable, or_iff_left finite.not_ge, ← cents_lt_overflow, ← neg_half_le_cents]
    refine and_congr_right fun bounded => abs_lt.trans (and_iff_right ?_)
    have wide : (1 : ℚ) < 2 ^ 1024 := one_lt_pow₀ (by norm_num) (by norm_num)
    generalize (2 : ℚ) ^ 1024 = limit at wide ⊢
    linarith
  · have infinite := Number.ofDouble_of_large (not_lt.mp fun small => finite (readable.mp small))
    rw [infinite, centsOf]
    · exact iff_of_true Number.isCents_zero (.inr (not_lt.mp finite))
    · intro value small same
      cases same

end Cents

section Cells

variable {cell : Option String} {columns : Columns} {cells : List String}

theorem dollarsToCents_isCents : (dollarsToCents cell).IsCents ↔
    ∀ raw ∈ cell, ∀ amount ∈ decimal (priceText raw), Payable amount := by
  cases cell with
  | none => simp [dollarsToCents, Number.isCents_zero]
  | some raw =>
      rw [dollarsToCents]
      split
      · rename_i empty
        subst empty
        refine iff_of_true Number.isCents_zero ?_
        intro raw given amount read
        cases given
        cases read
      · cases read : decimal (priceText raw) with
        | none =>
            simp only [parseFloat, read, centsOf]
            exact iff_of_true Number.isCents_zero (by simp [read])
        | some amount =>
            simp only [parseFloat, read]
            rw [centsOf_isCents]
            simp [read]

variable (characters : String → ℕ)

/-- What is left of a cell without the blanks around it is not too long. -/
def Fits (limit : ℕ) (cell : Option String) : Prop :=
  ∀ text ∈ cell, trim text ≠ "" → characters (trim text) ≤ limit

/-- What the validators ask of the cells of a record that has a title. -/
structure Importable (columns : Columns) (cells : List String) : Prop where
  title : Fits characters 300 (cellAt cells columns.title)
  sku : Fits characters 120 (cellAt cells columns.sku)
  price : ∀ raw ∈ cellAt cells columns.price, ∀ amount ∈ decimal (priceText raw), Payable amount
  brand : Fits characters 120 (cellAt cells columns.brand)

def Titled (columns : Columns) (cells : List String) : Prop :=
  ∃ cell ∈ cellAt cells columns.title, trim cell ≠ ""

variable {characters}

theorem maxLength_filled {limit : ℕ} : (∀ text ∈ filled cell, maxLength characters limit text = true) ↔
    Fits characters limit cell := by
  cases cell with
  | none => simp [filled, Fits]
  | some text =>
      by_cases blank : trim text = "" <;> simp [filled, maxLength, Fits, blank]

theorem readRecord_valid : (∀ row ∈ readRecord columns cells, row.Valid characters) ↔
    (Titled columns cells → Importable characters columns cells) := by
  cases named : cellAt cells columns.title with
  | none => simp [readRecord, named, filled, Titled]
  | some cell =>
      by_cases blank : trim cell = ""
      · simp [readRecord, named, filled, blank, Titled]
      · have title : filled (cellAt cells columns.title) = some (trim cell) := by
          simp [named, filled, blank]
        have titled : Titled columns cells := ⟨cell, named, blank⟩
        rw [readRecord, title, Option.map_some]
        constructor
        · intro valid _
          have ⟨short, sku, price, brand⟩ := valid _ rfl
          refine ⟨maxLength_filled.mp ?_, maxLength_filled.mp sku, dollarsToCents_isCents.mp price,
            maxLength_filled.mp brand⟩
          rw [title]
          intro text same
          cases same
          exact short
        · intro importable row same
          cases same
          have ⟨short, sku, price, brand⟩ := importable titled
          exact ⟨maxLength_filled.mpr short _ title, maxLength_filled.mpr sku, dollarsToCents_isCents.mpr price,
            maxLength_filled.mpr brand⟩

end Cells

section Requests

variable {characters : String → ℕ}

/-- A valid row is one the importer takes. -/
theorem exists_importRow {row : ParsedRow} (valid : row.Valid characters) :
    ∃ imported : ImportRow, 0 ≤ imported.priceCents ∧ row = .ofImportRow imported := by
  obtain ⟨-, -, price, -⟩ := valid
  obtain ⟨amount, nonneg, same⟩ : ∃ amount : ℤ, 0 ≤ amount ∧ row.priceCents = Number.ofInt amount := by
    cases read : row.priceCents with
    | nan => simp [read, Number.IsCents, Number.isInteger] at price
    | infinite negative => exact absurd (read ▸ price) (Number.not_isCents_infinite negative)
    | finite value small =>
        rw [read, Number.isCents_finite] at price
        obtain ⟨whole, least⟩ := price
        have exact : value.value = value.value.num := Rat.eq_num_of_isInt whole
        refine ⟨value.value.num, Rat.num_nonneg.mpr least, ?_⟩
        have double : Double.ofInt value.value.num = value := by
          rw [Double.ofInt, ← exact, Double.ofRat_of_exact]
        rw [Number.ofInt, double, Number.ofDouble_of_small small]
  exact ⟨⟨row.title, row.sku, amount, row.description, row.brand⟩, nonneg, by rw [ParsedRow.ofImportRow, ← same]⟩

/-- Every record with a title has cells the validators would take. -/
def ImportableText (toLowerCase : String → String) (characters : String → ℕ) (csv : String) : Prop :=
  ∀ headerRow records, parseDelimited csv = headerRow :: records →
    ∀ cells ∈ records, Titled (columnsOf toLowerCase headerRow) cells →
      Importable characters (columnsOf toLowerCase headerRow) cells

variable {toLowerCase : String → String}

theorem csvToImportRows_valid (csv : String) :
    (∀ row ∈ csvToImportRows toLowerCase csv, row.Valid characters) ↔ ImportableText toLowerCase characters csv := by
  unfold csvToImportRows ImportableText
  cases parseDelimited csv with
  | nil => simp
  | cons headerRow records =>
      simp only [List.mem_filterMap, List.cons.injEq]
      constructor
      · intro valid _ _ same cells member
        obtain ⟨rfl, rfl⟩ := same
        exact readRecord_valid.mp fun row read => valid row ⟨cells, member, read⟩
      · intro importable row found
        obtain ⟨cells, member, read⟩ := found
        exact readRecord_valid.mpr (importable headerRow records ⟨rfl, rfl⟩ cells member) row read

section Products

variable (shrinks : ∀ text, characters (trim text) ≤ characters text)

include shrinks

theorem maxLength_trimmed {limit : ℕ} {cell : Option String}
    (fits : ∀ text ∈ cell, maxLength characters limit text = true) :
    ∀ text ∈ filled cell, maxLength characters limit text = true :=
  maxLength_filled.mpr fun text member _ => (shrinks text).trans (of_decide_eq_true (fits text member))

theorem input_row_valid (input : ImportProductInput characters) : input.row.Valid characters where
  title := decide_eq_true ((shrinks input.title).trans (of_decide_eq_true input.titleFits))
  sku := maxLength_trimmed shrinks input.skuFits
  price := by
    change (input.priceCents.getD (.ofInt 0)).IsCents
    cases given : input.priceCents with
    | none => exact Number.isCents_zero
    | some price => exact input.priceIsCents price given
  brand := maxLength_trimmed shrinks input.brandFits

/-- A request hands on valid rows when it lists products, and otherwise when its text has
none but such cells. -/
theorem toRows_valid_iff (toLowerCase : String → String) :
    (∀ csv, (∀ row ∈ csvToImportRows toLowerCase csv, row.Valid characters) ↔
      ImportableText toLowerCase characters csv) ∧
    ∀ dto : ImportProductsDto characters, (∀ row ∈ toRows toLowerCase dto, row.Valid characters) ↔
      dto.products.getD [] ≠ [] ∨
        ∀ csv ∈ dto.csv, trim csv ≠ "" → ImportableText toLowerCase characters csv := by
  refine ⟨csvToImportRows_valid, fun dto => ?_⟩
  unfold toRows
  by_cases listed : dto.products.getD [] = []
  · cases dto.csv with
    | none => simp [listed]
    | some csv =>
        by_cases blank : trim csv = ""
        · simp [listed, blank]
        · simp [listed, blank, csvToImportRows_valid]
  · refine iff_of_true ?_ (.inl listed)
    rw [if_pos listed]
    intro row member
    obtain ⟨input, -, rfl⟩ := List.mem_map.mp member
    exact input_row_valid shrinks input

end Products

end Requests

section Example

theorem trim_length_le (text : String) : (trim text).length ≤ text.length := by
  have kept : (stripBoth isSpace text.toList).Sublist text.toList :=
    (List.rdropWhile_prefix _ _).sublist.trans (List.dropWhile_sublist _)
  rw [trim, ← String.length_toList, ← String.length_toList, String.toList_ofList]
  exact kept.length_le

theorem columnsOf_titlePrice : columnsOf String.toLower ["title", "price"] = ⟨some 0, none, some 1, none, none⟩ := by
  decide +kernel

def teePrice : ImportProductsDto String.length where
  products := none
  csv := some "title,price\nTee,5"

theorem toRows_of_teePrice : (toRows String.toLower teePrice).map ParsedRow.title = ["Tee"] ∧
    ∀ row ∈ toRows String.toLower teePrice, row.Valid String.length := by
  have parsed : parseDelimited "title,price\nTee,5" = [["title", "price"], ["Tee", "5"]] := by decide +kernel
  have read : decimal (priceText "5") = some 5 := by decide +kernel
  have affordable : Payable 5 := by
    have unit : (1 : ℚ) ≤ 2 ^ (965 : ℤ) := one_le_zpow₀ (by norm_num) (by norm_num)
    refine .inl ⟨by norm_num [leastLoss], ?_⟩
    rw [largestPrice]
    generalize (2 : ℚ) ^ (965 : ℤ) = step at unit ⊢
    norm_num
    linarith
  refine ⟨by decide +kernel, ((toRows_valid_iff trim_length_le String.toLower).2 teePrice).mpr (.inr ?_)⟩
  intro csv given _ headerRow records split cells member _
  cases given
  rw [parsed] at split
  obtain ⟨rfl, rfl⟩ := List.cons.inj split
  obtain rfl := List.mem_singleton.mp member
  rw [columnsOf_titlePrice]
  constructor
  · intro text given _
    cases given
    decide +kernel
  · intro text given
    cases given
  · intro raw given amount found
    cases given
    obtain rfl := Option.some.inj (read.symm.trans found)
    exact affordable
  · intro text given
    cases given

/-- Minus five dollars are minus 500 cents. -/
theorem toRows_negative :
    ¬ ∀ row ∈ csvToImportRows String.toLower "title,price\nTee,-5", row.Valid String.length := by
  have parsed : parseDelimited "title,price\nTee,-5" = [["title", "price"], ["Tee", "-5"]] := by decide +kernel
  have read : decimal (priceText "-5") = some (-5) := by decide +kernel
  rw [csvToImportRows_valid]
  intro importable
  have fits := importable _ _ parsed ["Tee", "-5"] (by simp)
  rw [columnsOf_titlePrice] at fits
  have priced := (fits ⟨"Tee", rfl, by decide +kernel⟩).price "-5" rfl (-5) read
  have unit : (1 : ℚ) ≤ 2 ^ (965 : ℤ) := one_le_zpow₀ (by norm_num) (by norm_num)
  rcases priced with ⟨loss, -⟩ | infinite
  · norm_num [leastLoss] at loss
  · rw [unreadable_eq] at infinite
    generalize (2 : ℚ) ^ (965 : ℤ) = step at unit infinite
    norm_num at infinite
    linarith

end Example

end Aicos.Properties

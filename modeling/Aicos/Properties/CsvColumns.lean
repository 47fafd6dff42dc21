import Aicos.Data.Columns
import Aicos.Import.CsvRows
import Aicos.Properties.ParsedTables

namespace Aicos.Properties

open Aicos.Data Aicos.Import

/-! Exports of one catalogue: the columns in another order, their headers spelled otherwise,
and columns beside them that the import does not know. -/

def SameLetters (left right : String) : Prop :=
  left.toList.map Char.toLower = right.toList.map Char.toLower

instance (left right : String) : Decidable (SameLetters left right) :=
  inferInstanceAs (Decidable (_ = _))

/-- The headers an import looks for. -/
def recognised : List String :=
  titleNames ++ skuNames ++ priceNames ++ descNames ++ brandNames

variable {toLowerCase : String → String} {count : ℕ}

def headerKey (toLowerCase : String → String) (column : Column count) : String :=
  toLowerCase (trim column.header)

structure Respelled (before after : Column count) : Prop where
  header : SameLetters (trim before.header) (trim after.header)
  cells : after.cells = before.cells

/-- The columns, respelled, and others with headers outside the recognised names, in any order. -/
def Rearranged (toLowerCase : String → String) (columns other : List (Column count)) : Prop :=
  ∃ respelled extra, List.Forall₂ Respelled columns respelled ∧ other.Perm (respelled ++ extra) ∧
    ∀ column ∈ extra, trim column.header ≠ "" ∧ headerKey toLowerCase column ∉ recognised

/-- Headers are there, and no two are alike. -/
structure Headed (toLowerCase : String → String) (columns : List (Column count)) : Prop where
  named : ∀ column ∈ columns, trim column.header ≠ ""
  distinct : (columns.map (headerKey toLowerCase)).Nodup

section Cells

variable {columns other : List (Column count)} {name : String} {names : List String}

/-- The cells below a header. -/
def below (toLowerCase : String → String) (columns : List (Column count)) (name : String) :
    Option (Fin count → String) :=
  (columns.find? fun column => headerKey toLowerCase column = name).map Column.cells

theorem cellAt_idx (columns : List (Column count)) (names : List String) (index : Fin count) :
    cellAt (record columns index) (idx (columns.map (headerKey toLowerCase)) names) =
      (names.findSome? (below toLowerCase columns)).map fun cells => cells index := by
  induction names with
  | nil => rfl
  | cons name names ih =>
      have cell :=
        getElem?_idxOf? (fun column : Column count => column.cells index) (headerKey toLowerCase) name columns
      cases found : columns.find? fun column => headerKey toLowerCase column = name with
      | none =>
          have absent : (columns.map (headerKey toLowerCase)).idxOf? name = none := by
            rw [List.idxOf?_eq_none_iff, List.mem_map]
            intro listed
            obtain ⟨column, member, same⟩ := listed
            exact List.find?_eq_none.mp found column member (decide_eq_true same)
          rw [idx, List.findSome?_cons, absent, List.findSome?_cons, below, found]
          exact ih
      | some column =>
          rw [found, Option.map_some, Option.bind_eq_some_iff] at cell
          obtain ⟨position, first, held⟩ := cell
          rw [idx, List.findSome?_cons, first, List.findSome?_cons, below, found]
          exact held

theorem below_eq_head? : below toLowerCase columns name =
    ((columns.filter fun column => headerKey toLowerCase column = name).map Column.cells).head? := by
  rw [below, List.head?_map, List.head?_filter]

theorem filter_respelled {respelled : List (Column count)}
    (letters : ∀ left right, SameLetters left right → toLowerCase left = toLowerCase right)
    (same : List.Forall₂ Respelled columns respelled) :
    (respelled.filter fun column => headerKey toLowerCase column = name).map Column.cells =
      (columns.filter fun column => headerKey toLowerCase column = name).map Column.cells := by
  induction same with
  | nil => rfl
  | @cons before after columns respelled spelled _ ih =>
      have key : headerKey toLowerCase after = headerKey toLowerCase before :=
        (letters _ _ spelled.header).symm
      by_cases found : headerKey toLowerCase before = name
      · simp [key, found, ih, spelled.cells]
      · simp [key, found, ih]

theorem below_rearranged (letters : ∀ left right, SameLetters left right → toLowerCase left = toLowerCase right)
    (headed : Headed toLowerCase columns) (rearranged : Rearranged toLowerCase columns other)
    (known : name ∈ recognised) : below toLowerCase other name = below toLowerCase columns name := by
  obtain ⟨respelled, extra, same, perm, unknown⟩ := rearranged
  have none : extra.filter (fun column => headerKey toLowerCase column = name) = [] := by
    refine List.filter_eq_nil_iff.mpr fun column member found => (unknown column member).2 ?_
    rwa [of_decide_eq_true found]
  have kept := (perm.filter fun column => headerKey toLowerCase column = name).map Column.cells
  rw [List.filter_append, none, List.append_nil, filter_respelled letters same] at kept
  have short := length_filter_key_le headed.distinct name
  rw [below_eq_head?, below_eq_head?, perm_eq_of_length_le_one kept (by rwa [List.length_map])]

theorem cellAt_rearranged
    (letters : ∀ left right, SameLetters left right → toLowerCase left = toLowerCase right)
    (headed : Headed toLowerCase columns) (rearranged : Rearranged toLowerCase columns other)
    (known : ∀ name ∈ names, name ∈ recognised) (index : Fin count) :
    cellAt (record other index) (idx (other.map (headerKey toLowerCase)) names) =
      cellAt (record columns index) (idx (columns.map (headerKey toLowerCase)) names) := by
  have same : names.findSome? (below toLowerCase other) = names.findSome? (below toLowerCase columns) := by
    induction names with
    | nil => rfl
    | cons name names ih =>
        have ⟨first, rest⟩ := List.forall_mem_cons.mp known
        rw [List.findSome?_cons, List.findSome?_cons, below_rearranged letters headed rearranged first, ih rest]
  rw [cellAt_idx, cellAt_idx, same]

theorem headerRow_keys (columns : List (Column count)) :
    (headerRow columns).map (fun name => toLowerCase (trim name)) = columns.map (headerKey toLowerCase) := by
  rw [headerRow, List.map_map]
  rfl

/-- A record is read the same from both tables. -/
theorem readRecord_rearranged
    (letters : ∀ left right, SameLetters left right → toLowerCase left = toLowerCase right)
    (headed : Headed toLowerCase columns) (rearranged : Rearranged toLowerCase columns other) (index : Fin count) :
    readRecord (columnsOf toLowerCase (headerRow other)) (record other index) =
      readRecord (columnsOf toLowerCase (headerRow columns)) (record columns index) := by
  have cell (names : List String) (known : ∀ name ∈ names, name ∈ recognised) :=
    cellAt_rearranged letters headed rearranged known index
  have title := cell titleNames (by decide)
  have sku := cell skuNames (by decide)
  have price := cell priceNames (by decide)
  have desc := cell descNames (by decide)
  have brand := cell brandNames (by decide)
  simp only [readRecord, columnsOf, headerRow_keys, title, sku, price, desc, brand]

end Cells

section Texts

variable {columns other : List (Column count)} {text otherText : String}

theorem readRecord_of_blank {columns : Columns} {cells : List String} (blank : nonBlank cells = false) :
    readRecord columns cells = none := by
  have empty : filled (cellAt cells columns.title) = none := by
    cases found : cellAt cells columns.title with
    | none => rfl
    | some cell =>
        obtain ⟨index, -, held⟩ := Option.bind_eq_some_iff.mp found
        have every : ∀ cell ∈ cells, trim cell = "" := by simpa [nonBlank] using blank
        simp [filled, every cell (List.mem_of_getElem? held)]
  rw [readRecord, empty, Option.map_none]

theorem record_ne_nil {text : List Char} {cells : List String} {table : List (List String)}
    (denotes : TableText text (cells :: table)) : cells ≠ [] := by
  have filled {text : List Char} {cells : List String} (fields : RecordText text cells) : cells ≠ [] := by
    cases fields <;> simp
  cases denotes with
  | last fields => exact filled fields
  | cons fields _ _ => exact filled fields

theorem csvToImportRows_eq (named : ∀ column ∈ columns, trim column.header ≠ "")
    (denotes : TableText text.toList (tableOf columns)) :
    csvToImportRows toLowerCase text = (List.finRange count).filterMap fun index =>
      readRecord (columnsOf toLowerCase (headerRow columns)) (record columns index) := by
  have parsed : parseDelimited text = (tableOf columns).filter nonBlank := by
    have read := scan_table [] denotes
    rwa [List.nil_append] at read
  have shown : nonBlank (headerRow columns) = true := by
    obtain ⟨first, member⟩ := List.exists_mem_of_ne_nil _ (record_ne_nil denotes)
    obtain ⟨column, inside, rfl⟩ := List.mem_map.mp member
    exact List.any_eq_true.mpr ⟨column.header, member, decide_eq_true (named column inside)⟩
  rw [csvToImportRows, parsed, tableOf, List.filter_cons, if_pos shown]
  change List.filterMap _ (List.filter nonBlank _) = _
  rw [List.filterMap_filter, List.filterMap_map]
  refine List.filterMap_congr fun index _ => ?_
  cases blank : nonBlank (record columns index) with
  | true => simp [blank]
  | false => simp [blank, readRecord_of_blank blank]

theorem named_respelled {respelled : List (Column count)} (same : List.Forall₂ Respelled columns respelled)
    (named : ∀ column ∈ columns, trim column.header ≠ "") : ∀ column ∈ respelled, trim column.header ≠ "" := by
  induction same with
  | nil => simp
  | @cons before after columns respelled spelled _ ih =>
      obtain ⟨first, rest⟩ := List.forall_mem_cons.mp named
      refine List.forall_mem_cons.mpr ⟨fun blank => first ?_, ih rest⟩
      have letters := spelled.header
      rw [SameLetters, blank, String.toList_empty, List.map_nil, List.map_eq_nil_iff] at letters
      exact String.toList_eq_nil_iff.mp letters

theorem named_rearranged (headed : Headed toLowerCase columns) (rearranged : Rearranged toLowerCase columns other) :
    ∀ column ∈ other, trim column.header ≠ "" := by
  obtain ⟨respelled, extra, same, perm, unknown⟩ := rearranged
  intro column member
  rcases List.mem_append.mp (perm.mem_iff.mp member) with old | new
  · exact named_respelled same headed.named column old
  · exact (unknown column new).1

/-- Whatever text carries it, and however its columns are ordered and spelled, a table is
imported as the same rows. -/
theorem csvToImportRows_rearranged
    (letters : ∀ left right, SameLetters left right → toLowerCase left = toLowerCase right)
    (headed : Headed toLowerCase columns) (rearranged : Rearranged toLowerCase columns other)
    (denotes : TableText text.toList (tableOf columns)) (otherDenotes : TableText otherText.toList (tableOf other)) :
    csvToImportRows toLowerCase otherText = csvToImportRows toLowerCase text := by
  rw [csvToImportRows_eq (named_rearranged headed rearranged) otherDenotes, csvToImportRows_eq headed.named denotes]
  exact List.filterMap_congr fun index _ => readRecord_rearranged letters headed rearranged index

def teeExport : List (Column 1) :=
  [⟨"Name", fun _ => "Tee"⟩, ⟨"Price", fun _ => "19.99"⟩]

def teeListing : List (Column 1) :=
  [⟨"Stock", fun _ => "3"⟩, ⟨" PRICE", fun _ => "19.99"⟩, ⟨"name ", fun _ => "Tee"⟩]

theorem csvToImportRows_of_teeListing :
    let lower := fun text : String => String.ofList (text.toList.map Char.toLower)
    csvToImportRows lower (String.ofList (writeTable (tableOf teeListing))) =
      csvToImportRows lower (String.ofList (writeTable (tableOf teeExport))) := by
  intro lower
  have respelled : List.Forall₂ Respelled teeExport [⟨"name ", fun _ => "Tee"⟩, ⟨" PRICE", fun _ => "19.99"⟩] :=
    .cons ⟨by decide +kernel, rfl⟩ (.cons ⟨by decide +kernel, rfl⟩ .nil)
  have moved : Rearranged lower teeExport teeListing :=
    ⟨_, [⟨"Stock", fun _ => "3"⟩], respelled, List.reverse_perm [_, _, _], by decide +kernel⟩
  have denotes (columns : List (Column 1)) (filled : ∀ row ∈ tableOf columns, row ≠ []) :
      TableText (String.ofList (writeTable (tableOf columns))).toList (tableOf columns) := by
    rw [String.toList_ofList]
    exact tableText_writeTable filled
  exact csvToImportRows_rearranged (fun left right same => congrArg String.ofList same)
    ⟨by decide +kernel, by decide +kernel⟩ moved (denotes _ (by decide)) (denotes _ (by decide))

end Texts

section Written

/-! A catalogue that is written as a table, and the rows an import reads from it. -/

/-- A text that reading leaves as it is. -/
def Clean (text : String) : Prop :=
  trim text = text ∧ text ≠ ""

instance (text : String) : Decidable (Clean text) :=
  inferInstanceAs (Decidable (_ ∧ _))

/-- A row and a price cell that denotes its cents, such as `$1,234.50`. -/
structure WrittenRow where
  row : ImportRow
  price : String
  small : |row.priceCents| < 2 ^ 51
  written : decimal (priceText price) = some ((row.priceCents : ℚ) / 100)
  title : Clean row.title
  sku : ∀ text ∈ row.sku, Clean text
  description : ∀ text ∈ row.description, Clean text
  brand : ∀ text ∈ row.brand, Clean text

def writtenHeader : List String := ["title", "sku", "price", "description", "brand"]

def WrittenRow.cells (written : WrittenRow) : List String :=
  [written.row.title, written.row.sku.getD "", written.price, written.row.description.getD "",
    written.row.brand.getD ""]

theorem dollarsToCents_written {raw : String} {cents : ℤ} (small : |cents| < 2 ^ 51)
    (written : decimal (priceText raw) = some ((cents : ℚ) / 100)) : dollarsToCents (some raw) = .ofInt cents := by
  have filled : raw ≠ "" := by
    intro empty
    rw [empty] at written
    cases written
  have factor : ((100 : ℤ) : ℚ) = 100 := rfl
  rw [← factor] at written
  rw [dollarsToCents, if_neg filled, parseFloat, written]
  dsimp only
  rw [Number.ofDouble_of_small (Number.quotient_small small (by norm_num)), centsOf]
  exact Number.round_quotient_mul small (by norm_num) (by norm_num)

theorem filled_clean {text : String} (clean : Clean text) : filled (some text) = some text := by
  rw [filled, Option.map_some, clean.1]
  exact Option.filter_some_pos (decide_eq_true clean.2)

theorem filled_getD {cell : Option String} (clean : ∀ text ∈ cell, Clean text) : filled (some (cell.getD "")) = cell := by
  cases cell with
  | none => rfl
  | some text => exact filled_clean (clean text rfl)

theorem columnsOf_writtenHeader (keeps : ∀ name ∈ writtenHeader, toLowerCase name = name) :
    columnsOf toLowerCase writtenHeader = ⟨some 0, some 1, some 2, some 3, some 4⟩ := by
  have trimmed : ∀ name ∈ writtenHeader, trim name = name := by decide +kernel
  have same : writtenHeader.map (fun name => toLowerCase (trim name)) = writtenHeader := by
    refine (List.map_congr_left fun name member => ?_).trans (List.map_id _)
    rw [trimmed name member, keeps name member, id]
  rw [columnsOf, same]
  decide

theorem readRecord_written (written : WrittenRow) :
    readRecord ⟨some 0, some 1, some 2, some 3, some 4⟩ written.cells = some (.ofImportRow written.row) := by
  have title : filled (some written.row.title) = some written.row.title := filled_clean written.title
  have price := dollarsToCents_written written.small written.written
  have sku := filled_getD written.sku
  have description := filled_getD written.description
  have brand := filled_getD written.brand
  simp [readRecord, WrittenRow.cells, cellAt, title, price, sku, description, brand, ParsedRow.ofImportRow]

/-- Whatever quotes and line ends the text of the table has, and however its prices are
written, an import reads the rows that were written. -/
theorem written_rows_are_read_back (keeps : ∀ name ∈ writtenHeader, toLowerCase name = name) {text : String}
    {rows : List WrittenRow} (denotes : TableText text.toList (writtenHeader :: rows.map WrittenRow.cells)) :
    csvToImportRows toLowerCase text = rows.map fun written => .ofImportRow written.row := by
  have rectangular : ∀ cells ∈ rows.map WrittenRow.cells, cells.length = writtenHeader.length := by
    intro cells member
    obtain ⟨written, -, rfl⟩ := List.mem_map.mp member
    rfl
  obtain ⟨columns, table⟩ := exists_columns rectangular
  rw [← table] at denotes
  obtain ⟨header, records⟩ := List.cons.inj table
  have named : ∀ column ∈ columns, trim column.header ≠ "" := by
    intro column member
    have listed : column.header ∈ writtenHeader := header ▸ List.mem_map_of_mem member
    have filled : ∀ name ∈ writtenHeader, trim name ≠ "" := by decide +kernel
    exact filled _ listed
  rw [csvToImportRows_eq named denotes, header, columnsOf_writtenHeader keeps]
  calc _ = (List.map (record columns) (List.finRange _)).filterMap
        (readRecord ⟨some 0, some 1, some 2, some 3, some 4⟩) := (List.filterMap_map ..).symm
    _ = (rows.map WrittenRow.cells).filterMap (readRecord ⟨some 0, some 1, some 2, some 3, some 4⟩) := by rw [records]
    _ = rows.map fun written => .ofImportRow written.row := by
        rw [List.filterMap_map, ← List.filterMap_eq_map]
        exact List.filterMap_congr fun written _ => readRecord_written written

/-- An amount with two digits after the dot. -/
def priceLabel (cents : ℕ) : String :=
  String.ofList (Nat.toDigits 10 (cents / 100) ++ '.' ::
    [Nat.digitChar (cents % 100 / 10), Nat.digitChar (cents % 10)])

theorem decimal_priceLabel (cents : ℕ) : decimal (priceText (priceLabel cents)) = some ((cents : ℚ) / 100) := by
  have tens : cents % 100 / 10 < 10 := by omega
  have ones : cents % 10 < 10 := Nat.mod_lt cents (by norm_num)
  have whole : ∀ c ∈ Nat.toDigits 10 (cents / 100), c.isDigit = true :=
    fun c member => Nat.isDigit_of_mem_toDigits (by norm_num) le_rfl member
  have fraction : ∀ c ∈ [Nat.digitChar (cents % 100 / 10), Nat.digitChar (cents % 10)], c.isDigit = true := by
    simp [Nat.isDigit_digitChar, tens, ones]
  have kept : priceText (priceLabel cents) = Nat.toDigits 10 (cents / 100) ++ '.' ::
      [Nat.digitChar (cents % 100 / 10), Nat.digitChar (cents % 10)] := by
    rw [priceText, priceLabel, String.toList_ofList, List.filter_eq_self]
    intro c member
    rw [List.mem_append, List.mem_cons] at member
    obtain before | rfl | after := member
    · simp [isPriceChar, whole c before]
    · decide
    · simp [isPriceChar, fraction c after]
  have value : digitsValue (Nat.toDigits 10 (cents / 100) ++
      [Nat.digitChar (cents % 100 / 10), Nat.digitChar (cents % 10)]) = cents := by
    have last : digitsValue [Nat.digitChar (cents % 100 / 10), Nat.digitChar (cents % 10)] =
        10 * (cents % 100 / 10) + cents % 10 := by
      refine (Nat.ofDigitChars_cons_digitChar_of_lt_ten tens).trans ?_
      refine (Nat.ofDigitChars_cons_digitChar_of_lt_ten ones).trans ?_
      rw [Nat.ofDigitChars_nil]
      omega
    rw [digitsValue_append, digitsValue_toDigits, last]
    simp only [List.length_cons, List.length_nil]
    omega
  rw [kept, decimal_written Nat.toDigits_ne_nil whole fraction, value]
  norm_num

/-- A tea of 1,299 cents, without a sku or a brand. -/
def writtenTea : WrittenRow where
  row := ⟨"Tea, green", none, 1299, some "Leaves", none⟩
  price := priceLabel 1299
  small := by norm_num
  written := decimal_priceLabel 1299
  title := by decide +kernel
  sku := nofun
  description := fun text same => by cases same; decide +kernel
  brand := nofun

theorem tea_is_read_back :
    csvToImportRows id (String.ofList (writeTable [writtenHeader, writtenTea.cells])) =
      [.ofImportRow writtenTea.row] := by
  have denotes : TableText (String.ofList (writeTable [writtenHeader, writtenTea.cells])).toList
      (writtenHeader :: [writtenTea].map WrittenRow.cells) := by
    rw [String.toList_ofList]
    exact tableText_writeTable (by simp [writtenHeader, WrittenRow.cells])
  exact written_rows_are_read_back (fun name _ => rfl) denotes

end Written

end Aicos.Properties

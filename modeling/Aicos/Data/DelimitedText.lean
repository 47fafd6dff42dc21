import Mathlib.Data.List.Basic

namespace Aicos.Data

/-! The texts that denote a table after RFC 4180, with either line end.  A writer chooses
for each field whether to quote it, for each record its line end, and whether the last has one. -/

/-- Quotes inside a quoted field are doubled. -/
def doubled (chars : List Char) : List Char :=
  chars.flatMap fun c => if c = '"' then ['"', '"'] else [c]

def Unquotable (c : Char) : Prop :=
  c ≠ '"' ∧ c ≠ ',' ∧ c ≠ '\n' ∧ c ≠ '\r'

inductive FieldText : List Char → String → Prop where
  | quoted (cell : String) : FieldText ('"' :: (doubled cell.toList ++ ['"'])) cell
  | plain (cell : String) (chars : ∀ c ∈ cell.toList, Unquotable c) : FieldText cell.toList cell

inductive RecordText : List Char → List String → Prop where
  | last {text : List Char} {cell : String} (field : FieldText text cell) : RecordText text [cell]
  | cons {text rest : List Char} {cell : String} {cells : List String} (field : FieldText text cell)
      (more : RecordText rest cells) : RecordText (text ++ ',' :: rest) (cell :: cells)

inductive LineEnd : List Char → Prop where
  | lf : LineEnd ['\n']
  | crlf : LineEnd ['\r', '\n']

inductive TableText : List Char → List (List String) → Prop where
  | nil : TableText [] []
  | last {text : List Char} {record : List String} (fields : RecordText text record) : TableText text [record]
  | cons {text stop rest : List Char} {record : List String} {records : List (List String)}
      (fields : RecordText text record) (ended : LineEnd stop) (more : TableText rest records) :
      TableText (text ++ (stop ++ rest)) (record :: records)

/-- A writer that quotes every field and ends every record with CRLF. -/
def writeRecord : List String → List Char
  | [] => []
  | [cell] => '"' :: (doubled cell.toList ++ ['"'])
  | cell :: cells => '"' :: (doubled cell.toList ++ ['"']) ++ ',' :: writeRecord cells

def writeTable (table : List (List String)) : List Char :=
  table.flatMap fun record => writeRecord record ++ ['\r', '\n']

theorem recordText_writeRecord {record : List String} (filled : record ≠ []) :
    RecordText (writeRecord record) record := by
  induction record with
  | nil => exact absurd rfl filled
  | cons cell cells ih =>
      cases cells with
      | nil => exact .last (.quoted cell)
      | cons next rest => exact .cons (.quoted cell) (ih (List.cons_ne_nil next rest))

theorem tableText_writeTable {table : List (List String)} (filled : ∀ record ∈ table, record ≠ []) :
    TableText (writeTable table) table := by
  induction table with
  | nil => exact .nil
  | cons record records ih =>
      rw [writeTable, List.flatMap_cons, List.append_assoc]
      have rest := ih fun other member => filled other (List.mem_cons_of_mem record member)
      exact .cons (recordText_writeRecord (filled record List.mem_cons_self)) .crlf rest

end Aicos.Data

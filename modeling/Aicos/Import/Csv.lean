import Aicos.Data.Text

namespace Aicos.Import

open Aicos.Data

/-! `parseDelimited` of `csv.util`: one pass over the characters of a text. -/

structure ParseState where
  rows : List (List String)
  row : List String
  field : List Char
  inQuotes : Bool

namespace ParseState

def start : ParseState where
  rows := []
  row := []
  field := []
  inQuotes := false

def add (state : ParseState) (c : Char) : ParseState :=
  { state with field := state.field ++ [c] }

def pushField (state : ParseState) : ParseState :=
  { state with row := state.row ++ [String.ofList state.field], field := [] }

def pushRow (state : ParseState) : ParseState :=
  { state with rows := state.rows ++ [state.row], row := [] }

end ParseState

def scan : List Char → ParseState → ParseState
  | [], state => state
  | c :: rest, state =>
      if state.inQuotes then
        if c = '"' then
          match rest with
          | '"' :: rest => scan rest (state.add '"')
          | rest => scan rest { state with inQuotes := false }
        else scan rest (state.add c)
      else if c = '"' then scan rest { state with inQuotes := true }
      else if c = ',' then scan rest state.pushField
      else if c = '\n' then scan rest state.pushField.pushRow
      else if c ≠ '\r' then scan rest (state.add c)
      else scan rest state

section Steps

variable {c : Char} {rest : List Char} {state : ParseState}

theorem scan_inside (inside : state.inQuotes = true) (other : c ≠ '"') :
    scan (c :: rest) state = scan rest (state.add c) := by
  rw [scan.eq_def]
  simp [inside, other]

theorem scan_outside (outside : state.inQuotes = false) :
    scan (c :: rest) state =
      if c = '"' then scan rest { state with inQuotes := true }
      else if c = ',' then scan rest state.pushField
      else if c = '\n' then scan rest state.pushField.pushRow
      else if c ≠ '\r' then scan rest (state.add c)
      else scan rest state := by
  rw [scan.eq_def]
  simp [outside]

end Steps

/-- A last record without a line end. -/
def ParseState.finish (state : ParseState) : List (List String) :=
  if state.field ≠ [] ∨ state.row ≠ [] then state.pushField.pushRow.rows else state.rows

def nonBlank (record : List String) : Bool :=
  record.any fun cell => trim cell ≠ ""

def parseDelimited (text : String) : List (List String) :=
  (scan text.toList .start).finish.filter nonBlank

end Aicos.Import

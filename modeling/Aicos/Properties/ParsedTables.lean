import Aicos.Data.DelimitedText
import Aicos.Import.Csv

namespace Aicos.Properties

open Aicos.Data Aicos.Import

/-! `parseDelimited` against the texts of a table.  What follows a field is never a quote,
so the look-ahead inside quotes sees only doubled ones. -/

variable {text rest stop : List Char} {cell : String} {record row : List String} {rows table : List (List String)}
  {state : ParseState}

theorem scan_doubled (chars : List Char) (ahead : rest.head? ≠ some '"') (inside : state.inQuotes = true) :
    scan (doubled chars ++ '"' :: rest) state =
      scan rest { state with field := state.field ++ chars, inQuotes := false } := by
  induction chars generalizing state with
  | nil =>
      cases rest with
      | nil => simp [doubled, scan, inside]
      | cons next rest =>
          have other : next ≠ '"' := fun same => ahead (congrArg some same)
          simp only [doubled, List.flatMap_nil, List.nil_append, List.append_nil]
          rw [scan, if_pos inside, if_pos rfl]
          simp [other]
  | cons c chars ih =>
      have added : (state.add c).inQuotes = true := inside
      by_cases quote : c = '"'
      · subst quote
        have step : scan (doubled ('"' :: chars) ++ '"' :: rest) state =
            scan (doubled chars ++ '"' :: rest) (state.add '"') := by
          simp [doubled, scan, inside]
        rw [step, ih added]
        simp [ParseState.add]
      · have step : scan (doubled (c :: chars) ++ '"' :: rest) state =
            scan (doubled chars ++ '"' :: rest) (state.add c) := by
          have single : doubled (c :: chars) ++ '"' :: rest = c :: (doubled chars ++ '"' :: rest) := by
            simp [doubled, quote]
          rw [single, scan_inside inside quote]
        rw [step, ih added]
        simp [ParseState.add]

theorem scan_plain {chars : List Char} (plain : ∀ c ∈ chars, Unquotable c) (outside : state.inQuotes = false) :
    scan (chars ++ rest) state = scan rest { state with field := state.field ++ chars } := by
  induction chars generalizing state with
  | nil => simp
  | cons c chars ih =>
      obtain ⟨quote, comma, lf, cr⟩ := plain c List.mem_cons_self
      have step : scan (c :: chars ++ rest) state = scan (chars ++ rest) (state.add c) := by
        rw [List.cons_append, scan_outside outside, if_neg quote, if_neg comma, if_neg lf, if_pos cr]
      have added : (state.add c).inQuotes = false := outside
      rw [step, ih (fun other member => plain other (List.mem_cons_of_mem c member)) added]
      simp [ParseState.add]

theorem scan_field (field : FieldText text cell) (ahead : rest.head? ≠ some '"') :
    scan (text ++ rest) ⟨rows, row, [], false⟩ = scan rest ⟨rows, row, cell.toList, false⟩ := by
  cases field with
  | quoted cell =>
      have opened : scan ('"' :: (doubled cell.toList ++ ['"']) ++ rest) ⟨rows, row, [], false⟩ =
          scan (doubled cell.toList ++ '"' :: rest) ⟨rows, row, [], true⟩ := by
        simp [scan_outside]
      rw [opened, scan_doubled cell.toList ahead rfl]
      rfl
  | plain cell chars => exact scan_plain chars rfl

/-- A record leaves its last cell in the field that is being read. -/
theorem scan_record (rows : List (List String)) (row : List String) (fields : RecordText text record)
    (ahead : rest.head? ≠ some '"') :
    ∃ cells last, record = cells ++ [last] ∧
      scan (text ++ rest) ⟨rows, row, [], false⟩ = scan rest ⟨rows, row ++ cells, last.toList, false⟩ := by
  induction fields generalizing row with
  | @last text cell field => exact ⟨[], cell, rfl, by rw [scan_field field ahead, List.append_nil]⟩
  | @cons text tail cell cells field more ih =>
      obtain ⟨init, last, rfl, read⟩ := ih (row ++ [cell])
      refine ⟨cell :: init, last, rfl, ?_⟩
      have comma : (',' :: (tail ++ rest)).head? ≠ some '"' := by simp
      have pushed : scan (',' :: (tail ++ rest)) ⟨rows, row, cell.toList, false⟩ =
          scan (tail ++ rest) ⟨rows, row ++ [cell], [], false⟩ := by
        simp [scan_outside, ParseState.pushField]
      rw [List.append_assoc, List.cons_append, scan_field field comma, pushed, read]
      simp

theorem scan_lineEnd (ended : LineEnd stop) :
    scan (stop ++ rest) ⟨rows, row, cell.toList, false⟩ = scan rest ⟨rows ++ [row ++ [cell]], [], [], false⟩ := by
  cases ended with
  | lf => simp [scan_outside, ParseState.pushField, ParseState.pushRow]
  | crlf => simp [scan_outside, ParseState.pushField, ParseState.pushRow]

/-- A last record that is not pushed is one empty cell. -/
theorem finish_filter (cells : List String) (last : String) :
    (ParseState.finish ⟨rows, cells, last.toList, false⟩).filter nonBlank =
      (rows ++ [cells ++ [last]]).filter nonBlank := by
  unfold ParseState.finish
  split
  · simp [ParseState.pushField, ParseState.pushRow]
  · rename_i nothing
    obtain ⟨empty, rfl⟩ : last.toList = [] ∧ cells = [] := by simpa using nothing
    obtain rfl : last = "" := String.toList_eq_nil_iff.mp empty
    have blank : nonBlank [""] = false := by simp [nonBlank, trim, stripBoth]
    simp [List.filter_append, blank]

theorem scan_table (rows : List (List String)) (denotes : TableText text table) :
    (scan text ⟨rows, [], [], false⟩).finish.filter nonBlank = (rows ++ table).filter nonBlank := by
  induction denotes generalizing rows with
  | nil => simp [scan, ParseState.finish]
  | @last text record fields =>
      have ahead : ([] : List Char).head? ≠ some '"' := by simp
      obtain ⟨cells, last, rfl, read⟩ := scan_record rows [] fields ahead
      rw [List.append_nil] at read
      rw [read, scan]
      exact finish_filter cells last
  | @cons text stop rest record records fields ended more ih =>
      have ahead : (stop ++ rest).head? ≠ some '"' := by
        cases ended <;> simp
      obtain ⟨cells, last, rfl, read⟩ := scan_record rows [] fields ahead
      rw [read, List.nil_append, scan_lineEnd ended, ih, List.append_assoc, List.singleton_append]

/-- Whatever text a writer chooses for a table, the records with a non-blank cell are read
back from it, in their order and with their cells. -/
theorem parseDelimited_of_tableText {text : String} (denotes : TableText text.toList table) :
    parseDelimited text = table.filter nonBlank := by
  have read := scan_table [] denotes
  rwa [List.nil_append] at read

theorem parseDelimited_of_quoted :
    parseDelimited (String.ofList (writeTable [["sku", "title"], ["", " "], ["T-1", "Tee, \"soft\""]])) =
      [["sku", "title"], ["", " "], ["T-1", "Tee, \"soft\""]].filter nonBlank :=
  parseDelimited_of_tableText (by
    rw [String.toList_ofList]
    exact tableText_writeTable (by simp))

end Aicos.Properties

import Aicos.Data.Rows
import Mathlib.Logic.Function.Basic

namespace Aicos.Transaction.RowSecurity

open Aicos.Data

/-! Statements under row-level security, and the settings of a pooled connection.

A policy says which rows a statement meets and which rows it may leave behind;
what a statement computes can depend on every row it meets, in any table.
-/

universe u v w

variable {T : Type u} {Row : T → Type v} {V : Type w}

abbrev Tables (Row : T → Type v) := ∀ table, List (Row table)

/-- `USING` and `WITH CHECK`. -/
structure Policy (Row : T → Type v) where
  visible : ∀ table, Row table → Bool
  admits : ∀ table, Row table → Bool

inductive Statement (Row : T → Type v) (V : Type w) where
  | select (result : Tables Row → V)
  | insert (table : T) (rows : Tables Row → List (Row table)) (result : List (Row table) → V)
  | update (table : T) (selected : Tables Row → Row table → Bool)
      (change : Tables Row → Row table → Row table) (result : List (Row table) → V)
  | delete (table : T) (selected : Tables Row → Row table → Bool) (result : List (Row table) → V)

inductive SqlError where
  | rowSecurityViolation
  | inFailedTransaction
deriving DecidableEq

namespace Policy

def view (policy : Policy Row) (tables : Tables Row) : Tables Row :=
  fun table => (tables table).filter (policy.visible table)

def hidden (policy : Policy Row) (tables : Tables Row) : Tables Row :=
  fun table => (tables table).filter fun row => ¬ policy.visible table row

/-- What a statement may leave behind, it also meets. -/
def Confined (policy : Policy Row) : Prop :=
  ∀ table row, policy.admits table row = true → policy.visible table row = true

variable {policy : Policy Row} {tables after : Tables Row}

@[simp] theorem view_view (policy : Policy Row) (tables : Tables Row) :
    policy.view (policy.view tables) = policy.view tables := by
  funext table
  simp [view]

/-- The rows an update has changed are rows the policy shows. -/
theorem updated_visible (confined : policy.Confined) {table : T} {selected : Row table → Bool}
    {change : Row table → Row table}
    (admitted : (((policy.view tables table).filter selected).map change).all (policy.admits table) = true)
    {row : Row table} (member : row ∈ tables table)
    (hit : policy.visible table row = true ∧ selected row = true) :
    policy.visible table (change row) = true := by
  apply confined
  apply List.all_eq_true.mp admitted
  apply List.mem_map_of_mem
  exact List.mem_filter.mpr ⟨List.mem_filter.mpr ⟨member, hit.1⟩, hit.2⟩

variable [DecidableEq T]

def exec (policy : Policy Row) : Statement Row V → Tables Row → Except SqlError (V × Tables Row)
  | .select result, tables => .ok (result (policy.view tables), tables)
  | .insert table rows result, tables =>
      let added := rows (policy.view tables)
      if added.all (policy.admits table) then
        .ok (result added, Function.update tables table (tables table ++ added))
      else .error .rowSecurityViolation
  | .update table selected change result, tables =>
      let met := (policy.view tables table).filter (selected (policy.view tables))
      let changed := met.map (change (policy.view tables))
      if changed.all (policy.admits table) then
        .ok (result changed, Function.update tables table
          (updateWhere (fun row => policy.visible table row ∧ selected (policy.view tables) row)
            (change (policy.view tables)) (tables table)))
      else .error .rowSecurityViolation
  | .delete table selected result, tables =>
      .ok (result ((policy.view tables table).filter (selected (policy.view tables))),
        Function.update tables table ((tables table).filter fun row =>
          ¬ (policy.visible table row ∧ selected (policy.view tables) row)))

/-- The statements of one transaction; the first that fails aborts it. -/
def execAll (policy : Policy Row) :
    List (Statement Row V) → Tables Row → List (Except SqlError V) × Option (Tables Row)
  | [], tables => ([], some tables)
  | statement :: rest, tables =>
      match policy.exec statement tables with
      | .error error => (.error error :: rest.map fun _ => .error .inFailedTransaction, none)
      | .ok (value, after) =>
          let later := policy.execAll rest after
          (.ok value :: later.1, later.2)

/-- The transaction commits unless a statement failed or the caller has thrown. -/
def transaction (policy : Policy Row) (statements : List (Statement Row V)) (thrown : Bool)
    (tables : Tables Row) : List (Except SqlError V) × Tables Row :=
  let done := policy.execAll statements tables
  (done.1, if thrown then tables else done.2.getD tables)

theorem view_update (policy : Policy Row) (tables : Tables Row) (table : T) (rows : List (Row table)) :
    policy.view (Function.update tables table rows) =
      Function.update (policy.view tables) table (rows.filter (policy.visible table)) := by
  funext other
  by_cases same : other = table
  · subst same
    simp [view]
  · simp [view, same]

theorem hidden_update {table : T} {rows : List (Row table)}
    (kept : (rows.filter fun row => ¬ policy.visible table row) = policy.hidden tables table) :
    policy.hidden (Function.update tables table rows) = policy.hidden tables := by
  funext other
  by_cases same : other = table
  · subst same
    simpa [hidden] using kept
  · simp [hidden, same]

/-- Rows the policy hides are neither changed nor removed, and none is created. -/
theorem exec_hidden (confined : policy.Confined) {statement : Statement Row V} {value : V}
    (ran : policy.exec statement tables = .ok (value, after)) : policy.hidden after = policy.hidden tables := by
  cases statement with
  | select result =>
      cases ran
      rfl
  | insert table rows result =>
      simp only [exec] at ran
      split at ran
      · rename_i admitted
        cases ran
        apply hidden_update
        have shown : ((rows (policy.view tables)).filter fun row => ¬ policy.visible table row) = [] := by
          refine List.filter_eq_nil_iff.mpr fun row member => ?_
          simpa using confined table row (List.all_eq_true.mp admitted row member)
        rw [List.filter_append, shown, List.append_nil]
        rfl
      · cases ran
  | update table selected change result =>
      simp only [exec] at ran
      split at ran
      · rename_i admitted
        cases ran
        apply hidden_update
        rw [filter_updateWhere, updateWhere_of_forall_not]
        · rfl
        · intro row member
          have unseen := (List.mem_filter.mp member).2
          simp only [decide_eq_true_eq, decide_eq_false_iff_not] at unseen ⊢
          exact fun hit => unseen hit.1
        · intro row member hit
          have hit := of_decide_eq_true hit
          simp only [hit.1, updated_visible confined admitted member hit]
      · cases ran
  | delete table selected result =>
      cases ran
      apply hidden_update
      rw [List.filter_filter]
      apply List.filter_congr
      intro row member
      by_cases seen : policy.visible table row = true <;> simp [seen]

/-- A statement does to the rows the policy shows what it does where there are no others. -/
theorem exec_view (confined : policy.Confined) (statement : Statement Row V) (tables : Tables Row) :
    (policy.exec statement tables).map (Prod.map id policy.view) =
      policy.exec statement (policy.view tables) := by
  cases statement with
  | select result => simp [exec, Except.map]
  | insert table rows result =>
      simp only [exec, view_view]
      split
      · rename_i admitted
        have shown : (rows (policy.view tables)).filter (policy.visible table) = rows (policy.view tables) :=
          List.filter_eq_self.mpr fun row member =>
            confined table row (List.all_eq_true.mp admitted row member)
        simp only [Except.map, Prod.map, id, view_update, List.filter_append, shown]
        rfl
      · rfl
  | update table selected change result =>
      simp only [exec, view_view]
      split
      · rename_i admitted
        have moved : (updateWhere (fun row => policy.visible table row ∧ selected (policy.view tables) row)
            (change (policy.view tables)) (tables table)).filter (policy.visible table) =
              updateWhere (fun row => policy.visible table row ∧ selected (policy.view tables) row)
                (change (policy.view tables)) (policy.view tables table) := by
          apply filter_updateWhere
          intro row member hit
          have hit := of_decide_eq_true hit
          rw [updated_visible confined admitted member hit, hit.1]
        simp only [Except.map, Prod.map, id, view_update, moved]
      · rfl
  | delete table selected result =>
      simp only [exec, view_view, Except.map, Prod.map, id, view_update]
      congr 3
      rw [view, List.filter_filter, List.filter_filter]
      simp only [Bool.and_comm]

theorem execAll_hidden (confined : policy.Confined) {statements : List (Statement Row V)}
    (ran : (policy.execAll statements tables).2 = some after) : policy.hidden after = policy.hidden tables := by
  induction statements generalizing tables with
  | nil =>
      cases ran
      rfl
  | cons statement rest ih =>
      rw [execAll] at ran
      split at ran
      · cases ran
      · rename_i value next here
        exact (ih ran).trans (exec_hidden confined here)

theorem execAll_view (confined : policy.Confined) (statements : List (Statement Row V)) (tables : Tables Row) :
    ((policy.execAll statements tables).1, (policy.execAll statements tables).2.map policy.view) =
      policy.execAll statements (policy.view tables) := by
  induction statements generalizing tables with
  | nil => rfl
  | cons statement rest ih =>
      have here := exec_view confined statement tables
      rw [execAll, execAll, ← here]
      cases ran : policy.exec statement tables with
      | error error => rfl
      | ok pair =>
          obtain ⟨value, after⟩ := pair
          simp only [Except.map, Prod.map, id, ← ih after]

theorem transaction_hidden (confined : policy.Confined) (statements : List (Statement Row V)) (thrown : Bool)
    (tables : Tables Row) :
    policy.hidden (policy.transaction statements thrown tables).2 = policy.hidden tables := by
  rw [transaction]
  cases thrown with
  | true => rfl
  | false =>
      cases ran : (policy.execAll statements tables).2 with
      | none => simp
      | some after => simpa [ran] using execAll_hidden confined ran

/-- A transaction answers, and changes the rows the policy shows, as if there were no others. -/
theorem transaction_view (confined : policy.Confined) (statements : List (Statement Row V)) (thrown : Bool)
    (tables : Tables Row) :
    Prod.map id policy.view (policy.transaction statements thrown tables) =
      policy.transaction statements thrown (policy.view tables) := by
  have ran := execAll_view confined statements tables
  rw [transaction, transaction, ← ran]
  cases thrown with
  | true => rfl
  | false =>
      cases (policy.execAll statements tables).2 with
      | none => rfl
      | some after => rfl

end Policy

/-- A connection with its settings: `locals` are those of the transaction under way. -/
structure Connection where
  session : String → Option String
  locals : String → Option String

namespace Connection

def fresh : Connection where
  session := fun _ => none
  locals := fun _ => none

/-- `current_setting(name, true)`. -/
def currentSetting (connection : Connection) (name : String) : Option String :=
  connection.locals name <|> connection.session name

/-- `set_config(name, value, true)`. -/
def setLocal (connection : Connection) (name value : String) : Connection :=
  { connection with locals := Function.update connection.locals name (some value) }

/-- The end of the transaction; a setting that had no value before is empty from then on. -/
def finish (connection : Connection) : Connection where
  session := fun name =>
    match connection.locals name with
    | none => connection.session name
    | some _ => some ((connection.session name).getD "")
  locals := fun _ => none

/-- No transaction is under way, and the session itself gives no setting a value. -/
structure Settled (connection : Connection) : Prop where
  unset : ∀ name value, connection.session name = some value → value = ""
  ended : ∀ name, connection.locals name = none

theorem fresh_settled : fresh.Settled :=
  ⟨fun _ _ set => by simp [fresh] at set, fun _ => rfl⟩

theorem Settled.finish_setLocal {connection : Connection} (settled : connection.Settled) (name value : String) :
    (connection.setLocal name value).finish.Settled := by
  refine ⟨fun other found set => ?_, fun _ => rfl⟩
  simp only [finish, setLocal] at set
  split at set
  · exact settled.unset other found set
  · cases before : connection.session other with
    | none => simpa [before] using set.symm
    | some old =>
        obtain rfl : old = found := by simpa [before] using set
        exact settled.unset other old before

theorem currentSetting_setLocal {connection : Connection} (name value : String) :
    (connection.setLocal name value).currentSetting name = some value := by
  simp [currentSetting, setLocal]

theorem Settled.currentSetting_other {connection : Connection} (settled : connection.Settled)
    {name other value found : String} (apart : other ≠ name)
    (set : (connection.setLocal name value).currentSetting other = some found) : found = "" := by
  apply settled.unset other
  simpa [currentSetting, setLocal, apart, settled.ended] using set

end Connection

end Aicos.Transaction.RowSecurity

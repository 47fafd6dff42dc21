import Mathlib.Logic.Function.Basic

namespace Aicos.Transition

/-! A copy of a source, keyed alike and kept by calls that read an entry and later
write what they read.  An entry is on course while the copy is right or some call
will yet make it so. -/

variable {Key Doc Caller : Type*}

/-- What a call has still to do. -/
inductive Sync (Key Doc : Type*) where
  | reading (key : Key)
  | writing (key : Key) (doc : Option Doc)

structure Mirror (Key Doc Caller : Type*) where
  truth : Key → Option Doc
  copy : Key → Option Doc
  calls : Caller → Option (Sync Key Doc)

/-- The call will leave what the source gives for the key. -/
def Sync.Fresh (truth : Key → Option Doc) (key : Key) : Sync Key Doc → Prop
  | .reading read => read = key
  | .writing written doc => written = key ∧ doc = truth key

namespace Mirror

variable (mirror : Mirror Key Doc Caller)

def OnCourse (key : Key) : Prop :=
  mirror.copy key = mirror.truth key ∨
    ∃ caller sync, mirror.calls caller = some sync ∧ sync.Fresh mirror.truth key

/-- Another call than the caller's will leave what the source gives for the key. -/
def Covered (caller : Caller) (key : Key) : Prop :=
  ∃ other sync, other ≠ caller ∧ mirror.calls other = some sync ∧ sync.Fresh mirror.truth key

/-- A call that has still to read the key. -/
def Awaited (key : Key) : Prop :=
  ∃ caller, mirror.calls caller = some (.reading key)

def Quiet : Prop :=
  ∀ caller, mirror.calls caller = none

variable {mirror} {key : Key} {caller : Caller}

theorem OnCourse.settled (course : mirror.OnCourse key) (quiet : mirror.Quiet) :
    mirror.copy key = mirror.truth key := by
  rcases course with right | ⟨caller, sync, calls, _⟩
  · exact right
  · rw [quiet caller] at calls
    cases calls

variable [DecidableEq Caller]

/-- A call of another caller goes on as before. -/
theorem calls_update_of_ne {other : Caller} {sync : Sync Key Doc} {next : Option (Sync Key Doc)}
    (apart : other ≠ caller) (calls : mirror.calls other = some sync) :
    Function.update mirror.calls caller next other = some sync := by
  rw [Function.update_of_ne apart, calls]

/-- A call that enters with what the source gives puts a key on course, wherever it was. -/
theorem OnCourse.followed {truth copy : Key → Option Doc} {next : Option (Sync Key Doc)}
    (followed : ∃ sync ∈ next, sync.Fresh truth key) :
    OnCourse { truth, copy, calls := Function.update mirror.calls caller next } key := by
  obtain ⟨sync, follows, fresh⟩ := followed
  exact .inr ⟨caller, sync, by simpa using follows, fresh⟩

theorem OnCourse.change {truth : Key → Option Doc} {next : Option (Sync Key Doc)} (course : mirror.OnCourse key)
    (idle : mirror.calls caller = none)
    (changed : truth key = mirror.truth key ∨ (∃ sync ∈ next, sync.Fresh truth key) ∨ mirror.Awaited key) :
    OnCourse { mirror with truth := truth, calls := Function.update mirror.calls caller next } key := by
  have apart {other : Caller} {sync : Sync Key Doc} (calls : mirror.calls other = some sync) : other ≠ caller := by
    rintro rfl
    rw [idle] at calls
    cases calls
  rcases changed with same | followed | ⟨other, reads⟩
  · rcases course with right | ⟨other, sync, calls, fresh⟩
    · exact .inl (right.trans same.symm)
    · refine .inr ⟨other, sync, calls_update_of_ne (apart calls) calls, ?_⟩
      cases sync with
      | reading _ => exact fresh
      | writing _ _ => exact ⟨fresh.1, fresh.2.trans same.symm⟩
  · exact .followed followed
  · exact .inr ⟨other, .reading key, calls_update_of_ne (apart reads) reads, rfl⟩

theorem OnCourse.read {read : Key} (course : mirror.OnCourse key) (reads : mirror.calls caller = some (.reading read)) :
    OnCourse { mirror with
      calls := Function.update mirror.calls caller (some (.writing read (mirror.truth read))) } key := by
  rcases course with right | ⟨other, sync, calls, fresh⟩
  · exact .inl right
  · by_cases same : other = caller
    · subst same
      obtain rfl : Sync.reading read = sync := Option.some.inj (reads.symm.trans calls)
      obtain rfl : read = key := fresh
      exact .inr ⟨other, _, Function.update_self _ _ _, rfl, rfl⟩
    · exact .inr ⟨other, sync, calls_update_of_ne same calls, fresh⟩

variable [DecidableEq Key]

omit [DecidableEq Caller] in
/-- A write from beside the calls, of what is right or will be overwritten. -/
theorem OnCourse.overwrite {written : Key} {doc : Option Doc} (course : mirror.OnCourse key)
    (right : doc = mirror.truth written ∨
      ∃ caller sync, mirror.calls caller = some sync ∧ sync.Fresh mirror.truth written) :
    OnCourse { mirror with copy := Function.update mirror.copy written doc } key := by
  by_cases here : key = written
  · subst here
    exact right.imp_left fun same => by simpa using same
  · exact course.imp_left fun held => by simpa [here] using held

/-- The steps that keep every key on course: a change of the source that a call
follows up, a read, and a write of what is right or will be overwritten. -/
inductive Moves : Mirror Key Doc Caller → Mirror Key Doc Caller → Prop where
  | change {mirror : Mirror Key Doc Caller} {truth : Key → Option Doc} {caller : Caller} {next : Option (Sync Key Doc)}
      (idle : mirror.calls caller = none)
      (followed : ∀ key, truth key = mirror.truth key ∨ (∃ sync ∈ next, sync.Fresh truth key) ∨ mirror.Awaited key) :
      Moves mirror { mirror with truth := truth, calls := Function.update mirror.calls caller next }
  | read {mirror : Mirror Key Doc Caller} {caller : Caller} {key : Key}
      (reads : mirror.calls caller = some (.reading key)) :
      Moves mirror { mirror with
        calls := Function.update mirror.calls caller (some (.writing key (mirror.truth key))) }
  | write {mirror : Mirror Key Doc Caller} {caller : Caller} {key : Key} {doc : Option Doc}
      (writes : mirror.calls caller = some (.writing key doc))
      (right : doc = mirror.truth key ∨ mirror.Covered caller key) :
      Moves mirror { mirror with
        copy := Function.update mirror.copy key doc
        calls := Function.update mirror.calls caller none }

theorem OnCourse.write {written : Key} {doc : Option Doc} (course : mirror.OnCourse key)
    (writes : mirror.calls caller = some (.writing written doc))
    (right : doc = mirror.truth written ∨ mirror.Covered caller written) :
    OnCourse { mirror with
      copy := Function.update mirror.copy written doc
      calls := Function.update mirror.calls caller none } key := by
  by_cases here : key = written
  · subst here
    rcases right with same | ⟨other, sync, apart, calls, fresh⟩
    · exact .inl (by simpa using same)
    · exact .inr ⟨other, sync, calls_update_of_ne apart calls, fresh⟩
  · rcases course with right | ⟨other, sync, calls, fresh⟩
    · exact .inl (by simpa [here] using right)
    · refine .inr ⟨other, sync, calls_update_of_ne ?_ calls, fresh⟩
      rintro rfl
      obtain rfl : Sync.writing written doc = sync := Option.some.inj (writes.symm.trans calls)
      exact here fresh.1.symm

theorem Moves.onCourse {after : Mirror Key Doc Caller} (moves : Moves mirror after)
    (course : ∀ key, mirror.OnCourse key) : ∀ key, after.OnCourse key := by
  intro key
  cases moves with
  | change idle followed => exact (course key).change idle (followed key)
  | read reads => exact (course key).read reads
  | write writes right => exact (course key).write writes right

end Mirror

end Aicos.Transition

import MoteTrial.Observer

/-! # The rows that traces keep in memory

What is left of the traces of an observer without their files. Recording a row adds it to these,
whether or not it can be written to a file; nothing else that a run does to its observer changes them,
but for the note in the end.
-/

namespace MoteTrial

/-- A trace without its files. -/
def Trace.inMemory (t : Trace) : Trace where
  logRows := t.logRows
  receptionRows := t.receptionRows
  linkRows := t.linkRows
  endTime := t.endTime
  verdict := t.verdict

namespace Observer

/-- What traces keep in memory. -/
def rows (o : Observer) : Array Trace := o.traces.map Trace.inMemory

@[simp] theorem rows_print (o : Observer) (text : String) : (o.print text).rows = o.rows := rfl

theorem inMemory_trace (o : Observer) (id : Nat) :
    (o.trace id).inMemory = (o.rows[id]?).getD {} := by
  rw [trace, rows, Array.getD_eq_getD_getElem?, Array.getElem?_map]
  cases o.traces[id]? with
  | none => rfl
  | some t => rfl

/-- A new trace has no rows. -/
theorem rows_newTrace (o : Observer) : o.newTrace.2.rows[o.newTrace.1]? = some {} := by
  change ((o.traces.push {}).map Trace.inMemory)[o.traces.size]? = some {}
  rw [Array.getElem?_map, Array.getElem?_push_size]
  rfl

theorem rows_modifyTrace (o : Observer) (id : Nat) {f : Trace → Trace}
    (inMemory : ∀ t, (f t).inMemory = f t.inMemory) :
    (o.modifyTrace id f).rows = o.rows.modify id f := by
  apply Array.ext_getElem?
  intro i
  simp only [rows, modifyTrace, Array.getElem?_map, Array.getElem?_modify]
  split
  · rw [Option.map_map, Option.map_map]
    congr 1
    funext t
    exact inMemory t
  · rfl

/-- What is noted of a trace beside its rows changes none of them. -/
theorem rows_note (o : Observer) (id : Nat) {f : Trace → Trace}
    (inMemory : ∀ t, (f t).inMemory = t.inMemory) : (o.modifyTrace id f).rows = o.rows := by
  apply Array.ext_getElem?
  intro i
  simp only [rows, modifyTrace, Array.getElem?_map, Array.getElem?_modify]
  split
  · rw [Option.map_map]
    congr 1
    funext t
    exact inMemory t
  · rfl

theorem traces_onDisk {α : Type} (m : DiskM α) (o : Observer) :
    match onDisk m o with
    | .ok _ o' | .error _ o' => o'.traces = o.traces := by
  unfold onDisk
  cases m o.disk with
  | ok _ _ => rfl
  | error _ _ => rfl

/-- Writing to a file changes no row, and neither does failing to. -/
@[simp] theorem rows_writeRow (o : Observer) (id : Nat) (stream : Stream)
    (fields : Except Failure (List String)) : (o.writeRow id stream fields).rows = o.rows := by
  unfold writeRow
  split
  · rfl
  · rename_i path _
    have kept := traces_onDisk (appendRecord path fields) o
    split
    · rename_i wrote
      rw [wrote] at kept
      exact congrArg (Array.map Trace.inMemory) kept
    · rename_i failed
      rw [failed] at kept
      exact congrArg (Array.map Trace.inMemory) kept

theorem rows_recordLog (o : Observer) (id : Nat) (time mote : Int) (text : String) :
    (o.recordLog id time mote text).rows = o.rows.modify id
      (·.addLog ⟨time, mote, String.ofList (Text.trimEnd (· == '\n') text.toList)⟩) := by
  unfold recordLog
  rw [rows_writeRow]
  exact rows_modifyTrace _ _ fun _ => rfl

theorem rows_recordReception (o : Observer) (id : Nat) (row : ReceptionRow) :
    (o.recordReception id row).rows = o.rows.modify id (·.addReception row) := by
  unfold recordReception
  rw [rows_writeRow]
  exact rows_modifyTrace _ _ fun _ => rfl

theorem rows_recordLink (o : Observer) (id : Nat) (row : LinkRow) :
    (o.recordLink id row).rows = o.rows.modify id (·.addLink row) := by
  unfold recordLink
  rw [rows_writeRow]
  exact rows_modifyTrace _ _ fun _ => rfl

theorem rows_close (o : Observer) (id : Nat) (verdict : Option String) (time : Int) :
    (o.modifyTrace id (·.close verdict time)).rows = o.rows.modify id (·.close verdict time) :=
  rows_modifyTrace _ _ fun _ => rfl

end Observer

end MoteTrial

import MoteTrial.Proofs.Trace.Files

/-! # Traces that are read back

Whatever is recorded in a trace that has been given its files, the files read back as the rows that the
trace keeps in memory, if the run identifier leads to three files. So the rows can be told from the file.
-/

namespace MoteTrial

/-- A call that records something in a trace. -/
inductive Entry where
  | log (time mote : Int) (text : String)
  | reception (row : ReceptionRow)
  | link (row : LinkRow)

/-- The row of an entry; the line ends at the end of a text are left out. -/
def Entry.row : Entry → Row
  | .log time mote text => .log ⟨time, mote, TestLog.trimmed text⟩
  | .reception row => .reception row
  | .link row => .link row

/-- Records an entry in a trace. -/
def Entry.record (id : Nat) : Entry → Observer → Observer
  | .log time mote text, o => o.recordLog id time mote text
  | .reception row, o => o.recordReception id row
  | .link row, o => o.recordLink id row

theorem Entry.record_eq (id : Nat) (entry : Entry) (o : Observer) :
    entry.record id o = o.addRow id entry.row := by
  cases entry <;> rfl

/-- A trace is given its files, and then something is recorded in it. -/
structure Filing where
  before : Observer
  id : Nat
  runId : String
  folder : String
  entries : List Entry

namespace Filing

/-- What comes of the making of the files. -/
def making (r : Filing) : EStateM.Result Failure Observer Unit :=
  Observer.startFiles r.id r.runId r.folder r.before

/-- Whether the files could be made. -/
def made (r : Filing) : Bool :=
  match r.making with
  | .ok _ _ => true
  | .error _ _ => false

/-- The observer once the files are made. -/
def started (r : Filing) : Observer :=
  match r.making with
  | .ok _ o | .error _ o => o

/-- The observer once everything is recorded. -/
def ended (r : Filing) : Observer := r.entries.foldl (fun o entry => entry.record r.id o) r.started

/-- The rows that were recorded, of all streams. -/
def rows (r : Filing) : List Row := r.entries.map Entry.row

/-- Nothing was recorded before, the files can be made, and there is space for what is written to them. -/
structure Unhindered (r : Filing) : Prop where
  inside : r.id < r.before.traces.size
  blank : ∀ stream, (r.before.trace r.id).rowsOf stream = []
  made : r.made = true
  writable : ∀ row ∈ r.rows, row.Writable
  /-- A row takes two writes: its file is opened, and the record is appended. -/
  space : ∀ n < 2 * r.rows.length, r.started.disk.full (r.started.disk.writes + n) = false

/-- The three files are three, as they are if the run identifier has no slash. -/
def Apart (r : Filing) : Prop :=
  '/' ∉ r.runId.toList ∨ Function.Injective (r.started.place? r.id)

theorem Unhindered.started {r : Filing} (unhindered : r.Unhindered) :
    Observer.startFiles r.id r.runId r.folder r.before = .ok () r.started := by
  have made := unhindered.made
  unfold Filing.made at made
  unfold Filing.started
  change r.making = _
  cases run : r.making with
  | ok _ o => rfl
  | error f o =>
    rw [run] at made
    cases made

/-- While entries are recorded the files keep up with the memory. -/
theorem filed_foldl {id : Nat} {place : Stream → Path} {rows : List Row} {disk : Disk} {o : Observer}
    (filed : o.Filed id place rows disk) (apart : Function.Injective place) {entries : List Entry}
    (writable : ∀ row ∈ entries.map Entry.row, row.Writable)
    (space : ∀ n < 2 * (rows.length + entries.length), disk.full (disk.writes + n) = false) :
    (entries.foldl (fun o entry => entry.record id o) o).Filed id place (rows ++ entries.map Entry.row)
        disk ∧
      (entries.foldl (fun o entry => entry.record id o) o).console = o.console := by
  induction entries generalizing rows o with
  | nil =>
    rw [List.map_nil, List.append_nil]
    exact ⟨filed, rfl⟩
  | cons entry rest ih =>
    rw [List.map_cons, List.forall_mem_cons] at writable
    rw [List.length_cons] at space
    obtain ⟨added, console⟩ := filed.addRow apart writable.1 fun n small => space n (by omega)
    rw [← entry.record_eq] at added console
    obtain ⟨filed, silent⟩ := ih added writable.2 fun n small => space n <| by
      rw [List.length_append, List.length_singleton] at small
      omega
    rw [List.append_assoc] at filed
    exact ⟨filed, silent.trans console⟩

variable {r : Filing}

/-- Once all is recorded the files hold it, and the console is as it was. -/
theorem Unhindered.filed (unhindered : r.Unhindered) (apart : r.Apart) :
    ∃ place, r.ended.Filed r.id place r.rows r.started.disk ∧ r.ended.console = r.started.console := by
  obtain ⟨place, opened⟩ :=
    Observer.opened_of_startFiles unhindered.inside unhindered.blank unhindered.started
  have injective : Function.Injective place := by
    rcases apart with plain | apart
    · exact opened.injective plain
    · intro stream other same
      refine apart ?_
      rw [opened.place?, opened.place?, same]
  refine ⟨place, filed_foldl (opened.filed injective) injective unhindered.writable fun n small => ?_⟩
  refine unhindered.space n (Nat.lt_of_lt_of_eq small ?_)
  rw [List.length_nil, Nat.zero_add, rows, List.length_map]

theorem Unhindered.rowsOf (unhindered : r.Unhindered) (apart : r.Apart) (stream : Stream) :
    (r.ended.trace r.id).rowsOf stream = r.rows.filter (·.stream = stream) := by
  obtain ⟨place, filed, -⟩ := unhindered.filed apart
  exact filed.memory stream

theorem Unhindered.records? (unhindered : r.Unhindered) (apart : r.Apart) (stream : Stream) :
    r.ended.records? r.id stream =
      some (stream.columns :: ((r.ended.trace r.id).rowsOf stream).map Row.texts) := by
  obtain ⟨place, filed, -⟩ := unhindered.filed apart
  exact filed.records? stream

/-- The rows of a stream in memory are of that stream and can be written. -/
theorem Unhindered.mem_rowsOf (unhindered : r.Unhindered) (apart : r.Apart) {stream : Stream} {row : Row}
    (member : row ∈ (r.ended.trace r.id).rowsOf stream) : row.stream = stream ∧ row.Writable := by
  rw [unhindered.rowsOf apart] at member
  obtain ⟨recorded, here⟩ := List.mem_filter.mp member
  exact ⟨of_decide_eq_true here, unhindered.writable row recorded⟩

/-- Equal files of a stream have equal rows in memory. -/
theorem Unhindered.rowsOf_eq {r' : Filing} (unhindered : r.Unhindered) (apart : r.Apart)
    (unhindered' : r'.Unhindered) (apart' : r'.Apart) {stream : Stream}
    (same : r'.ended.content? r'.id stream = r.ended.content? r.id stream) :
    (r'.ended.trace r'.id).rowsOf stream = (r.ended.trace r.id).rowsOf stream := by
  have records : r'.ended.records? r'.id stream = r.ended.records? r.id stream := by
    rw [Observer.records?, same, Observer.records?]
  rw [unhindered'.records? apart', unhindered.records? apart] at records
  exact Row.map_texts_injective (fun _ => unhindered'.mem_rowsOf apart')
    (fun _ => unhindered.mem_rowsOf apart) (List.cons.inj (Option.some.inj records)).2

end Filing

/-- All that is recorded in a trace once it has been given its files, three of them, is kept in memory in
order, and the file of each stream reads as the names of its columns and its rows. So rows that differ
have files that do. -/
theorem traces_read_back (r : Filing) (unhindered : r.Unhindered) (apart : r.Apart) :
    r.ended.console = r.started.console ∧ ∀ stream,
      (r.ended.trace r.id).rowsOf stream = r.rows.filter (·.stream = stream) ∧
      r.ended.records? r.id stream =
        some (stream.columns :: ((r.ended.trace r.id).rowsOf stream).map Row.texts) ∧
      ∀ r' : Filing, r'.Unhindered → r'.Apart →
        r'.ended.content? r'.id stream = r.ended.content? r.id stream →
        (r'.ended.trace r'.id).rowsOf stream = (r.ended.trace r.id).rowsOf stream := by
  obtain ⟨-, -, console⟩ := unhindered.filed apart
  exact ⟨console, fun stream => ⟨unhindered.rowsOf apart stream, unhindered.records? apart stream,
    fun r' unhindered' apart' same => unhindered.rowsOf_eq apart unhindered' apart' same⟩⟩

/-- A recording with a text full of separators. -/
def Filing.quoted : Filing where
  before := { traces := #[{}] }
  id := 0
  runId := "run 1"
  folder := "traces"
  entries := [.log 5 (-1) "a,\"b\"\r\nc\n\n", .reception ⟨7, 3, 2, 0, 2⟩, .log 9 2 "",
    .link ⟨10, "de,teriorate\n", 1, 2⟩]

theorem Filing.unhindered_quoted : Filing.quoted.Unhindered where
  inside := by decide
  blank stream := by cases stream <;> rfl
  made := by decide +kernel
  writable := by decide +kernel
  space := by decide +kernel

theorem traces_read_back_quoted :
    Filing.quoted.Unhindered ∧ Filing.quoted.Apart ∧
      Filing.quoted.ended.records? 0 .log =
        some [["timestamp_ms", "mote_id", "text"], ["5", "-1", "a,\"b\"\r\nc"], ["9", "2", ""]] := by
  have apart : Filing.quoted.Apart := .inl (by decide)
  obtain ⟨-, back⟩ := traces_read_back Filing.quoted Filing.unhindered_quoted apart
  exact ⟨Filing.unhindered_quoted, apart, (back .log).2.1.trans (by decide +kernel)⟩

/-- A recording of which the three files are one: each name leads up again from a folder of its own. -/
def Filing.slashed : Filing where
  before := { traces := #[{}], disk := { entries := [(["t"], .folder), (["t", "script_log_"], .folder),
    (["t", "reception_"], .folder), (["t", "link_events_"], .folder)] } }
  id := 0
  runId := "/../x"
  folder := "t"
  entries := [.log 5 1 "a"]

/-- Slashes in a run identifier can make the streams share a file. -/
theorem streams_of_one_file :
    Filing.slashed.Unhindered ∧
      Filing.slashed.ended.console = Filing.slashed.started.console ∧
      (Filing.slashed.ended.trace 0).rowsOf .reception = [] ∧
      Filing.slashed.ended.records? 0 .reception =
        some [["timestamp_ms", "action", "mote_a", "mote_b"], ["5", "1", "a"]] := by
  refine ⟨⟨?_, ?_, ?_, ?_, ?_⟩, ?_, ?_, ?_⟩
  · decide
  · intro stream
    cases stream <;> rfl
  · decide +kernel
  · decide +kernel
  · decide +kernel
  · decide +kernel
  · decide +kernel
  · decide +kernel

end MoteTrial

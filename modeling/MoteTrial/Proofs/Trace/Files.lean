import Mathlib.Data.List.Basic
import Mathlib.Logic.Function.Basic
import MoteTrial.Proofs.Disk.Files
import MoteTrial.Proofs.Text.Digits
import MoteTrial.Proofs.Trace.Account

/-! # The files of a trace

Once a trace has its files, what is recorded in it can be read back from them: each file holds the names
of its columns and the rows of its stream, in order, whatever the texts are made of. The three files have
to be three, which a run identifier with slashes can prevent.
-/

namespace MoteTrial

open SimM

section Rows

/-- A row of one of the three streams. -/
inductive Row where
  | log (row : LogRow)
  | reception (row : ReceptionRow)
  | link (row : LinkRow)
  deriving DecidableEq, Repr

/-- The stream that a row belongs to. -/
def Row.stream : Row → Stream
  | .log _ => .log
  | .reception _ => .reception
  | .link _ => .link

/-- The fields of a row. -/
def Row.fields : Row → Except Failure (List String)
  | .log row => row.fields
  | .reception row => row.fields
  | .link row => row.fields

/-- The integers of a row. -/
def Row.integers : Row → List Int
  | .log row => [row.time, row.mote]
  | .reception row => [row.time, row.counter, row.lost, row.last, row.gap]
  | .link row => [row.time, row.first, row.second]

/-- All integers of a row can be written. -/
def Row.Writable (row : Row) : Prop := ∀ n ∈ row.integers, Numeral.isWritable n = true

instance (row : Row) : Decidable row.Writable :=
  inferInstanceAs (Decidable (∀ n ∈ row.integers, Numeral.isWritable n = true))

/-- The texts of a row, integers in decimal. -/
def Row.texts : Row → List String
  | .log row => [Numeral.decimal row.time, Numeral.decimal row.mote, row.text]
  | .reception row => [Numeral.decimal row.time, Numeral.decimal row.counter, Numeral.decimal row.lost,
      Numeral.decimal row.last, Numeral.decimal row.gap]
  | .link row =>
    [Numeral.decimal row.time, row.action, Numeral.decimal row.first, Numeral.decimal row.second]

/-- Keeps a row in memory. -/
def Trace.add (t : Trace) : Row → Trace
  | .log row => t.addLog row
  | .reception row => t.addReception row
  | .link row => t.addLink row

/-- The rows of a stream in memory. -/
def Trace.rowsOf (t : Trace) : Stream → List Row
  | .log => t.logRows.toList.map .log
  | .reception => t.receptionRows.toList.map .reception
  | .link => t.linkRows.toList.map .link

variable {row other : Row}

theorem Row.fields_apply (writable : row.Writable) : row.fields = .ok row.texts := by
  cases row with
  | log row =>
    have time := writable row.time (by simp [integers])
    have mote := writable row.mote (by simp [integers])
    simp only [fields, LogRow.fields, writeInt_apply time, writeInt_apply mote]
    rfl
  | reception row =>
    have time := writable row.time (by simp [integers])
    have counter := writable row.counter (by simp [integers])
    have lost := writable row.lost (by simp [integers])
    have last := writable row.last (by simp [integers])
    have gap := writable row.gap (by simp [integers])
    simp only [fields, ReceptionRow.fields, writeInt_apply time, writeInt_apply counter,
      writeInt_apply lost, writeInt_apply last, writeInt_apply gap]
    rfl
  | link row =>
    have time := writable row.time (by simp [integers])
    have first := writable row.first (by simp [integers])
    have second := writable row.second (by simp [integers])
    simp only [fields, LinkRow.fields, writeInt_apply time, writeInt_apply first,
      writeInt_apply second]
    rfl

theorem decimal_injective {m n : Int} (first : Numeral.isWritable m = true)
    (second : Numeral.isWritable n = true) (same : Numeral.decimal m = Numeral.decimal n) : m = n := by
  have read := Numeral.readInt_decimal first
  rw [same, Numeral.readInt_decimal second] at read
  exact (Except.ok.inj read).symm

/-- Rows of a stream that read the same are the same. -/
theorem Row.texts_injective (first : row.Writable) (second : other.Writable)
    (streams : row.stream = other.stream) (same : row.texts = other.texts) : row = other := by
  have number {m n : Int} (here : m ∈ row.integers) (there : n ∈ other.integers)
      (same : Numeral.decimal m = Numeral.decimal n) : m = n :=
    decimal_injective (first m here) (second n there) same
  cases row with
  | log row =>
    cases other with
    | log other =>
      injection same with time rest
      injection rest with mote rest
      injection rest with text
      rw [log.injEq, LogRow.mk.injEq]
      exact ⟨number (by simp [integers]) (by simp [integers]) time,
        number (by simp [integers]) (by simp [integers]) mote, text⟩
    | reception other => cases streams
    | link other => cases streams
  | reception row =>
    cases other with
    | log other => cases streams
    | reception other =>
      injection same with time rest
      injection rest with counter rest
      injection rest with lost rest
      injection rest with last rest
      injection rest with gap
      rw [reception.injEq, ReceptionRow.mk.injEq]
      exact ⟨number (by simp [integers]) (by simp [integers]) time,
        number (by simp [integers]) (by simp [integers]) counter,
        number (by simp [integers]) (by simp [integers]) lost,
        number (by simp [integers]) (by simp [integers]) last,
        number (by simp [integers]) (by simp [integers]) gap⟩
    | link other => cases streams
  | link row =>
    cases other with
    | log other => cases streams
    | reception other => cases streams
    | link other =>
      injection same with time rest
      injection rest with action rest
      injection rest with one rest
      injection rest with two
      rw [link.injEq, LinkRow.mk.injEq]
      exact ⟨number (by simp [integers]) (by simp [integers]) time, action,
        number (by simp [integers]) (by simp [integers]) one,
        number (by simp [integers]) (by simp [integers]) two⟩

/-- So lists of rows of a stream that read the same are the same. -/
theorem Row.map_texts_injective {stream : Stream} {rows others : List Row}
    (first : ∀ row ∈ rows, row.stream = stream ∧ row.Writable)
    (second : ∀ row ∈ others, row.stream = stream ∧ row.Writable)
    (same : rows.map Row.texts = others.map Row.texts) : rows = others := by
  induction rows generalizing others with
  | nil => exact (List.map_eq_nil_iff.mp same.symm).symm
  | cons row rest ih =>
    cases others with
    | nil => cases same
    | cons other others =>
      rw [List.forall_mem_cons] at first second
      obtain ⟨head, tail⟩ := List.cons.inj same
      rw [Row.texts_injective first.1.2 second.1.2 (first.1.1.trans second.1.1.symm) head,
        ih first.2 second.2 tail]

theorem Trace.rowsOf_add (t : Trace) (row : Row) (stream : Stream) :
    (t.add row).rowsOf stream =
      if row.stream = stream then t.rowsOf stream ++ [row] else t.rowsOf stream := by
  cases row with
  | log row => cases stream <;> simp [add, addLog, rowsOf, Row.stream]
  | reception row => cases stream <;> simp [add, addReception, rowsOf, Row.stream]
  | link row => cases stream <;> simp [add, addLink, rowsOf, Row.stream]

theorem Trace.file?_add (t : Trace) (row : Row) (stream : Stream) :
    (t.add row).file? stream = t.file? stream := by
  cases row <;> cases stream <;> rfl

theorem Trace.file?_setFile (t : Trace) (path : Path) (stream other : Stream) :
    (t.setFile stream path).file? other = if other = stream then some path else t.file? other := by
  cases stream <;> cases other <;> rfl

theorem Trace.rowsOf_setFile (t : Trace) (path : Path) (stream other : Stream) :
    (t.setFile stream path).rowsOf other = t.rowsOf other := by
  cases stream <;> cases other <;> rfl

theorem Row.texts_ne_nil (row : Row) : row.texts ≠ [] := by
  cases row <;> nofun

end Rows

namespace Observer

/-- The content of the file of a stream. -/
def content? (o : Observer) (id : Nat) (stream : Stream) : Option ByteArray :=
  ((o.trace id).file? stream).bind fun path =>
    match Disk.read path.render o.disk with
    | .ok content _ => some content
    | .error _ _ => none

/-- The records in the file of a stream. -/
def records? (o : Observer) (id : Nat) (stream : Stream) : Option (List (List String)) :=
  ((o.content? id stream).bind String.fromUTF8?).bind Csv.decode

/-- The place that the file of a stream is at. -/
def place? (o : Observer) (id : Nat) (stream : Stream) : Option Path :=
  ((o.trace id).file? stream).bind fun path => (o.disk.locate path.render).toOption

end Observer

/-- The text of a file: the names of the columns, and some rows. -/
def Stream.fileText (stream : Stream) (rows : List Row) : String :=
  String.join ((stream.columns :: rows.map Row.texts).map Csv.record)

theorem Stream.fileText_append (stream : Stream) (rows : List Row) (row : Row) :
    stream.fileText (rows ++ [row]) = stream.fileText rows ++ Csv.record row.texts := by
  simp [fileText, String.append_assoc]

theorem Stream.decode_fileText (stream : Stream) (rows : List Row) :
    Csv.decode (stream.fileText rows) = some (stream.columns :: rows.map Row.texts) := by
  refine Csv.decode_join_record _ fun record member => ?_
  rcases List.mem_cons.mp member with rfl | later
  · cases stream <;> nofun
  · obtain ⟨row, -, rfl⟩ := List.mem_map.mp later
    exact row.texts_ne_nil

/-- The name of the file of a stream. -/
def Stream.fileName (stream : Stream) (runId : String) : String := stream.fileStem ++ runId ++ ".csv"

theorem Stream.head?_fileName (stream : Stream) (runId : String) :
    (stream.fileName runId).toList.head? = stream.fileStem.toList.head? := by
  rw [fileName, String.append_assoc, String.toList_append]
  exact List.head?_append_of_ne_nil _ (by cases stream <;> decide)

theorem Stream.fileName_ne {stream : Stream} {other : String}
    (apart : other.toList.head? ≠ stream.fileStem.toList.head?) (runId : String) :
    stream.fileName runId ≠ other := by
  rintro rfl
  exact apart (stream.head?_fileName runId)

theorem Stream.plain_fileName {runId : String} (plain : '/' ∉ runId.toList) (stream : Stream) :
    '/' ∉ (stream.fileName runId).toList := by
  cases stream <;> simp [fileName, fileStem, plain]

/-- Files of different streams have different names. -/
theorem Stream.fileName_injective (runId : String) :
    Function.Injective fun stream : Stream => stream.fileName runId := by
  intro stream other same
  have heads := congrArg (fun name => name.toList.head?) same
  simp only [head?_fileName] at heads
  cases stream <;> cases other <;> first | rfl | exact absurd heads (by decide)

theorem Stream.isHere_fileName (stream : Stream) (runId : String) :
    Path.isHere (stream.fileName runId) = false := by
  have some : stream.fileName runId ≠ "" := fileName_ne (by cases stream <;> decide) runId
  have away : stream.fileName runId ≠ "." := fileName_ne (by cases stream <;> decide) runId
  rw [Path.isHere, beq_false_of_ne some, beq_false_of_ne away, Bool.or_false]

theorem fromUTF8?_toUTF8 (text : String) : String.fromUTF8? text.toUTF8 = some text := by
  have valid : text.toUTF8.IsValidUTF8 := by
    rw [String.toUTF8_eq_toByteArray]
    exact text.isValidUTF8
  unfold String.fromUTF8?
  exact dif_pos valid

namespace Observer

section Making

variable {o o' : Observer} {id : Nat} {stream : Stream} {folder : Path} {runId : String}

theorem trace_modifyTrace (inside : id < o.traces.size) (f : Trace → Trace) :
    (o.modifyTrace id f).trace id = f (o.trace id) := by
  simp only [modifyTrace, trace, Array.getD_eq_getD_getElem?, Array.getElem?_modify, ↓reduceIte,
    Array.getElem?_eq_getElem inside, Option.map_some, Option.getD_some]

theorem size_modifyTrace (o : Observer) (id : Nat) (f : Trace → Trace) :
    (o.modifyTrace id f).traces.size = o.traces.size := Array.size_modify

theorem of_onDisk {α : Type} {m : DiskM α} {a : α} (run : onDisk m o = .ok a o') :
    ∃ disk, m o.disk = .ok a disk ∧ o' = { o with disk } := by
  unfold onDisk at run
  cases wrote : m o.disk with
  | ok b disk =>
    rw [wrote] at run
    cases run
    exact ⟨disk, rfl, rfl⟩
  | error f disk =>
    rw [wrote] at run
    cases run

/-- Where the file of a stream goes. -/
def filePath (folder : Path) (runId : String) (stream : Stream) : Path :=
  folder ++ Path.normal (stream.fileName runId)

theorem of_createFile (inside : id < o.traces.size)
    (made : createFile id folder runId stream o = .ok () o') :
    ∃ place, o.disk.Leads (filePath folder runId stream).render place ∧
      o'.disk = (o.disk.updated place fun _ => (stream.fileText []).toUTF8) ∧
      o'.trace id = (o.trace id).setFile stream (filePath folder runId stream) ∧
      o'.traces.size = o.traces.size := by
  obtain ⟨_, between, wrote, noted⟩ := parts_of_bind made
  obtain ⟨disk, stored, rfl⟩ := of_onDisk wrote
  obtain ⟨place, leads, rfl⟩ := Disk.leads_of_update stored
  cases noted
  have header : stream.fileText [] = Csv.record stream.columns := by
    simp [Stream.fileText]
  rw [header]
  exact ⟨place, leads, rfl, trace_modifyTrace inside _, size_modifyTrace _ _ _⟩

/-- Some files of a trace without rows have been made, at these places. Unless two of them are at one place,
they have the names of their columns in them. -/
structure Opened (id : Nat) (folder : Path) (runId : String) (place : Stream → Path)
    (done : List Stream) (o : Observer) : Prop where
  inside : id < o.traces.size
  blank : ∀ stream, (o.trace id).rowsOf stream = []
  named : ∀ stream ∈ done, (o.trace id).file? stream = some (filePath folder runId stream)
  leads : ∀ stream ∈ done, o.disk.Leads (filePath folder runId stream).render (place stream)
  held : (∀ s ∈ done, ∀ t ∈ done, place s = place t → s = t) →
    ∀ stream ∈ done, o.disk.content? (place stream) = some (stream.fileText []).toUTF8

/-- A further file does not change those made before, if it is at a place of its own. -/
theorem Opened.createFile {place : Stream → Path} {done : List Stream}
    (opened : Opened id folder runId place done o) (further : stream ∉ done)
    (made : createFile id folder runId stream o = .ok () o') :
    ∃ place', Opened id folder runId place' (stream :: done) o' := by
  obtain ⟨there, leads, disk, trace, size⟩ := of_createFile opened.inside made
  have elsewhere {other : Stream} (member : other ∈ done) :
      Function.update place stream there other = place other :=
    Function.update_of_ne (fun same : other = stream => further (same ▸ member)) ..
  refine ⟨Function.update place stream there, ?_, ?_, ?_, ?_, ?_⟩
  · rw [size]
    exact opened.inside
  · intro other
    rw [trace, Trace.rowsOf_setFile]
    exact opened.blank other
  · intro other member
    rw [trace, Trace.file?_setFile]
    by_cases same : other = stream
    · rw [if_pos same, same]
    · rw [if_neg same]
      exact opened.named other ((List.mem_cons.mp member).resolve_left same)
  · intro other member
    rw [disk]
    by_cases same : other = stream
    · subst same
      rw [Function.update_self]
      exact leads.updated leads.unfolded _
    · have earlier : other ∈ done := (List.mem_cons.mp member).resolve_left same
      rw [elsewhere earlier]
      exact (opened.leads other earlier).updated leads.unfolded _
  · intro apart other member
    rw [disk]
    by_cases same : other = stream
    · subst same
      rw [Function.update_self]
      exact Disk.content?_updated_self leads.unfolded _
    · have earlier : other ∈ done := (List.mem_cons.mp member).resolve_left same
      have away : place other ≠ there := by
        intro meet
        refine same (apart other member stream List.mem_cons_self ?_)
        rw [elsewhere earlier, Function.update_self, meet]
      have before : ∀ s ∈ done, ∀ t ∈ done, place s = place t → s = t := by
        intro s first t second meet
        refine apart s (List.mem_cons_of_mem _ first) t (List.mem_cons_of_mem _ second) ?_
        rw [elsewhere first, elsewhere second, meet]
      rw [elsewhere earlier]
      exact (Disk.content?_updated_of_ne away _).trans (opened.held before other earlier)

/-- Anything else may be noted of the trace. -/
theorem Opened.noted {place : Stream → Path} {done : List Stream}
    (opened : Opened id folder runId place done o) {f : Trace → Trace}
    (rows : ∀ t stream, (f t).rowsOf stream = t.rowsOf stream)
    (files : ∀ t stream, (f t).file? stream = t.file? stream) :
    Opened id folder runId place done (o.modifyTrace id f) where
  inside := by
    rw [size_modifyTrace]
    exact opened.inside
  blank stream := by
    rw [trace_modifyTrace opened.inside, rows]
    exact opened.blank stream
  named stream member := by
    rw [trace_modifyTrace opened.inside, files]
    exact opened.named stream member
  leads := opened.leads
  held := opened.held

/-- Once a trace has been given its files, all three are there. -/
theorem opened_of_startFiles {name : String} (inside : id < o.traces.size)
    (blank : ∀ stream, (o.trace id).rowsOf stream = [])
    (made : startFiles id runId name o = .ok () o') :
    ∃ place, Opened id (Path.normal name) runId place [.link, .reception, .log] o' := by
  unfold startFiles at made
  rw [modify_bind_apply] at made
  obtain ⟨_, afterFolder, folders, made⟩ := parts_of_bind made
  obtain ⟨disk, -, rfl⟩ := of_onDisk folders
  obtain ⟨_, afterLog, log, made⟩ := parts_of_bind made
  obtain ⟨_, afterReception, reception, made⟩ := parts_of_bind made
  obtain ⟨_, afterLink, link, made⟩ := parts_of_bind made
  cases made
  have unopened : Opened id (Path.normal name) runId (fun _ => []) [] o :=
    ⟨inside, blank, nofun, nofun, fun _ => nofun⟩
  have titled := unopened.noted
    (f := fun t => { t with runId := some runId, folder := some (Path.normal name) })
    (fun _ stream => by cases stream <;> rfl) (fun _ stream => by cases stream <;> rfl)
  have begun : Opened id (Path.normal name) runId (fun _ => []) []
      { o.modifyTrace id fun t => { t with runId := some runId, folder := some (Path.normal name) } with
        disk } :=
    ⟨titled.inside, titled.blank, nofun, nofun, fun _ => nofun⟩
  obtain ⟨_, opened⟩ := begun.createFile nofun log
  obtain ⟨_, opened⟩ := opened.createFile (by decide) reception
  obtain ⟨place, opened⟩ := opened.createFile (by decide) link
  have clocked : Opened id (Path.normal name) runId place [.link, .reception, .log]
      { afterLink with readings := afterLink.readings + 1 } :=
    ⟨opened.inside, opened.blank, opened.named, opened.leads, opened.held⟩
  exact ⟨place, clocked.noted (fun _ stream => by cases stream <;> rfl)
    (fun _ stream => by cases stream <;> rfl)⟩

theorem Opened.place? {place : Stream → Path}
    (opened : Opened id folder runId place [.link, .reception, .log] o) (stream : Stream) :
    o.place? id stream = some (place stream) := by
  have member : stream ∈ [Stream.link, .reception, .log] := by cases stream <;> simp
  rw [Observer.place?, opened.named stream member, Option.bind_some, (opened.leads stream member).located]
  rfl

/-- A run identifier without slashes leads to three files. -/
theorem Opened.injective {place : Stream → Path}
    (opened : Opened id folder runId place [.link, .reception, .log] o)
    (plain : '/' ∉ runId.toList) : Function.Injective place := by
  have last (stream : Stream) : (place stream).getLast? = some (stream.fileName runId) := by
    have plain := stream.plain_fileName plain
    have away := stream.isHere_fileName runId
    have leads := opened.leads stream (by cases stream <;> simp)
    rw [filePath, Disk.normal_plain plain away] at leads
    exact leads.last plain away (Stream.fileName_ne (by cases stream <;> decide) runId)
  intro stream other same
  have names := (last stream).symm.trans ((congrArg List.getLast? same).trans (last other))
  exact Stream.fileName_injective runId (Option.some.inj names)

end Making

section Recording

variable {o : Observer} {id : Nat} {row : Row} {rows : List Row} {disk : Disk} {place : Stream → Path}

/-- The files of a trace stand at these places, and hold these rows, as the memory does. As many writes
have been made since some store as it took. -/
structure Filed (id : Nat) (place : Stream → Path) (rows : List Row) (disk : Disk) (o : Observer) :
    Prop where
  inside : id < o.traces.size
  leads : ∀ stream, ∃ path, (o.trace id).file? stream = some path ∧
    o.disk.Leads path.render (place stream)
  memory : ∀ stream, (o.trace id).rowsOf stream = rows.filter (·.stream = stream)
  held : ∀ stream, o.disk.content? (place stream) =
    some (stream.fileText (rows.filter (·.stream = stream))).toUTF8
  writes : o.disk.writes = disk.writes + 2 * rows.length
  full : o.disk.full = disk.full

theorem Opened.filed {folder : Path} {runId : String}
    (opened : Opened id folder runId place [.link, .reception, .log] o)
    (apart : Function.Injective place) : Filed id place [] o.disk o where
  inside := opened.inside
  leads stream :=
    have member : stream ∈ [Stream.link, .reception, .log] := by cases stream <;> simp
    ⟨_, opened.named stream member, opened.leads stream member⟩
  memory := opened.blank
  held stream := opened.held (fun _ _ _ _ same => apart same) stream (by cases stream <;> simp)
  writes := rfl
  full := rfl

/-- Appends a row to its file. -/
theorem appendRecord_apply {d : Disk} {path : Path} {there : Path} (leads : d.Leads path.render there)
    (space : d.full d.writes = false) (space' : d.full (d.writes + 1) = false) (texts : List String) :
    appendRecord path (.ok texts) d =
      .ok () ((d.updated there (· ++ "".toUTF8)).updated there (· ++ (Csv.record texts).toUTF8)) := by
  unfold appendRecord
  have opened : Disk.append path.render "" d = .ok () (d.updated there (· ++ "".toUTF8)) :=
    Disk.update_apply leads space _
  rw [bind_ok opened]
  refine Disk.update_apply (leads.updated leads.unfolded _) ?_ _
  rw [Disk.full_updated, Disk.writes_updated]
  exact space'

/-- Keeps a row in memory and appends it to its file. -/
def addRow (o : Observer) (id : Nat) (row : Row) : Observer :=
  (o.modifyTrace id (·.add row)).writeRow id row.stream row.fields

/-- What the files hold once a row has been appended to one of them. -/
theorem content?_appended {d : Disk} {path there other : Path} (leads : d.Leads path.render there)
    {text : String} (held : d.content? there = some text.toUTF8) (record : String) :
    ((d.updated there (· ++ "".toUTF8)).updated there (· ++ record.toUTF8)).content? other =
      if other = there then some (text ++ record).toUTF8 else d.content? other := by
  have leads' := leads.updated leads.unfolded (· ++ "".toUTF8)
  by_cases here : other = there
  · subst here
    rw [if_pos rfl, Disk.content?_updated_self leads'.unfolded,
      Disk.content?_updated_self leads.unfolded, held]
    simp
  · rw [if_neg here, Disk.content?_updated_of_ne here, Disk.content?_updated_of_ne here]

theorem writeRow_apply {stream : Stream} {fields : Except Failure (List String)} {path : Path}
    {d : Disk} (named : (o.trace id).file? stream = some path)
    (wrote : appendRecord path fields o.disk = .ok () d) :
    o.writeRow id stream fields = { o with disk := d } := by
  simp only [writeRow, named, onDisk, wrote]

/-- A further row is added in memory and in its file, and nothing is said about it. -/
theorem Filed.addRow (filed : Filed id place rows disk o) (apart : Function.Injective place)
    (writable : row.Writable)
    (space : ∀ n < 2 * (rows.length + 1), disk.full (disk.writes + n) = false) :
    Filed id place (rows ++ [row]) disk (o.addRow id row) ∧ (o.addRow id row).console = o.console := by
  obtain ⟨path, named, leads⟩ := filed.leads row.stream
  have traced := trace_modifyTrace filed.inside (·.add row)
  have unfolded := (leads.updated leads.unfolded (· ++ "".toUTF8)).unfolded
  have appended := appendRecord_apply leads
    (by rw [filed.full, filed.writes]; exact space _ (by omega))
    (by rw [filed.full, filed.writes]; exact space (2 * rows.length + 1) (by omega)) row.texts
  have added : o.addRow id row = { o.modifyTrace id (·.add row) with
      disk := (o.disk.updated (place row.stream) (· ++ "".toUTF8)).updated (place row.stream)
        (· ++ (Csv.record row.texts).toUTF8) } := by
    rw [Observer.addRow, row.fields_apply writable]
    exact writeRow_apply (by rw [traced, Trace.file?_add, named]) appended
  rw [added]
  refine ⟨⟨?_, ?_, ?_, ?_, ?_, ?_⟩, rfl⟩
  · exact Nat.lt_of_lt_of_eq filed.inside (size_modifyTrace ..).symm
  · intro stream
    obtain ⟨path', named', leads'⟩ := filed.leads stream
    have leads' := (leads'.updated leads.unfolded (· ++ "".toUTF8)).updated unfolded
      (· ++ (Csv.record row.texts).toUTF8)
    refine ⟨path', ?_, leads'⟩
    refine (congrArg (Trace.file? · stream) traced).trans ?_
    rw [Trace.file?_add, named']
  · intro stream
    refine (congrArg (Trace.rowsOf · stream) traced).trans ?_
    rw [Trace.rowsOf_add, filed.memory, List.filter_append]
    by_cases here : row.stream = stream <;> simp [here]
  · intro stream
    refine (content?_appended leads (filed.held row.stream) _).trans ?_
    by_cases here : row.stream = stream
    · rw [here, if_pos rfl, ← Stream.fileText_append, List.filter_append]
      simp [here]
    · rw [if_neg fun same => here (apart same).symm, filed.held, List.filter_append]
      simp [here]
  · simp only [Disk.writes_updated, List.length_append, List.length_singleton]
    have := filed.writes
    omega
  · exact (Disk.full_updated _).trans ((Disk.full_updated _).trans filed.full)

/-- The file of a stream reads as the names of the columns and the rows in memory. -/
theorem Filed.records? (filed : Filed id place rows disk o) (stream : Stream) :
    o.records? id stream =
      some (stream.columns :: ((o.trace id).rowsOf stream).map Row.texts) := by
  obtain ⟨path, named, leads⟩ := filed.leads stream
  have read : Disk.read path.render o.disk = .ok _ o.disk := Disk.read_apply leads (filed.held stream)
  rw [Observer.records?, content?, named, Option.bind_some, read, Option.bind_some, fromUTF8?_toUTF8,
    Option.bind_some, Stream.decode_fileText, filed.memory]

end Recording

end Observer

end MoteTrial

import MoteTrial.Proofs.Session.Sustained
import MoteTrial.Proofs.Trace.Upkeep

/-! # The books of the reception script

A host runs the reception script with a trace in which no other script records. Whatever else goes on in
the simulation, and whoever takes part in it, the rows of receptions that the run adds to the trace are
the account of the script's state, as long as nobody else changes them. Only a script that breaks off is
ahead of its rows: by the counter with which its losses are too many to be written.
-/

namespace MoteTrial

open SimM Simulation Session

variable {κ μ : Type} {t : Nat}

section Rows

/-- The rows of receptions in a trace. -/
def Observer.receptions? (o : Observer) (t : Nat) : Option (List ReceptionRow) :=
  o.rows[t]?.map (·.receptionRows.toList)

variable {o o' : Observer}

theorem Observer.receptions?_eq_some {rows : List ReceptionRow} :
    o.receptions? t = some rows ↔
      ∃ trace, o.traces[t]? = some trace ∧ trace.receptionRows.toList = rows := by
  rw [receptions?, Observer.rows, Array.getElem?_map, Option.map_map]
  exact Option.map_eq_some_iff

theorem Observer.receptions?_of_rows (rows : o'.rows = o.rows) :
    o'.receptions? t = o.receptions? t := by
  rw [receptions?, rows]
  rfl

/-- A trace may change in all but its receptions. -/
theorem Observer.receptions?_of_modify {id : Nat} {f : Trace → Trace}
    (rows : o'.rows = o.rows.modify id f)
    (same : ∀ trace, (f trace).receptionRows = trace.receptionRows) :
    o'.receptions? t = o.receptions? t := by
  rw [receptions?, rows, Array.getElem?_modify]
  split
  · rw [Option.map_map]
    congr 1
    funext trace
    exact congrArg Array.toList (same trace)
  · rfl

theorem Observer.receptions?_recordReception {rows : List ReceptionRow}
    (held : o.receptions? t = some rows) (row : ReceptionRow) :
    (o.recordReception t row).receptions? t = some (rows ++ [row]) := by
  obtain ⟨trace, found, rfl⟩ := Option.map_eq_some_iff.mp held
  rw [receptions?, rows_recordReception, Array.getElem?_modify, if_pos rfl, found, Option.map_some,
    Option.map_some, Trace.addReception, Array.toList_push]

theorem Observer.receptions?_recordReception_of_ne {id : Nat} (other : id ≠ t) (row : ReceptionRow) :
    (o.recordReception id row).receptions? t = o.receptions? t := by
  rw [receptions?, rows_recordReception, Array.getElem?_modify, if_neg other]
  rfl

theorem Observer.receptions?_recordLog (id : Nat) (time mote : Int) (text : String) :
    (o.recordLog id time mote text).receptions? t = o.receptions? t :=
  receptions?_of_modify (o.rows_recordLog id time mote text) fun _ => rfl

theorem Observer.receptions?_recordLink (id : Nat) (row : LinkRow) :
    (o.recordLink id row).receptions? t = o.receptions? t :=
  receptions?_of_modify (o.rows_recordLink id row) fun _ => rfl

theorem TestLog.receptions?_observe (log : TestLog) (now : Int) (text : String) (mote : Int)
    (o : Observer) : (log.observe now text mote o).receptions? t = o.receptions? t := by
  have shown (text : String) : (o.print text).receptions? t = o.receptions? t := rfl
  unfold TestLog.observe
  cases log.trace with
  | none =>
    cases log.echo with
    | true => exact shown _
    | false => rfl
  | some id =>
    cases log.echo with
    | true => exact (Observer.receptions?_recordLog id now mote text).trans (shown _)
    | false => exact Observer.receptions?_recordLog id now mote text

end Rows

/-- A script that records receptions in a trace. -/
def Script.Records (t : Nat) : Script κ → Prop
  | .reception _ _ trace _ => trace = some t
  | _ => False

/-- The script of a host. -/
def World.script? (w : World κ μ) (h : Nat) : Option (Script κ) := w.hosts[h]?.map (·.script)

/-- A host runs the reception script in a state with a trace of some rows. No other script records its
receptions there. -/
structure Books (h t : Nat) (state : Reception) (rows : List ReceptionRow) (w : World κ μ) : Prop where
  own : ∃ timeout, w.script? h = some (.reception timeout true (some t) state)
  held : w.observer.receptions? t = some rows
  alone : ∀ i script, w.script? i = some script → script.Records t → i = h

/-- New rows are the account of a state. -/
structure InStep (state : Reception) (new : List ReceptionRow) : Prop where
  accounts : Accounts new state
  chained : Chained 0 0 new
  written : ∀ row ∈ new, Numeral.isWritable row.counter = true
  total : Numeral.isWritable state.lost = true

/-- New rows are the account of a state, but perhaps for a last counter, with which the losses are too
many to be written. -/
inductive Behind : Reception → List ReceptionRow → Prop
  | level {state : Reception} {new : List ReceptionRow} (inStep : InStep state new) : Behind state new
  | ahead {state : Reception} {new : List ReceptionRow} (inStep : InStep state new) {counter : Int}
    (overlong : Numeral.isWritable (state.record counter).lost = false) :
    Behind (state.record counter) new

theorem InStep.record {state : Reception} {new : List ReceptionRow} (inStep : InStep state new)
    (time : Int) {counter : Int} (writable : Numeral.isWritable counter = true)
    (total : Numeral.isWritable (state.record counter).lost = true) :
    InStep (state.record counter) (new ++ [state.row time counter]) where
  total := total
  accounts := inStep.accounts.record time counter
  chained := inStep.accounts.chained inStep.chained time counter
  written row member := by
    rcases List.mem_append.mp member with earlier | last
    · exact inStep.written row earlier
    · rw [List.mem_singleton.mp last]
      exact writable

/-- Books in which the rows that were not there before go with the state. -/
def Keeping (P : Reception → List ReceptionRow → Prop) (before : List ReceptionRow) (h t : Nat)
    (w : World κ μ) : Prop :=
  ∃ state new, P state new ∧ Books h t state (before ++ new) w

/-- An operation that keeps books, which then are of another sort if it is interrupted. -/
abbrev KeepsBooks (P Q : Reception → List ReceptionRow → Prop) (before : List ReceptionRow) (h t : Nat)
    {α : Type} (m : SimM κ μ α) : Prop :=
  Keeps (Keeping P before h t) (fun _ => Keeping Q before h t) m

section Scripts

variable {w : World κ μ}

theorem World.script?_of_hosts {w' : World κ μ} (hosts : w'.hosts = w.hosts) (i : Nat) :
    w'.script? i = w.script? i := by rw [script?, hosts]; rfl

/-- A host that changes keeps the scripts of the others. -/
theorem World.script?_modify_of_ne {i h : Nat} (other : i ≠ h) (f : Host κ → Host κ) :
    ({ w with hosts := w.hosts.modify i f } : World κ μ).script? h = w.script? h := by
  rw [script?, Array.getElem?_modify, if_neg other]
  rfl

theorem World.script?_modify_self (h : Nat) (f : Host κ → Host κ) :
    ({ w with hosts := w.hosts.modify h f } : World κ μ).script? h =
      w.hosts[h]?.map fun host => (f host).script := by
  rw [script?, Array.getElem?_modify, if_pos rfl, Option.map_map]
  rfl

theorem World.script?_modify {f : Host κ → Host κ} (same : ∀ host, (f host).script = host.script)
    (i h : Nat) : ({ w with hosts := w.hosts.modify i f } : World κ μ).script? h = w.script? h := by
  by_cases own : i = h
  · subst own
    rw [script?_modify_self, script?]
    congr 1
    funext host
    exact same host
  · exact script?_modify_of_ne own f

end Scripts

namespace Books

variable {h i : Nat} {state : Reception} {rows : List ReceptionRow} {w w' : World κ μ}

/-- The books depend on the scripts and on the rows of receptions. -/
theorem of_same (books : Books h t state rows w) (scripts : ∀ i, w'.script? i = w.script? i)
    (receptions : w'.observer.receptions? t = w.observer.receptions? t) : Books h t state rows w' where
  own := by
    rw [scripts]
    exact books.own
  held := receptions.trans books.held
  alone i script found := by
    rw [scripts] at found
    exact books.alone i script found

theorem script_own (books : Books h t state rows w) {host : Host κ} (present : w.hosts[h]? = some host) :
    ∃ timeout, host.script = .reception timeout true (some t) state := by
  obtain ⟨timeout, own⟩ := books.own
  rw [World.script?, present] at own
  exact ⟨timeout, Option.some.inj own⟩

/-- A host of the link-fault script is another one. -/
theorem ne_of_linkFault (books : Books h t state rows w) {host : Host κ}
    (present : w.hosts[i]? = some host) {timeout : Int} {attached : Bool} {link : LinkFault}
    (script : host.script = .linkFault timeout attached link) : i ≠ h := by
  rintro rfl
  obtain ⟨_, own⟩ := books.script_own present
  cases script.symm.trans own

/-- The script of another host does not record its receptions in the trace. -/
theorem unrecorded (books : Books h t state rows w) {host : Host κ} (present : w.hosts[i]? = some host)
    (other : i ≠ h) : ¬ host.script.Records t := by
  have found : w.script? i = some host.script := by rw [World.script?, present]; rfl
  exact fun records => other (books.alone i _ found records)

/-- A host keeps its script, or another host gets one that does not record its receptions in the
trace. -/
theorem rescripted (books : Books h t state rows w) {f : Host κ → Host κ}
    (changes : ∀ host, w.hosts[i]? = some host →
      (f host).script = host.script ∨ i ≠ h ∧ ¬ (f host).script.Records t) :
    Books h t state rows { w with hosts := w.hosts.modify i f } where
  own := by
    by_cases own : i = h
    · subst own
      obtain ⟨timeout, found⟩ := books.own
      obtain ⟨host, present, script⟩ := Option.map_eq_some_iff.mp found
      have same := (changes host present).resolve_right fun other => other.1 rfl
      rw [World.script?_modify_self, present, Option.map_some, same, script]
      exact ⟨timeout, rfl⟩
    · rw [World.script?_modify_of_ne own]
      exact books.own
  held := books.held
  alone j script found records := by
    by_cases changed : i = j
    · subst changed
      rw [World.script?_modify_self] at found
      obtain ⟨host, present, rfl⟩ := Option.map_eq_some_iff.mp found
      rcases changes host present with same | ⟨_, unrecorded⟩
      · rw [same] at records
        exact books.alone i host.script (by rw [World.script?, present]; rfl) records
      · exact absurd records unrecorded
    · rw [World.script?_modify_of_ne changed] at found
      exact books.alone j script found records

/-- The script of the host gets to another state. -/
theorem counted (books : Books h t state rows w) (timeout : Int) (next : Reception) :
    Books h t next rows { w with hosts := w.hosts.modify h fun host =>
      { host with script := .reception timeout true (some t) next } } where
  own := by
    obtain ⟨before, found⟩ := books.own
    obtain ⟨host, present, -⟩ := Option.map_eq_some_iff.mp found
    rw [World.script?_modify_self, present]
    exact ⟨timeout, rfl⟩
  held := books.held
  alone i script found records := by
    by_cases own : i = h
    · exact own
    · rw [World.script?_modify_of_ne (Ne.symm own)] at found
      exact books.alone i script found records

end Books

namespace Keeping

variable {P Q : Reception → List ReceptionRow → Prop} {before : List ReceptionRow} {h i : Nat}
variable {w w' : World κ μ} {α : Type}

theorem of_same (keeping : Keeping P before h t w) (scripts : ∀ i, w'.script? i = w.script? i)
    (receptions : w'.observer.receptions? t = w.observer.receptions? t) :
    Keeping P before h t w' := by
  obtain ⟨state, new, account, books⟩ := keeping
  exact ⟨state, new, account, books.of_same scripts receptions⟩

section Parts

variable (weaker : ∀ {state new}, P state new → Q state new)

include weaker

theorem interrupted (keeping : Keeping P before h t w) : Keeping Q before h t w := by
  obtain ⟨state, new, account, books⟩ := keeping
  exact ⟨state, new, weaker account, books⟩

theorem moves :
    Moves (κ := κ) (μ := μ) (Keeping P before h t) fun _ => Keeping Q before h t where
  quiet keeping quiet := keeping.of_same (World.script?_of_hosts quiet.hosts) (by rw [quiet.observer])
  failed keeping _ := keeping.interrupted weaker

theorem paced : Paced (κ := κ) (μ := μ) (Keeping P before h t) (fun _ => Keeping Q before h t)
    fun _ _ => True where
  interrupted keeping _ := keeping.interrupted weaker
  registered keeping _ _ _ _ := keeping.of_same (fun _ => rfl) rfl
  taken keeping _ _ _ _ := keeping.of_same (fun _ => rfl) rfl
  counted keeping := keeping.of_same (fun _ => rfl) rfl
  pending _ a _ := said_any a.event
  voiced _ _ _ _ _ := trivial

theorem onLog {m : LogM Unit} (unrecorded : Unrecorded m) :
    KeepsBooks P Q before h t (Host.onLog i m : SimM κ μ Unit) := by
  intro w keeping
  cases present : w.hosts[i]? with
  | none =>
    rw [Host.onLog_absent present]
    exact keeping
  | some host =>
    obtain ⟨log, o, ran, -, -, rows⟩ := unrecorded host.log w.observer
    have put : Keeping P before h t ((w.setHost i { host with log }).seenBy o) := by
      have scripts := World.script?_modify (w := w) (f := fun host => { host with log }) (fun _ => rfl) i
      rw [modify_host present] at scripts
      exact keeping.of_same scripts (Observer.receptions?_of_rows rows)
    rcases ran with wrote | ⟨f, failed⟩
    · rw [Host.onLog_apply present wrote]
      exact put
    · rw [Host.onLog_error present failed]
      exact put.interrupted weaker

theorem pass : KeepsBooks P Q before h t (Host.pass i : SimM κ μ Unit) :=
  Keeps.reads fun w => onLog weaker (TestLog.pass_unrecorded w.now)

theorem closes :
    Closes (κ := κ) (μ := μ) (Keeping P before h t) (fun _ => Keeping Q before h t) i where
  prints _ := Keeps.modify fun keeping => keeping.of_same (fun _ => rfl) rfl
  change same := Keeps.modify fun keeping =>
    keeping.of_same (World.script?_modify (fun host => (same host).1) i) rfl
  failTest reason := Keeps.reads fun w => onLog weaker (TestLog.fail_unrecorded w.now reason)
  stop := Keeps.modify fun keeping => keeping.of_same (fun _ => rfl) rfl

end Parts

/-- A line of a log may be recorded in the trace. -/
theorem write (text : String) (mote : Int) :
    KeepsBooks P Q before h t (Host.write i text mote : SimM κ μ Unit) := by
  intro w keeping
  change Session.Kept _ _ (Host.onLog i (TestLog.write w.now text mote) w)
  cases present : w.hosts[i]? with
  | none =>
    rw [Host.onLog_absent present]
    exact keeping
  | some host =>
    have wrote : TestLog.write w.now text mote (host.log, w.observer) =
        .ok () (host.log.added text, host.log.observe w.now text mote w.observer) := rfl
    have scripts := World.script?_modify (w := w)
      (f := fun host' => { host' with log := host.log.added text }) (fun _ => rfl) i
    rw [modify_host present] at scripts
    rw [Host.onLog_apply present wrote]
    exact keeping.of_same scripts (host.log.receptions?_observe w.now text mote w.observer)

/-- Another host gets a script that does not record its receptions in the trace. -/
theorem rescripted (other : i ≠ h) {f : Host κ → Host κ}
    (unrecorded : ∀ host, ¬ (f host).script.Records t) :
    KeepsBooks P Q before h t (Host.change i f : SimM κ μ Unit) :=
  Keeps.modify fun ⟨state, new, account, books⟩ =>
    ⟨state, new, account, books.rescripted fun host _ => .inr ⟨other, unrecorded host⟩⟩

/-- Only hosts of other scripts have a state of the link-fault script to change. -/
theorem changeLinkFault (f : LinkFault → LinkFault) :
    KeepsBooks P Q before h t (Host.changeLinkFault i f : SimM κ μ Unit) := by
  refine Keeps.modify fun ⟨state, new, account, books⟩ =>
    ⟨state, new, account, books.rescripted fun host present => ?_⟩
  cases script : host.script with
  | linkFault timeout attached link =>
    exact .inr ⟨books.ne_of_linkFault present script, fun records => records⟩
  | reception _ _ _ _ | code _ => exact .inl script

variable (weaker : ∀ {state new}, P state new → Q state new)

include weaker

theorem changeLink (kind : Change) (a b : Int) :
    KeepsBooks P Q before h t (Simulation.changeLink kind a b : SimM κ μ Unit) := by
  have failed : ∀ {w : World κ μ}, Keeping P before h t w → Failure → Keeping Q before h t w :=
    fun keeping _ => keeping.interrupted weaker
  refine Keeps.changeLink (fun now => keeps_onMedium failed (fun _ => ?_) _) failed
    (closes weaker (i := h)).prints fun id row => Keeps.modify fun {w} keeping => ?_
  · exact Keeps.modify fun keeping => keeping.of_same (fun _ => rfl) rfl
  · exact keeping.of_same (fun _ => rfl) (w.observer.receptions?_recordLink id row)

theorem registerDeadline (after : Int) (action : Expiry κ) :
    KeepsBooks P Q before h t (Host.registerDeadline i after action : SimM κ μ Unit) :=
  (closes weaker).bears.registerDeadline (fun keeping _ => keeping.interrupted weaker)
    ((paced weaker).schedule after _ trivial)

/-- A script that is set up keeps its state and its trace. -/
theorem setup {act : Behaviour κ μ} (calls : ∀ c cue, KeepsBooks P Q before h t (act c cue)) :
    KeepsBooks P Q before h t (Host.setup act i) := by
  have registers (timeout : Int) : KeepsBooks P Q before h t (do
      Host.registerDeadline i timeout .builtIn
      return false : SimM κ μ Bool) :=
    (registerDeadline weaker timeout .builtIn).bind fun _ => Keeps.pure _
  unfold Host.setup
  refine Keeps.seen fun w keeping => ?_
  cases present : w.hosts[i]? with
  | none => exact keeping
  | some host =>
    obtain ⟨state, new, account, books⟩ := keeping
    dsimp only
    cases script : host.script with
    | linkFault timeout attached link =>
      refine registers timeout _ ⟨state, new, account, books.rescripted fun _ _ => .inr ?_⟩
      exact ⟨books.ne_of_linkFault present script, fun records => records⟩
    | reception timeout attached place counts =>
      refine registers timeout _ ⟨state, new, account, books.rescripted fun host' found => ?_⟩
      obtain rfl := Option.some.inj (present.symm.trans found)
      by_cases other : i = h
      · subst other
        obtain ⟨_, own⟩ := books.script_own present
        cases script.symm.trans own
        exact .inl script.symm
      · have unrecorded := books.unrecorded present other
        rw [script] at unrecorded
        exact .inr ⟨other, unrecorded⟩
    | code c => exact calls c _ w ⟨state, new, account, books⟩

end Keeping

section Script

variable {before new : List ReceptionRow} {h i : Nat} {state : Reception} {w : World κ μ}

/-- The script accounts for a counter and records it, unless what is lost by then cannot be written. -/
theorem Books.handleReception (books : Books h t state (before ++ new) w) (inStep : InStep state new)
    (timeout mote : Int) (msg : String) :
    Session.Kept (Keeping InStep before h t) (fun _ => Keeping Behind before h t)
      (Host.handleReception h timeout true (some t) state mote msg w) := by
  unfold Host.handleReception
  rw [get_bind_apply]
  cases parsed : Message.parseReceived w.config msg with
  | error f => exact ⟨state, new, .level inStep, books⟩
  | ok found =>
    rw [ofExcept_ok_bind_apply]
    cases found with
    | none => exact ⟨state, new, inStep, books⟩
    | some counter =>
      have readable := isWritable_of_parseReceived parsed
      have last := inStep.accounts.isWritable_last inStep.written
      have counts : Session.Kept (Books h t (state.record counter) (before ++ new))
          (fun _ => Keeping Behind before h t) (Host.change h (fun host =>
            { host with script := .reception timeout true (some t) (state.record counter) }) w) :=
        books.counted timeout _
      refine counts.bind fun _ w counted => ?_
      cases writable : Numeral.isWritable (state.record counter).lost with
      | false =>
        simp only [Bool.not_true, Bool.false_eq_true, ↓reduceIte, writeInt_apply readable,
          writeInt_unwritable writable, ofExcept_ok_bind_apply]
        exact ⟨_, new, .ahead inStep writable, counted⟩
      | true =>
        simp only [Bool.not_true, Bool.false_eq_true, ↓reduceIte, writeInt_apply readable,
          writeInt_apply writable, writeInt_apply last, ofExcept_ok_bind_apply]
        -- what is written to the log changes neither the state nor the rows
        refine Kept.bind (I := Keeping (fun s n => s = state.record counter ∧ n = new) before h t)
          (Keeping.write _ mote _ ⟨_, _, ⟨rfl, rfl⟩, counted⟩) fun _ w' keeping => ?_
        obtain ⟨_, _, ⟨rfl, rfl⟩, wrote⟩ := keeping
        refine ⟨_, _, inStep.record w'.now readable writable, wrote.own, ?_, wrote.alone⟩
        rw [← List.append_assoc]
        exact Observer.receptions?_recordReception wrote.held _

variable {act : Behaviour κ μ}

theorem Keeping.handle (calls : ∀ c cue, KeepsBooks InStep Behind before h t (act c cue))
    (mote : Int) (msg : String) :
    KeepsBooks InStep Behind before h t (Host.handle act i mote msg) := by
  unfold Host.handle
  refine Keeps.seen fun w keeping => ?_
  cases present : w.hosts[i]? with
  | none => exact keeping
  | some host =>
    dsimp only
    cases script : host.script with
    | linkFault timeout attached link =>
      exact Keeps.handleLinkFault (Keeping.moves .level).failed (Keeping.changeLink .level)
        Keeping.write Keeping.changeLinkFault (fun _ => Keeping.pass .level) w keeping
    | reception timeout attached place counts =>
      obtain ⟨state, new, inStep, books⟩ := keeping
      by_cases other : i = h
      · subst other
        obtain ⟨_, own⟩ := books.script_own present
        cases script.symm.trans own
        exact books.handleReception inStep timeout mote msg
      · have unrecorded := books.unrecorded present other
        rw [script] at unrecorded
        refine Keeps.handleReception (Keeping.moves .level).failed
          (fun _ => Keeping.rescripted other fun _ => unrecorded) Keeping.write
          (fun id here row => Keeps.modify fun {w} keeping => ?_) w ⟨state, new, inStep, books⟩
        have elsewhere : id ≠ t := fun same => unrecorded (same ▸ here)
        exact keeping.of_same (fun _ => rfl)
          (w.observer.receptions?_recordReception_of_ne elsewhere row)
    | code c => exact calls c _ w keeping

/-- The books are kept in step as long as users' code leaves them alone. -/
theorem Keeping.sustains (calls : ∀ c cue, KeepsBooks InStep Behind before h t (act c cue)) :
    Sustains act (Keeping InStep before h t) fun _ => Keeping Behind before h t where
  paced := Keeping.paced .level
  moves := Keeping.moves .level
  closes _ := Keeping.closes .level
  reports _ _ := Keeping.closes fun behind => behind
  setup _ := Keeping.setup .level calls
  handle _ := Keeping.handle calls
  pass _ := Keeping.pass .level
  write _ := Keeping.write
  calls := calls

end Script

section Code

variable {before : List ReceptionRow} {h limit fuel : Nat} {code : κ → Cue → Program κ μ}

/-- Users' code that attaches no script which records its receptions in a trace, and makes no changes to
the receptions that are there. -/
def Session.Program.SparesRows (t : Nat) : Program κ μ → Prop :=
  Program.Abides (fun _ _ => True) (fun script => ¬ script.Records t) fun change =>
    ∀ w, (change w).observer.receptions? t = w.observer.receptions? t

/-- A further script does not record its receptions in the trace. -/
theorem Books.attach {state : Reception} {rows : List ReceptionRow} {w : World κ μ}
    (books : Books h t state rows w) {script : Script κ} (unrecorded : ¬ script.Records t)
    (log : TestLog) :
    Books h t state rows { w with
      hosts := w.hosts.push { script, log }, listeners := w.listeners ++ [.host w.hosts.size] } where
  own := by
    obtain ⟨timeout, own⟩ := books.own
    obtain ⟨host, present, same⟩ := Option.map_eq_some_iff.mp own
    have inside := (Array.getElem?_eq_some_iff.mp present).1
    refine ⟨timeout, ?_⟩
    rw [World.script?, Array.getElem?_push, if_neg (Nat.ne_of_lt inside), present, Option.map_some, same]
  held := books.held
  alone i other found records := by
    rw [World.script?, Array.getElem?_push] at found
    split at found
    · cases found
      exact absurd records unrecorded
    · exact books.alone i other found records

theorem behaviour_keeping (spares : ∀ c cue, (code c cue).SparesRows t) (c : κ) (cue : Cue) :
    KeepsBooks InStep Behind before h t (behaviour code limit c cue) := by
  induction limit generalizing c cue with
  | zero => exact fun _ keeping => keeping.interrupted .level
  | succ limit ih =>
    have sustains := Keeping.sustains ih
    have operates : Operates (behaviour code limit) limit (Keeping InStep before h t)
        (fun _ => Keeping Behind before h t) (fun _ _ => True) (fun script => ¬ script.Records t)
        fun change => ∀ w, (change w).observer.receptions? t = w.observer.receptions? t := by
      refine sustains.operates (fun bound => ?_) (fun script log unrecorded => ?_) (fun h => ?_)
        fun change same => ?_
      · refine Keeps.bind (Keeps.modify fun keeping => keeping.of_same (fun _ => rfl) rfl) fun _ => ?_
        exact sustains.run (fun _ _ _ keeping => keeping.of_same (fun _ => rfl) rfl) limit
      · rintro w ⟨state, new, inStep, books⟩
        exact ⟨state, new, inStep, books.attach unrecorded log⟩
      · exact Keeps.modify fun keeping => keeping.of_same (fun _ => rfl) rfl
      · exact Keeps.modify fun {w} keeping => keeping.of_same (fun _ => rfl) (same w)
    intro w keeping
    refine (operates.exec _ (spares c cue) w keeping).watched (fun _ behind => behind) ?_
    intro f w behind
    unfold noted
    split
    · exact behind
    · exact behind.of_same (fun _ => rfl) rfl

end Code

section Test

variable {before : List ReceptionRow} {limit fuel : Nat}

/-- A trace with some rows of receptions, in which no script records any. -/
structure Unbooked (t : Nat) (before : List ReceptionRow) (w : World κ μ) : Prop where
  held : w.observer.receptions? t = some before
  unrecorded : ∀ i script, w.script? i = some script → ¬ script.Records t

variable {w : World κ μ} {timeout : Int} {echo : Bool}

/-- The script opens the books when it is set up on its host. -/
theorem Unbooked.start (unbooked : Unbooked t before w) (act : Behaviour κ μ) (timeout : Int)
    (echo : Bool) :
    Session.Kept (Keeping InStep before w.hosts.size t) (fun _ => Keeping Behind before w.hosts.size t)
      (Host.start act w.hosts.size (joined (.reception timeout false none {}) (some t) echo w)) := by
  let entered : World κ μ := joined (.reception timeout false none {}) (some t) echo w
  have present : entered.hosts[w.hosts.size]? =
      some { script := .reception timeout false (some t) {}, log := { echo, trace := some t } } :=
    Array.getElem?_push_size
  have opened : Books w.hosts.size t {} (before ++ []) { entered with
      hosts := entered.hosts.modify w.hosts.size fun host =>
        { host with script := .reception timeout true (some t) {} } } := by
    refine ⟨⟨timeout, ?_⟩, ?_, fun i script found records => ?_⟩
    · rw [World.script?_modify_self, present]
      rfl
    · rw [List.append_nil]
      exact unbooked.held
    · refine Decidable.byContradiction fun other => ?_
      have earlier : entered.script? i = w.script? i := by
        change Option.map _ (w.hosts.push _)[i]? = _
        rw [Array.getElem?_push, if_neg other]
        rfl
      rw [World.script?_modify_of_ne (Ne.symm other), earlier] at found
      exact unbooked.unrecorded i script found records
  have registers : KeepsBooks InStep Behind before w.hosts.size t (do
      Host.registerDeadline w.hosts.size timeout .builtIn
      return false : SimM κ μ Bool) :=
    (Keeping.registerDeadline .level timeout .builtIn).bind fun _ => Keeps.pure _
  have part : Session.Kept (Keeping InStep before w.hosts.size t)
      (fun _ => Keeping Behind before w.hosts.size t) (Host.setup act w.hosts.size entered) := by
    unfold Host.setup
    rw [get_bind_apply, present]
    exact registers _ ⟨{}, [], ⟨accounts_nil, trivial, nofun, isWritable_zero⟩, opened⟩
  exact Kept.bind (part.guarded (fun _ behind => behind) fun f =>
    (Keeping.closes fun behind => behind).handleFailure f) fun _ _ keeping => keeping

theorem Keeping.closeTrace {P Q : Reception → List ReceptionRow → Prop} {h : Nat} :
    KeepsBooks P Q before h t (Scenario.closeTrace h (some t) : SimM κ μ Unit) :=
  Keeps.reads fun _ => Keeps.modify fun {w} keeping => keeping.of_same (fun _ => rfl)
    (Observer.receptions?_of_modify (w.observer.rows_close t _ _) fun _ => rfl)

/-- Whatever becomes of the test, its books are kept, in step if it returns. -/
theorem Unbooked.runScript {w : World κ (Diary μ)} {code : κ → Cue → Program κ μ}
    (unbooked : Unbooked t before w) (spares : ∀ c cue, (code c cue).SparesRows t) (timeout : Int)
    (echo : Bool) (limit fuel : Nat) :
    Session.Kept (Keeping InStep before w.hosts.size t) (fun _ => Keeping Behind before w.hosts.size t)
      (Scenario.runScript (behaviour code limit) fuel (.reception timeout false none {}) (some t) echo
        w) := by
  have calls (c : κ) (cue : Cue) :
      KeepsBooks InStep Behind before w.hosts.size t (behaviour code limit c cue) :=
    behaviour_keeping spares c cue
  have sustains := Keeping.sustains calls
  exact Kept.runScript (sustains.hostRun (unbooked.start _ timeout echo) fuel) Keeping.closeTrace
    fun _ => Keeping.closeTrace

end Test

end MoteTrial

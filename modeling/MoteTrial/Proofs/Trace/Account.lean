import MoteTrial.Proofs.Session.Operations
import MoteTrial.Proofs.Text.Digits
import MoteTrial.Proofs.Trace.Rows

/-! # What a trace has of a run

While a script runs with a trace, the trace has a row for each line of the log, for each change made to a
link, and for each counter that the script has accounted for: `Traced`. Changes of links and counters
count as far as their integers can be written. If the clock only goes forward, so do the times of the
rows.
-/

namespace MoteTrial

variable {κ μ : Type}

/-- A line without the line ends after it. -/
def TestLog.trimmed (line : String) : String :=
  String.ofList (Text.trimEnd (· == '\n') line.toList)

/-- The row of a change made to a link. -/
def Mutation.row (m : Mutation) : LinkRow := ⟨m.time, m.change.name, m.first, m.second⟩

/-- Whether all integers of a change of a link can be written. -/
def Mutation.isWritable (m : Mutation) : Bool :=
  Numeral.isWritable m.time && Numeral.isWritable m.first && Numeral.isWritable m.second

section Accounts

variable {rows : List ReceptionRow} {state : Reception}

/-- Rows of receptions of which each follows from the one before it, and the first from a counter and a
total of losses. -/
def Chained (last lost : Int) : List ReceptionRow → Prop
  | [] => True
  | row :: rows =>
    row.last = last ∧ row.gap = max 0 (row.counter - last - 1) ∧ row.lost = lost + row.gap ∧
      Chained row.counter row.lost rows

/-- Rows of receptions of which a state is the account. -/
structure Accounts (rows : List ReceptionRow) (state : Reception) : Prop where
  counters : state = Reception.recordAll {} (rows.map (·.counter))
  received : state.received = rows.length
  last : state.last = rows.getLast?.elim 0 (·.counter)
  lost : (state.lost : Int) = rows.getLast?.elim 0 (·.lost)

theorem Chained.append {last lost : Int} (chained : Chained last lost rows) {row : ReceptionRow}
    (before : row.last = rows.getLast?.elim last (·.counter))
    (gap : row.gap = max 0 (row.counter - row.last - 1))
    (total : row.lost = rows.getLast?.elim lost (·.lost) + row.gap) :
    Chained last lost (rows ++ [row]) := by
  induction rows generalizing last lost with
  | nil =>
    have here : row.last = last := before
    rw [here] at gap
    exact ⟨here, gap, total, trivial⟩
  | cons first rest ih =>
    obtain ⟨link, jump, sum, onward⟩ := chained
    refine ⟨link, jump, sum, ih onward ?_ ?_⟩
    · rw [before, List.getLast?_cons]
      cases rest.getLast? <;> rfl
    · rw [total, List.getLast?_cons]
      cases rest.getLast? <;> rfl

theorem accounts_nil : Accounts [] {} := ⟨rfl, rfl, rfl, rfl⟩

/-- The row of a counter that comes after what has been accounted for. -/
def Reception.row (state : Reception) (time counter : Int) : ReceptionRow :=
  ⟨time, counter, (state.record counter).lost, state.last, state.gap counter⟩

/-- A further row follows from what has been accounted for. -/
theorem Accounts.chained (accounts : Accounts rows state) (chained : Chained 0 0 rows)
    (time counter : Int) : Chained 0 0 (rows ++ [state.row time counter]) := by
  refine chained.append accounts.last ?_ ?_
  · simp only [Reception.row, Reception.gap]
    omega
  · rw [← accounts.lost, Reception.row, Reception.record_lost]
    exact Int.natCast_add ..

/-- A further counter gives a further row. -/
theorem Accounts.record (accounts : Accounts rows state) (time counter : Int) :
    Accounts (rows ++ [state.row time counter]) (state.record counter) where
  counters := by
    have before : (rows.map (·.counter)).foldl Reception.record {} = state := accounts.counters.symm
    rw [List.map_append, Reception.recordAll, List.foldl_append, before]
    rfl
  received := by rw [Reception.record_received, accounts.received, List.length_append]; rfl
  last := by simp [Reception.row]
  lost := by simp [Reception.row]

/-- The last counter can be written if each one can. -/
theorem Accounts.isWritable_last (accounts : Accounts rows state)
    (written : ∀ row ∈ rows, Numeral.isWritable row.counter = true) :
    Numeral.isWritable state.last = true := by
  rw [accounts.last]
  cases found : rows.getLast? with
  | none => exact isWritable_zero
  | some row => exact written row (List.mem_of_getLast? found)

end Accounts

section Order

variable {now : Int} {moments : List Int}

/-- Times in order, up to now. -/
structure InOrder (now : Int) (moments : List Int) : Prop where
  sorted : moments.Pairwise (· ≤ ·)
  past : ∀ time ∈ moments, time ≤ now

theorem InOrder.push (inOrder : InOrder now moments) : InOrder now (moments ++ [now]) where
  sorted := by
    refine List.pairwise_append.mpr ⟨inOrder.sorted, List.pairwise_singleton _ _, ?_⟩
    intro time earlier last member
    rw [List.mem_singleton.mp member]
    exact inOrder.past time earlier
  past time member := by
    rcases List.mem_append.mp member with earlier | last
    · exact inOrder.past time earlier
    · exact Int.le_of_eq (List.mem_singleton.mp last)

theorem InOrder.later (inOrder : InOrder now moments) {time : Int} (forward : now ≤ time) :
    InOrder time moments :=
  ⟨inOrder.sorted, fun past member => Int.le_trans (inOrder.past past member) forward⟩

/-- The times of the rows of a stream. -/
def Trace.times (t : Trace) : Stream → List Int
  | .log => t.logRows.toList.map (·.time)
  | .reception => t.receptionRows.toList.map (·.time)
  | .link => t.linkRows.toList.map (·.time)

/-- No event is past, and the rows of each stream are in order. -/
structure Ordered (trace : Trace) (w : World κ μ) : Prop where
  timely : ∀ a ∈ w.scheduler.pending, w.now ≤ a.due
  rows : ∀ stream, InOrder w.now (trace.times stream)

/-- A row of now may be added. -/
theorem Ordered.push {trace trace' : Trace} {w : World κ μ} (ordered : Ordered trace w)
    (pushed : ∀ stream, trace'.times stream = trace.times stream ∨
      trace'.times stream = trace.times stream ++ [w.now]) : Ordered trace' w := by
  refine ⟨ordered.timely, fun stream => ?_⟩
  rcases pushed stream with same | more
  · rw [same]
    exact ordered.rows stream
  · rw [more]
    exact (ordered.rows stream).push

theorem times_addLog (trace : Trace) (row : LogRow) (stream : Stream) :
    (trace.addLog row).times stream = trace.times stream ∨
      (trace.addLog row).times stream = trace.times stream ++ [row.time] := by
  cases stream with
  | log => exact .inr (by simp [Trace.times, Trace.addLog])
  | reception | link => exact .inl rfl

theorem times_addReception (trace : Trace) (row : ReceptionRow) (stream : Stream) :
    (trace.addReception row).times stream = trace.times stream ∨
      (trace.addReception row).times stream = trace.times stream ++ [row.time] := by
  cases stream with
  | reception => exact .inr (by simp [Trace.times, Trace.addReception])
  | log | link => exact .inl rfl

theorem times_addLink (trace : Trace) (row : LinkRow) (stream : Stream) :
    (trace.addLink row).times stream = trace.times stream ∨
      (trace.addLink row).times stream = trace.times stream ++ [row.time] := by
  cases stream with
  | link => exact .inr (by simp [Trace.times, Trace.addLink])
  | log | reception => exact .inl rfl

end Order

/-- A script whose state goes with the rows of receptions in a trace. -/
def Script.Accounted (t : Nat) (attached : Bool) (rows : List ReceptionRow) : Script κ → Prop
  | .linkFault _ held _ => held = attached ∧ rows = []
  | .reception _ held trace state =>
    held = attached ∧ trace = some t ∧ Chained 0 0 rows ∧
      (Numeral.isWritable state.lost = true → Accounts rows state)
  | .code _ => False

/-- What a trace has of the run of the only host that there is. Of the memory of users' code, `known` is
known; if it is `still` as it was, the clock has only gone forward. -/
structure Traced (t : Nat) (still known : μ → Prop) (attached : Bool) (host : Host κ)
    (trace : Trace) (w : World κ μ) : Prop where
  alone : w.hosts = #[host]
  kept : w.observer.rows[t]? = some trace
  aimed : w.radioTrace = some t
  traced : host.log.trace = some t
  logged : trace.logRows.toList.map (·.text) = host.log.lines.toList.map TestLog.trimmed
  linked : trace.linkRows = (w.medium.mutations.filter Mutation.isWritable).map Mutation.row
  accounted : host.script.Accounted t attached trace.receptionRows.toList
  written : ∀ row ∈ trace.receptionRows,
    Numeral.isWritable row.counter = true ∧ Numeral.isWritable row.lost = true
  known : known w.memory
  ordered : still w.memory → Ordered trace w

namespace Traced

variable {t : Nat} {still known : μ → Prop} {attached : Bool} {host host' : Host κ} {trace : Trace}
variable {w w' : World κ μ}

theorem present (recorded : Traced t still known attached host trace w) :
    w.hosts[0]? = some host := by
  rw [recorded.alone]
  rfl

theorem absent (recorded : Traced t still known attached host trace w) {h : Nat} (other : h ≠ 0) :
    w.hosts[h]? = none := by
  rw [recorded.alone]
  exact Array.getElem?_eq_none (Nat.one_le_iff_ne_zero.mpr other)

theorem hosts_setHost (recorded : Traced t still known attached host trace w) (host' : Host κ) :
    (w.setHost 0 host').hosts = #[host'] := by
  simp [World.setHost, recorded.alone]

/-- What the trace has of the run depends on these parts of a world. -/
theorem of_same (recorded : Traced t still known attached host trace w)
    (hosts : w'.hosts = w.hosts) (rows : w'.observer.rows = w.observer.rows)
    (aim : w'.radioTrace = w.radioTrace) (mutations : w'.medium.mutations = w.medium.mutations)
    (memory : w'.memory = w.memory) (pending : w'.scheduler.pending = w.scheduler.pending)
    (now : w'.now = w.now) : Traced t still known attached host trace w' where
  alone := hosts.trans recorded.alone
  kept := by
    rw [rows]
    exact recorded.kept
  aimed := aim.trans recorded.aimed
  traced := recorded.traced
  logged := recorded.logged
  linked := by
    rw [mutations]
    exact recorded.linked
  accounted := recorded.accounted
  written := recorded.written
  known := by
    rw [memory]
    exact recorded.known
  ordered same := by
    rw [memory] at same
    have ordered := recorded.ordered same
    refine ⟨?_, ?_⟩
    · rw [pending, now]
      exact ordered.timely
    · rw [now]
      exact ordered.rows

theorem quiet (recorded : Traced t still known attached host trace w) (quiet : Session.Quiet w w') :
    Traced t still known attached host trace w' :=
  recorded.of_same quiet.hosts (by rw [quiet.observer]) quiet.radioTrace quiet.mutations quiet.memory
    (by rw [quiet.scheduler]) (by rw [World.now, quiet.scheduler]; rfl)

theorem seen (recorded : Traced t still known attached host trace w) {o : Observer}
    (rows : o.rows = w.observer.rows) : Traced t still known attached host trace (w.seenBy o) :=
  recorded.of_same rfl rows rfl rfl rfl rfl rfl

/-- A host that has not written any more takes the place of the host. -/
theorem rehosted (recorded : Traced t still known attached host trace w) (host' : Host κ)
    (lines : host'.log.lines = host.log.lines) (traced : host'.log.trace = host.log.trace)
    {attached' : Bool}
    (accounted : host'.script.Accounted t attached' trace.receptionRows.toList) :
    Traced t still known attached' host' trace (w.setHost 0 host') where
  alone := recorded.hosts_setHost host'
  kept := recorded.kept
  aimed := recorded.aimed
  traced := traced.trans recorded.traced
  logged := by
    rw [lines]
    exact recorded.logged
  linked := recorded.linked
  accounted := accounted
  written := recorded.written
  known := recorded.known
  ordered same := ⟨(recorded.ordered same).timely, (recorded.ordered same).rows⟩

/-- Users' code remembers something else. -/
theorem remembered {known' : μ → Prop} (recorded : Traced t still known attached host trace w)
    {memory : μ} (knows : known' memory) (stays : still memory → still w.memory) :
    Traced t still known' attached host trace { w with memory } :=
  { recorded with
    known := knows
    ordered := fun same =>
      ⟨(recorded.ordered (stays same)).timely, (recorded.ordered (stays same)).rows⟩ }

theorem registered (recorded : Traced t still known attached host trace w) {due : Int}
    (later : w.now ≤ due) (event : Event κ) :
    Traced t still known attached host trace (w.register due event) :=
  { recorded with
    ordered := fun same =>
      ⟨World.timely_register (recorded.ordered same).timely later event, (recorded.ordered same).rows⟩ }

theorem taken (recorded : Traced t still known attached host trace w) {a : Appointment (Event κ)}
    {s : Scheduler (Event κ)} (takes : w.scheduler.Takes a s) :
    Traced t still known attached host trace { w with scheduler := s } := by
  have now : ({ w with scheduler := s } : World κ μ).now = a.due := takes.now
  refine { recorded with ordered := fun same => ⟨fun b member => ?_, fun stream => ?_⟩ }
  · rw [now]
    rcases takes.before b member with sooner | ⟨together, _⟩
    · exact Int.le_of_lt sooner
    · exact Int.le_of_eq together
  · rw [now]
    have ordered := recorded.ordered same
    exact (ordered.rows stream).later (ordered.timely a (by simp [takes.pending]))

end Traced

end MoteTrial

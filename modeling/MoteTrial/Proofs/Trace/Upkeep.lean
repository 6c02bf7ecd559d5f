import MoteTrial.Proofs.Session.Sustained
import MoteTrial.Proofs.Trace.Account

/-! # Every operation keeps the trace complete

Whatever an operation of the simulation or of the host does, and wherever it fails, the trace has a row
for it: `Tracing` is kept. A line of the log, a change of a link and a reception come with their rows,
all else changes neither the rows nor what they tell of.
-/

namespace MoteTrial

open SimM Simulation Session

variable {κ μ : Type} {α : Type} {t : Nat} {still known : μ → Prop} {attached : Bool}

section Rows

/-- An operation on a log that is not recorded: it writes no line. -/
def Unrecorded (m : LogM Unit) : Prop :=
  ∀ log o, ∃ log' o', (m (log, o) = .ok () (log', o') ∨ ∃ f, m (log, o) = .error f (log', o')) ∧
    log'.lines = log.lines ∧ log'.trace = log.trace ∧ o'.rows = o.rows

theorem TestLog.pass_unrecorded (now : Int) : Unrecorded (TestLog.pass now) := by
  intro log o
  unfold TestLog.pass
  simp only [get_bind_apply]
  split
  · cases writable : Numeral.isWritable now with
    | true =>
      rw [bind_ok (TestLog.writeInt_apply writable _)]
      exact ⟨_, _, .inl rfl, rfl, rfl, rfl⟩
    | false =>
      rw [bind_error (TestLog.writeInt_unwritable writable _)]
      exact ⟨_, _, .inr ⟨_, rfl⟩, rfl, rfl, rfl⟩
  · exact ⟨_, _, .inl rfl, rfl, rfl, rfl⟩

theorem TestLog.fail_unrecorded (now : Int) (reason : String) :
    Unrecorded (TestLog.fail now reason) := by
  intro log o
  unfold TestLog.fail
  simp only [get_bind_apply]
  split
  · exact ⟨_, _, .inl rfl, rfl, rfl, rfl⟩
  · simp only [modify_bind_apply]
    cases writable : Numeral.isWritable now with
    | true =>
      rw [bind_ok (TestLog.writeInt_apply writable _)]
      exact ⟨_, _, .inl rfl, rfl, rfl, rfl⟩
    | false =>
      rw [bind_error (TestLog.writeInt_unwritable writable _)]
      exact ⟨_, _, .inr ⟨_, rfl⟩, rfl, rfl, rfl⟩

/-- A line that is written to a log with a trace is recorded, whether or not it is shown. -/
theorem TestLog.rows_observe {log : TestLog} (traced : log.trace = some t) (now : Int)
    (text : String) (mote : Int) (o : Observer) :
    (log.observe now text mote o).rows =
      o.rows.modify t (·.addLog ⟨now, mote, TestLog.trimmed text⟩) := by
  unfold TestLog.observe
  simp only [traced, Observer.rows_recordLog]
  cases log.echo with
  | true => rfl
  | false => rfl

/-- A counter that a line reports can be written. -/
theorem isWritable_of_parseReceived {config : Config} {msg : String} {counter : Int}
    (parsed : Message.parseReceived config msg = .ok (some counter)) :
    Numeral.isWritable counter = true := by
  unfold Message.parseReceived at parsed
  split at parsed
  · cases parsed
  · split at parsed
    · cases parsed
    · split at parsed
      · rename_i read
        cases parsed
        exact Numeral.isWritable_of_readInt read
      · cases parsed

end Rows

namespace Traced

variable {host : Host κ} {trace : Trace} {w : World κ μ}

/-- The trace once a row is added. -/
theorem kept_modify (recorded : Traced t still known attached host trace w) {o : Observer}
    {f : Trace → Trace} (rows : o.rows = w.observer.rows.modify t f) : o.rows[t]? = some (f trace) := by
  rw [rows, Array.getElem?_modify, if_pos rfl, recorded.kept, Option.map_some]

/-- A further line of the log comes with its row. -/
theorem added (recorded : Traced t still known attached host trace w) (text : String) (mote : Int) :
    Traced t still known attached { host with log := host.log.added text }
      (trace.addLog ⟨w.now, mote, TestLog.trimmed text⟩)
      ((w.setHost 0 { host with log := host.log.added text }).seenBy
        (host.log.observe w.now text mote w.observer)) where
  alone := recorded.hosts_setHost _
  kept := recorded.kept_modify (TestLog.rows_observe recorded.traced w.now text mote w.observer)
  aimed := recorded.aimed
  traced := recorded.traced
  logged := by simp [Trace.addLog, TestLog.added, recorded.logged]
  linked := recorded.linked
  accounted := recorded.accounted
  written := recorded.written
  known := recorded.known
  ordered same :=
    have ordered := (recorded.ordered same).push (times_addLog trace ⟨w.now, mote, _⟩)
    ⟨ordered.timely, ordered.rows⟩

/-- What the lost counters amount to after a further counter, so they did before. -/
theorem isWritable_lost {state : Reception} {counter : Int}
    (writable : Numeral.isWritable (state.record counter).lost = true) :
    Numeral.isWritable state.lost = true :=
  isWritable_of_le (Int.natCast_nonneg _) (Int.ofNat_le.mpr (state.lost_le_record counter)) writable

/-- The last counter can be written, since it has been. -/
theorem isWritable_last (recorded : Traced t still known attached host trace w) {state : Reception}
    (accounts : Accounts trace.receptionRows.toList state) : Numeral.isWritable state.last = true :=
  accounts.isWritable_last fun row member =>
    (recorded.written row (Array.mem_toList_iff.mp member)).1

/-- A further counter comes with its row, if what is lost by then can be written. -/
theorem received (recorded : Traced t still known attached host trace w) {timeout : Int}
    {state : Reception} (script : host.script = .reception timeout attached (some t) state)
    {counter : Int} (counted : Numeral.isWritable counter = true)
    (writable : Numeral.isWritable (state.record counter).lost = true) :
    Traced t still known attached
      { host with script := .reception timeout attached (some t) (state.record counter) }
      (trace.addReception (state.row w.now counter))
      ((w.setHost 0 { host with
        script := .reception timeout attached (some t) (state.record counter) }).seenBy
          (w.observer.recordReception t (state.row w.now counter))) where
  alone := recorded.hosts_setHost _
  kept := recorded.kept_modify (w.observer.rows_recordReception t _)
  aimed := recorded.aimed
  traced := recorded.traced
  logged := recorded.logged
  linked := recorded.linked
  accounted := by
    have accounted := recorded.accounted
    rw [script] at accounted
    have accounts := accounted.2.2.2 (isWritable_lost writable)
    rw [Trace.addReception, Array.toList_push]
    exact ⟨rfl, rfl, accounts.chained accounted.2.2.1 w.now counter,
      fun _ => accounts.record w.now counter⟩
  written row member := by
    rcases Array.mem_push.mp member with earlier | rfl
    · exact recorded.written row earlier
    · exact ⟨counted, writable⟩
  known := recorded.known
  ordered same :=
    have ordered := (recorded.ordered same).push (times_addReception trace (state.row w.now counter))
    ⟨ordered.timely, ordered.rows⟩

variable {m : Medium} {change : Mutation}

/-- A change of a link comes with its row. -/
theorem linkChanged (recorded : Traced t still known attached host trace w)
    (changed : m.mutations = w.medium.mutations.push change) (now : change.time = w.now)
    (writable : change.isWritable = true) {o : Observer}
    (rows : o.rows = w.observer.rows.modify t (·.addLink change.row)) :
    Traced t still known attached host (trace.addLink change.row)
      { w with medium := m, observer := o } where
  alone := recorded.alone
  kept := recorded.kept_modify rows
  aimed := recorded.aimed
  traced := recorded.traced
  logged := recorded.logged
  linked := by
    change trace.linkRows.push change.row = (m.mutations.filter Mutation.isWritable).map Mutation.row
    rw [changed, Array.filter_push, if_pos writable, Array.map_push, recorded.linked]
  accounted := recorded.accounted
  written := recorded.written
  known := recorded.known
  ordered same := by
    have pushed (stream : Stream) : (trace.addLink change.row).times stream = trace.times stream ∨
        (trace.addLink change.row).times stream = trace.times stream ++ [w.now] := by
      rw [← now]
      exact times_addLink trace change.row stream
    have ordered := (recorded.ordered same).push pushed
    exact ⟨ordered.timely, ordered.rows⟩

/-- A change of a link that cannot be written has no row. -/
theorem linkUnwritten (recorded : Traced t still known attached host trace w)
    (changed : m.mutations = w.medium.mutations.push change) (long : change.isWritable = false) :
    Traced t still known attached host trace { w with medium := m } := by
  have linked : trace.linkRows = (m.mutations.filter Mutation.isWritable).map Mutation.row := by
    rw [changed, Array.filter_push, if_neg (by rw [long]; decide), recorded.linked]
  exact { recorded with
    linked
    ordered := fun same => ⟨(recorded.ordered same).timely, (recorded.ordered same).rows⟩ }

end Traced

/-- A world with a single host, whose script is set up and whose run is recorded. -/
def Tracing (t : Nat) (still known : μ → Prop) (w : World κ μ) : Prop :=
  ∃ host trace, Traced t still known true host trace w

/-- An operation that is recorded as far as it goes. -/
abbrev KeepsRecord (t : Nat) (still known : μ → Prop) (m : SimM κ μ α) : Prop :=
  Keeps (Tracing t still known) (fun _ => Tracing t still known) m

namespace Tracing

variable {h : Nat}

theorem moves : Moves (κ := κ) (Tracing t still known) (fun _ => Tracing t still known) where
  quiet := fun ⟨host, trace, recorded⟩ quiet => ⟨host, trace, recorded.quiet quiet⟩
  failed tracing _ := tracing

theorem paced : Paced (κ := κ) (Tracing t still known) (fun _ => Tracing t still known)
    fun _ _ => True where
  interrupted tracing _ := tracing
  registered := fun ⟨host, trace, recorded⟩ _ later event _ =>
    ⟨host, trace, recorded.registered later event⟩
  taken := fun ⟨host, trace, recorded⟩ _ _ _ takes => ⟨host, trace, recorded.taken takes⟩
  counted := fun ⟨host, trace, recorded⟩ =>
    ⟨host, trace, recorded.of_same rfl rfl rfl rfl rfl rfl rfl⟩
  pending _ a _ := said_any a.event
  voiced _ _ _ _ _ := trivial

theorem print (text : String) : KeepsRecord t still known (SimM.print text : SimM κ μ Unit) :=
  Keeps.modify fun ⟨host, trace, recorded⟩ => ⟨host, trace, recorded.seen rfl⟩

theorem stop : KeepsRecord t still known (Simulation.stop : SimM κ μ Unit) :=
  Keeps.modify fun ⟨host, trace, recorded⟩ =>
    ⟨host, trace, recorded.of_same rfl rfl rfl rfl rfl rfl rfl⟩

section Hosts

variable {w : World κ μ} {host other : Host κ} {trace : Trace}

/-- There is no other host. -/
theorem only (recorded : Traced t still known attached host trace w)
    (present : w.hosts[h]? = some other) : h = 0 ∧ other = host := by
  by_cases own : h = 0
  · subst own
    exact ⟨rfl, Option.some.inj (present.symm.trans recorded.present)⟩
  · rw [recorded.absent own] at present
    cases present

/-- A host changes, but for its log, to one of which the trace has the same account. -/
theorem rehosts {f : Host κ → Host κ} (logs : ∀ host, (f host).log = host.log)
    (scripts : ∀ host rows, host.script.Accounted t true rows →
      (f host).script.Accounted t true rows) :
    KeepsRecord t still known (Host.change h f : SimM κ μ Unit) := by
  rintro w ⟨host, trace, recorded⟩
  by_cases own : h = 0
  · subst own
    rw [Host.change_apply recorded.present]
    have lines := congrArg TestLog.lines (logs host)
    have traced := congrArg TestLog.trace (logs host)
    exact ⟨_, _, recorded.rehosted _ lines traced (scripts host _ recorded.accounted)⟩
  · rw [Host.change_absent (recorded.absent own)]
    exact ⟨host, trace, recorded⟩

theorem change {f : Host κ → Host κ}
    (same : ∀ host, (f host).script = host.script ∧ (f host).log = host.log) :
    KeepsRecord t still known (Host.change h f : SimM κ μ Unit) := by
  refine rehosts (fun host => (same host).2) fun host rows accounted => ?_
  rw [(same host).1]
  exact accounted

theorem onLog {m : LogM Unit} (unrecorded : Unrecorded m) :
    KeepsRecord t still known (Host.onLog h m : SimM κ μ Unit) := by
  rintro w ⟨host, trace, recorded⟩
  by_cases own : h = 0
  · subst own
    obtain ⟨log, o, ran, lines, traced, rows⟩ := unrecorded host.log w.observer
    have put : Tracing t still known ((w.setHost 0 { host with log }).seenBy o) :=
      ⟨_, _, (recorded.rehosted { host with log } lines traced recorded.accounted).seen rows⟩
    rcases ran with wrote | ⟨f, failed⟩
    · rw [Host.onLog_apply recorded.present wrote]
      exact put
    · rw [Host.onLog_error recorded.present failed]
      exact put
  · rw [Host.onLog_absent (recorded.absent own)]
    exact ⟨host, trace, recorded⟩

theorem pass : KeepsRecord t still known (Host.pass h : SimM κ μ Unit) :=
  Keeps.reads fun w => onLog (TestLog.pass_unrecorded w.now)

theorem failTest (reason : String) :
    KeepsRecord t still known (Host.failTest h reason : SimM κ μ Unit) :=
  Keeps.reads fun w => onLog (TestLog.fail_unrecorded w.now reason)

theorem write (text : String) (mote : Int) :
    KeepsRecord t still known (Host.write h text mote : SimM κ μ Unit) := by
  rintro w ⟨host, trace, recorded⟩
  change Session.Kept _ _ (Host.onLog h (TestLog.write w.now text mote) w)
  by_cases own : h = 0
  · subst own
    have wrote : TestLog.write w.now text mote (host.log, w.observer) =
        .ok () (host.log.added text, host.log.observe w.now text mote w.observer) := rfl
    rw [Host.onLog_apply recorded.present wrote]
    exact ⟨_, _, recorded.added text mote⟩
  · rw [Host.onLog_absent (recorded.absent own)]
    exact ⟨host, trace, recorded⟩

theorem closes : Closes (κ := κ) (Tracing t still known) (fun _ => Tracing t still known) h where
  prints := print
  change := change
  failTest := failTest
  stop := stop

theorem registerDeadline (after : Int) (action : Expiry κ) :
    KeepsRecord t still known (Host.registerDeadline h after action : SimM κ μ Unit) :=
  closes.bears.registerDeadline paced.failed (paced.schedule after _ trivial)

/-- The change of a link is recorded once it is made, if it can be written. -/
theorem changeLink (kind : Change) (a b : Int) :
    KeepsRecord t still known (Simulation.changeLink kind a b : SimM κ μ Unit) := by
  rintro w ⟨host, trace, recorded⟩
  unfold Simulation.changeLink
  rw [now_bind_apply]
  cases changed : w.medium.change w.config w.now kind a b with
  | error f =>
    rw [bind_error (onMedium_error (by rw [changed]; rfl))]
    exact ⟨host, trace, recorded⟩
  | ok m =>
    have made := Medium.mutations_change changed
    have unwritten (long : (⟨w.now, kind, a, b⟩ : Mutation).isWritable = false) :
        Tracing t still known { w with medium := m } :=
      ⟨host, trace, recorded.linkUnwritten made long⟩
    rw [bind_ok (onMedium_ok (m := m) (a := ()) (by rw [changed]; rfl))]
    cases timed : Numeral.isWritable w.now with
    | false =>
      simp only [writeInt_unwritable timed]
      exact unwritten (by simp only [Mutation.isWritable, timed, Bool.false_and])
    | true =>
      cases first : Numeral.isWritable a with
      | false =>
        simp only [writeInt_apply timed, writeInt_unwritable first]
        exact unwritten (by simp only [Mutation.isWritable, first, Bool.and_false, Bool.false_and])
      | true =>
        cases second : Numeral.isWritable b with
        | false =>
          simp only [writeInt_apply timed, writeInt_apply first, writeInt_unwritable second]
          exact unwritten (by simp only [Mutation.isWritable, second, Bool.and_false])
        | true =>
          have writable : (⟨w.now, kind, a, b⟩ : Mutation).isWritable = true := by
            simp only [Mutation.isWritable, timed, first, second, Bool.and_self]
          simp only [writeInt_apply timed, writeInt_apply first, writeInt_apply second,
            ofExcept_ok_bind_apply, print_bind_apply, get_bind_apply]
          generalize shown : Observer.print _ _ = told
          have rows : told.rows = w.observer.rows := by
            rw [← shown]
            rfl
          have aimed : (World.seenBy told { w with medium := m }).radioTrace = some t := recorded.aimed
          simp only [aimed]
          refine ⟨host, _, recorded.linkChanged made rfl writable (o := told.recordLink t _) ?_⟩
          rw [← rows]
          exact told.rows_recordLink t _

theorem changeLinkFault (f : LinkFault → LinkFault) :
    KeepsRecord t still known (Host.changeLinkFault h f : SimM κ μ Unit) := by
  refine rehosts (fun host => ?_) fun host rows accounted => ?_
  · split
    · rfl
    · rfl
  · split
    · rename_i script
      rw [script] at accounted
      exact accounted
    · exact accounted

theorem handleLinkFault (attached : Bool) (state : LinkFault) (mote : Int) (msg : String) :
    KeepsRecord t still known (Host.handleLinkFault h attached state mote msg : SimM κ μ Bool) :=
  Keeps.handleLinkFault moves.failed changeLink write changeLinkFault fun _ => pass

/-- A reception is accounted for, logged and recorded, unless what is lost by then cannot be written. -/
theorem handleReception (recorded : Traced t still known true host trace w) {timeout : Int}
    {state : Reception} (script : host.script = .reception timeout true (some t) state) (mote : Int)
    (msg : String) : Session.Kept (Tracing t still known) (fun _ => Tracing t still known)
      (Host.handleReception 0 timeout true (some t) state mote msg w) := by
  unfold Host.handleReception
  rw [get_bind_apply]
  cases parsed : Message.parseReceived w.config msg with
  | error f => exact ⟨host, trace, recorded⟩
  | ok found =>
    rw [ofExcept_ok_bind_apply]
    cases found with
    | none => exact ⟨host, trace, recorded⟩
    | some counter =>
      have counted := isWritable_of_parseReceived parsed
      let next : Host κ :=
        { host with script := .reception timeout true (some t) (state.record counter) }
      have accounted := recorded.accounted
      rw [script] at accounted
      obtain ⟨-, -, chained, accounts⟩ := accounted
      dsimp only
      rw [bind_ok (Host.change_apply recorded.present _)]
      cases writable : Numeral.isWritable (state.record counter).lost with
      | false =>
        simp only [Bool.not_true, Bool.false_eq_true, ↓reduceIte, writeInt_apply counted,
          writeInt_unwritable writable, ofExcept_ok_bind_apply]
        have vacuous : next.script.Accounted t true trace.receptionRows.toList :=
          ⟨rfl, rfl, chained, fun short => absurd (writable.symm.trans short) (by decide)⟩
        exact ⟨next, trace, recorded.rehosted next rfl rfl vacuous⟩
      | true =>
        have last := recorded.isWritable_last (accounts (Traced.isWritable_lost writable))
        simp only [Bool.not_true, Bool.false_eq_true, ↓reduceIte, writeInt_apply counted,
          writeInt_apply writable, writeInt_apply last,
          ofExcept_ok_bind_apply]
        generalize _ ++ "\n" = text
        have received := (recorded.added text mote).received script counted writable
        rw [World.setHost_seenBy, World.seenBy_seenBy, World.setHost_setHost] at received
        have wrote : TestLog.write w.now text mote (next.log, w.observer) =
            .ok () (next.log.added text, host.log.observe w.now text mote w.observer) := rfl
        have logged : Host.write 0 text mote (w.setHost 0 next) = .ok () (((w.setHost 0 next).setHost 0
            { next with log := next.log.added text }).seenBy _) :=
          Host.onLog_apply (World.hosts_setHost recorded.present next) wrote
        rw [World.setHost_setHost] at logged
        rw [bind_ok logged]
        exact ⟨_, _, received⟩

/-- The script is set up, if it is not yet. -/
theorem setup (act : Behaviour κ μ) (recorded : Traced t still known attached host trace w) :
    Session.Kept (Tracing t still known) (fun _ => Tracing t still known) (Host.setup act 0 w) := by
  have registers (timeout : Int) : KeepsRecord t still known (do
      Host.registerDeadline 0 timeout .builtIn
      return false : SimM κ μ Bool) := (registerDeadline _ _).bind fun _ => Keeps.pure _
  have accounted := recorded.accounted
  unfold Host.setup
  rw [get_bind_apply, recorded.present]
  dsimp only
  cases script : host.script with
  | linkFault timeout held state =>
    rw [script] at accounted
    let next : Host κ := { host with script := .linkFault timeout true state }
    have ready : next.script.Accounted t true trace.receptionRows.toList := ⟨rfl, accounted.2⟩
    dsimp only
    rw [bind_ok (Host.change_apply recorded.present _)]
    exact registers timeout _ ⟨next, trace, recorded.rehosted next rfl rfl ready⟩
  | reception timeout held place state =>
    rw [script] at accounted
    let next : Host κ := { host with script := .reception timeout true place state }
    have ready : next.script.Accounted t true trace.receptionRows.toList := ⟨rfl, accounted.2⟩
    dsimp only
    rw [bind_ok (Host.change_apply recorded.present _)]
    exact registers timeout _ ⟨next, trace, recorded.rehosted next rfl rfl ready⟩
  | code c =>
    rw [script] at accounted
    exact accounted.elim

theorem start (act : Behaviour κ μ) (recorded : Traced t still known attached host trace w) :
    Session.Kept (Tracing t still known) (fun _ => Tracing t still known) (Host.start act 0 w) :=
  Session.Kept.bind ((setup act recorded).guarded (fun _ tracing => tracing) closes.handleFailure)
    fun _ _ tracing => tracing

variable {act : Behaviour κ μ}

theorem handle (mote : Int) (msg : String) :
    KeepsRecord t still known (Host.handle act h mote msg) := by
  rintro w ⟨host, trace, recorded⟩
  unfold Host.handle
  rw [get_bind_apply]
  cases present : w.hosts[h]? with
  | none => exact ⟨host, trace, recorded⟩
  | some other =>
    obtain ⟨rfl, rfl⟩ := only recorded present
    have accounted := recorded.accounted
    dsimp only
    cases script : other.script with
    | linkFault timeout held state => exact handleLinkFault _ _ _ _ w ⟨other, trace, recorded⟩
    | reception timeout held place state =>
      rw [script] at accounted
      obtain ⟨rfl, rfl, -⟩ := accounted
      exact handleReception recorded script mote msg
    | code c =>
      rw [script] at accounted
      exact accounted.elim

/-- A test with a trace sustains that its run is recorded. -/
theorem sustains (calls : ∀ c cue, KeepsRecord t still known (act c cue)) :
    Sustains act (Tracing t still known) (fun _ => Tracing t still known) where
  paced := paced
  moves := moves
  closes _ := closes
  reports _ _ := closes
  setup h := by
    rintro w ⟨host, trace, recorded⟩
    by_cases own : h = 0
    · subst own
      exact setup act recorded
    · unfold Host.setup
      rw [get_bind_apply, recorded.absent own]
      exact ⟨host, trace, recorded⟩
  handle _ := handle
  pass _ := pass
  write _ := write
  calls := calls

/-- A run is recorded. If it is bounded, it may turn the clock back. -/
theorem run (calls : ∀ c cue, KeepsRecord t still known (act c cue)) {bound : Option Int}
    (pauses : bound ≠ none → ∀ m, known m → ¬ still m) (fuel : Nat) :
    KeepsRecord t still known (Simulation.run (Simulation.fire act) bound fuel) := by
  refine (sustains calls).run ?_ fuel
  rintro limit bounded w ⟨host, trace, recorded⟩
  have untimed : ∀ m, known m → ¬ still m := pauses (by rw [Option.mem_def.mp bounded]; nofun)
  exact ⟨host, trace, { recorded with
    ordered := fun same => absurd same (untimed w.memory recorded.known) }⟩

theorem hostRun (calls : ∀ c cue, KeepsRecord t still known (act c cue))
    (recorded : Traced t still known attached host trace w) (fuel : Nat) :
    Session.Kept (Tracing t still known) (fun _ => Tracing t still known) (Host.run act fuel 0 w) :=
  (sustains calls).hostRun (start act recorded) fuel

end Hosts

end Tracing

end MoteTrial

import MoteTrial.Proofs.Host.Hearing
import MoteTrial.Proofs.Session.Clock
import MoteTrial.Proofs.Session.HostTest

/-! # A finished test is final

A finished host stays a listener, and its deadline stays among the events. Neither does anything any
more: whatever lines motes log, whatever events are fired and whatever users' code does elsewhere, the
host stays exactly as its test left it, and its script is not called again.
-/

namespace MoteTrial.Session

open SimM Simulation

variable {κ μ : Type}

/-- Users' code that leaves a host alone: it may do anything but operate on that host by itself. -/
def Program.Spares (h : Nat) : Program κ μ → Prop
  | .answer _ | .raise _ => True
  | .schedule _ _ next | .scheduleAt _ _ next | .stop next | .emit _ _ next | .alter _ next =>
    next.Spares h
  | .step next => ∀ fired, (next fired).Spares h
  | .run _ next => ∀ time, (next time).Spares h
  | .attach _ _ next => ∀ i ≠ h, (next i).Spares h
  | .start i next | .registerDeadline i _ _ next | .pass i next | .failTest i _ next
  | .write i _ _ next => i ≠ h ∧ next.Spares h
  | .consult next => ∀ w, (next w).Spares h

/-- The worlds of all moments after a given one: between operations, while a line is handed to the
listeners, and while an event is carried out. -/
inductive Later (code : κ → Cue → Program κ μ) (h : Nat) (w : World κ (Diary μ)) :
    World κ (Diary μ) → Prop where
  | now : Later code h w w
  | acted {w' : World κ (Diary μ)} (earlier : Later code h w w') {p : Program κ μ}
      (spares : p.Spares h) (limit : Nat) :
      Later code h w (final (p.exec (behaviour code limit) limit) w')
  | told {w' : World κ (Diary μ)} (earlier : Later code h w w') (listener : Listener κ) (mote : Int)
      (msg : String) (limit : Nat) :
      Later code h w (final (hear (behaviour code limit) listener mote msg) w')
  | fired {w' : World κ (Diary μ)} (earlier : Later code h w w') (event : Event κ) (limit : Nat) :
      Later code h w (final (fire (behaviour code limit) event) w')
  | taken {w' : World κ (Diary μ)} (earlier : Later code h w w') {a : Appointment (Event κ)}
      {s : Scheduler (Event κ)} (next : w'.scheduler.next? = some (a, s)) :
      Later code h w { w' with scheduler := s }
  | counted {w' : World κ (Diary μ)} (earlier : Later code h w w') : Later code h w w'.finishEvent

section Held

variable {h : Nat} {host : Host κ} {act : Behaviour κ (Diary μ)}

/-- A world in which a host is as it was left. -/
def Held (h : Nat) (host : Host κ) (w : World κ (Diary μ)) : Prop := w.hosts[h]? = some host

/-- An operation that leaves the host as it is, even if it fails. -/
abbrev KeepsHeld (h : Nat) (host : Host κ) {α : Type} (m : SimM κ (Diary μ) α) : Prop :=
  Keeps (Held h host) (fun _ => Held h host) m

theorem steady_held (h : Nat) (host : Host κ) :
    Steady (Held (μ := μ) h host) (fun _ => Held h host) fun i => i ≠ h where
  seen held _ := held
  changed other held f _ := (getElem?_modify_other other f).trans held
  stopped held := held
  unwritable held _ := held

theorem stable_held (h : Nat) (host : Host κ) :
    Stable (Held (μ := μ) h host) (fun _ => Held h host) (fun i => i ≠ h) fun _ _ => True where
  toSteady := steady_held h host
  aside held apart := (congrArg (·[h]?) apart.hosts).trans held
  interrupted held _ := held
  registered held _ _ _ _ := held
  taken held _ _ _ _ := held
  counted held := held
  pending _ a _ := said_any a.event
  voiced _ _ _ _ _ := trivial
  rescripted other held f _ := (getElem?_modify_other other f).trans held
  bound other held _ _ _ _ _ _ := (getElem?_modify_other other _).trans held
  failing _ := steady_held h host

/-- An operation on any host keeps a finished one if it does nothing to that. -/
theorem held_each {m : Nat → SimM κ (Diary μ) Unit}
    (own : ∀ w : World κ (Diary μ), w.hosts[h]? = some host → m h w = .ok () w)
    (others : ∀ {i}, i ≠ h → KeepsHeld h host (m i)) (i : Nat) : KeepsHeld h host (m i) := by
  by_cases same : i = h
  · subst same
    intro w held
    rw [own w held]
    exact held
  · exact others same

/-- A new host is not one that there is. -/
theorem attach_held {script : Script κ} {log : TestLog} {next : Nat → SimM κ (Diary μ) Bool}
    (rest : ∀ i ≠ h, KeepsHeld h host (next i)) :
    KeepsHeld h host (Host.attach script log >>= next) := by
  intro w held
  have bound : h < w.hosts.size := (Array.getElem?_eq_some_iff.mp held).1
  refine rest w.hosts.size (Nat.ne_of_gt bound) _ ?_
  change (w.hosts.push _)[h]? = some host
  rw [Array.getElem?_push, if_neg (Nat.ne_of_lt bound)]
  exact held

variable (finished : host.finished = true) (calls : ∀ c cue, KeepsHeld h host (act c cue))

include finished calls

theorem hearLine_held (i : Nat) (mote : Int) (msg : String) :
    KeepsHeld h host (Host.hearLine act i mote msg) :=
  held_each (m := fun i => Host.hearLine act i mote msg)
    (fun _ present => Host.hearLine_finished present finished mote msg)
    (fun other => (stable_held h host).hearLine (fun c cue _ => calls c cue) other trivial) i

theorem expire_held (i : Nat) (after : Int) (action : Expiry κ) :
    KeepsHeld h host (Host.expire act i after action) :=
  held_each (m := fun i => Host.expire act i after action)
    (fun _ present => Host.expire_finished act present finished after action)
    (fun other => (stable_held h host).expire (fun c cue _ => calls c cue) other after action) i

theorem hears_held : Hears (hear act) (Held h host) (fun _ => Held h host) fun _ _ => True := by
  have called : Stable.Calls (Held h host) (fun _ => Held h host) (fun i => i ≠ h) act :=
    fun c cue _ => calls c cue
  exact Stable.hears called fun i mote msg _ => hearLine_held finished calls i mote msg

theorem fire_held (event : Event κ) : KeepsHeld h host (fire act event) :=
  (stable_held h host).fire (fun c cue _ => calls c cue)
    (fun i mote msg _ => hearLine_held finished calls i mote msg)
    (expire_held finished calls) event (said_any event)

/-- Users' code that leaves a finished host alone keeps it, whatever it does to all else. -/
theorem exec_held (fuel : Nat) (p : Program κ μ) (spares : p.Spares h) :
    KeepsHeld h host (p.exec act fuel) := by
  have stable := stable_held (μ := μ) h host
  have called : Stable.Calls (Held h host) (fun _ => Held h host) (fun i => i ≠ h) act :=
    fun c cue _ => calls c cue
  have fires (event : Event κ) : KeepsHeld h host (fire act event) := fire_held finished calls event
  have notes (f : Diary μ → Diary μ) : KeepsHeld h host (Diary.change f : SimM κ (Diary μ) Unit) :=
    fun _ held => held
  induction p with
  | answer done => exact Keeps.pure done
  | raise f => exact stable.fails f
  | schedule delay event next ih =>
    exact (stable.schedule delay event (said_any event)).bind fun _ => ih spares
  | scheduleAt time event next ih =>
    exact (stable.scheduleAt time event (said_any event)).bind fun _ => ih spares
  | stop next ih => exact stable.stop.bind fun _ => ih spares
  | emit mote msg next ih =>
    exact ((hears_held finished calls).emit trivial).bind fun _ => ih spares
  | step next ih =>
    exact (stable.step fun event _ => fires event).bind fun fired => ih fired (spares fired)
  | run bound next ih =>
    have runs : KeepsHeld h host (Simulation.run (fire act) bound fuel) :=
      stable.run (fun event _ => fires event) (fun _ _ _ _ held _ _ => held) fuel
    exact (notes _).bind fun _ => runs.bind fun time => ih time (spares time)
  | attach script log next ih =>
    exact attach_held fun i other => ih i (spares i other)
  | start i next ih => exact (stable.start called spares.1).bind fun _ => ih spares.2
  | registerDeadline i after action next ih =>
    exact (stable.registerDeadline spares.1 after action).bind fun _ => ih spares.2
  | pass i next ih =>
    exact (notes _).bind fun _ => (stable.pass spares.1).bind fun _ => ih spares.2
  | failTest i reason next ih =>
    exact (stable.failTest spares.1 reason).bind fun _ => ih spares.2
  | write i text mote next ih => exact (stable.write spares.1 text mote).bind fun _ => ih spares.2
  | alter change next ih =>
    have alters : KeepsHeld h host (modify (altered change) : SimM κ (Diary μ) Unit) :=
      fun _ held => held
    exact alters.bind fun _ => ih spares
  | consult next ih => exact Keeps.reads fun w => ih w (spares w)

end Held

section Final

variable {code : κ → Cue → Program κ μ} {h : Nat} {host : Host κ} {w w' : World κ (Diary μ)}

theorem behaviour_held (spares : ∀ c cue, (code c cue).Spares h) (finished : host.finished = true)
    (limit : Nat) (c : κ) (cue : Cue) : KeepsHeld h host (behaviour code limit c cue) := by
  induction limit generalizing c cue with
  | zero => exact fun _ held => held
  | succ limit ih =>
    intro w held
    have ran := exec_held finished ih limit (code c cue) (spares c cue) w held
    refine ran.watched (fun _ held => held) fun f w held => ?_
    unfold noted
    split
    · exact held
    · exact held

theorem Later.held (spares : ∀ c cue, (code c cue).Spares h) (finished : host.finished = true)
    (present : w.hosts[h]? = some host) (later : Later code h w w') : Held h host w' := by
  have calls := behaviour_held spares finished
  induction later with
  | now => exact present
  | acted _ spares limit ih => exact (exec_held finished (calls limit) limit _ spares _ ih).final
  | told _ listener mote msg limit ih =>
    exact (hears_held finished (calls limit) listener mote msg trivial _ ih).final
  | fired _ event limit ih => exact (fire_held finished (calls limit) event _ ih).final
  | taken _ _ ih => exact ih
  | counted _ ih => exact ih

/-- At no moment after its test has ended is a host anything else than what it was then: the state of
its script, the line before it, its error, its log and its verdict. At each of these moments a further
line, or its deadline, changes nothing at all, whatever its script would do: the script is not called,
and so makes no entry in the radio medium. -/
theorem finished_final (spares : ∀ c cue, (code c cue).Spares h) (present : w.hosts[h]? = some host)
    (finished : host.finished = true) (later : Later code h w w') :
    w'.hosts[h]? = some host ∧
      (∀ act mote msg, Host.hearLine act h mote msg w' = .ok () w') ∧
      ∀ act after action, Host.expire act h after action w' = .ok () w' := by
  have held := later.held spares finished present
  refine ⟨held, fun act mote msg => ?_, fun act after action => ?_⟩
  · exact Host.hearLine_finished held finished mote msg
  · exact Host.expire_finished act held finished after action

end Final

section Ending

/-- The link-fault script is attached, with a deadline at 1000, and motes 1 and 3 start. -/
def beginning : Program Unit Unit :=
  .attach (.linkFault 1000 false {}) {} fun h => .start h <|
    .emit 1 "1 started" <| .emit 3 "3 started" <| .answer false

/-- The test has ended with a line of mote 1. -/
def ended : World Unit (Diary Unit) :=
  final (hear (behaviour idle 1) (.host 0) 1 "1 done") <|
    final (beginning.exec (behaviour idle 1) 1) <|
      World.plain { own := () }

/-- A further line asks for the link to be degraded, and then the deadline expires. -/
def afterwards : World Unit (Diary Unit) :=
  final (fire (behaviour idle 1) (.expire 0 1000 .builtIn)) <|
    final (hear (behaviour idle 1) (.host 0) 3 "3 third") ended

theorem finished_final_passed :
    ∃ host, ended.hosts[0]? = some host ∧ host.finished = true ∧
      host.log.verdict = some .passed ∧ Later idle 0 ended afterwards ∧
      afterwards.hosts[0]? = some host ∧
      (∀ act mote msg, Host.hearLine act 0 mote msg afterwards = .ok () afterwards) ∧
      ∀ act after action, Host.expire act 0 after action afterwards = .ok () afterwards := by
  have done : ended.hosts[0]?.map (fun host => (host.finished, host.log.verdict)) =
      some (true, some .passed) := by
    decide +kernel
  obtain ⟨host, present, settled⟩ := Option.map_eq_some_iff.mp done
  obtain ⟨finished, passed⟩ := Prod.mk.inj settled
  have later : Later idle 0 ended afterwards := (Later.now.told ..).fired ..
  have spares : ∀ c cue, (idle c cue : Program Unit Unit).Spares 0 := fun _ _ => trivial
  exact ⟨host, present, finished, passed, later, finished_final spares present finished later⟩

end Ending

end MoteTrial.Session

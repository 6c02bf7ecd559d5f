import MoteTrial.Proofs.Host.Hearing
import MoteTrial.Proofs.Replay.LinkFault
import MoteTrial.Proofs.Session.Operations

/-! # The link-fault script agrees with the radio medium

The script counts the changes that it makes of its link and remembers the last one; the medium notes each
change and has the link marked. `Controller.hear` says what a line does to both, and to the log of the
test, whether the line is handled or fails. From this `link_fault_agreement` shows that the two never come
apart as long as the changes can be told on the console.
-/

namespace MoteTrial.Session

open SimM Simulation LogFile Scan

/-- What a line of a link-fault test may change: the medium, the state of the script and the lines of
the log. -/
structure Controller where
  medium : Medium
  state : LinkFault
  lines : Array String

/-- Whether a change can be told on the console. -/
def isTold (e : Mutation) : Bool :=
  Numeral.isWritable e.time && (Numeral.isWritable e.first && Numeral.isWritable e.second)

namespace Controller

/-- The state of the script once it has made a change. -/
def counted (kind : Change) (s : LinkFault) : LinkFault :=
  match kind with
  | .deteriorate => { s with deteriorations := s.deteriorations + 1, degraded := true }
  | .improve => { s with improvements := s.improvements + 1, degraded := false }

@[simp] theorem first_counted (kind : Change) (s : LinkFault) : (counted kind s).first = s.first := by
  cases kind <;> rfl

@[simp] theorem third_counted (kind : Change) (s : LinkFault) : (counted kind s).third = s.third := by
  cases kind <;> rfl

@[simp] theorem logged_counted (kind : Change) (s : LinkFault) : (counted kind s).logged = s.logged := by
  cases kind <;> rfl

theorem degraded_counted (kind : Change) (s : LinkFault) :
    (counted kind s).degraded = decide (kind = .deteriorate) := by
  cases kind <;> rfl

/-- A change is asked for. It is counted after it is told, so that one that cannot be told is made and
noted only. -/
def request (kind : Change) (now : Int) (c : Controller) : Controller :=
  match c.state.first, c.state.third with
  | some a, some b =>
    let c := { c with medium := c.medium.changed now kind a b }
    if isTold ⟨now, kind, a, b⟩ then { c with state := counted kind c.state } else c
  | _, _ => c

/-- A line is heard. -/
def hear (r : Record) (c : Controller) : Controller :=
  match Message.classify r.msg with
  | .done => c
  | .deteriorate => c.request .deteriorate r.time
  | .improve => c.request .improve r.time
  | .started =>
    match Message.startedEndpoint? Config.standard r.msg with
    | none => c
    | some endpoint => { c with state := c.state.bind endpoint r.mote }
  | .other =>
    { c with
      state := { c.state with logged := c.state.logged + 1 }
      lines := c.lines.push (r.msg ++ "\n") }

end Controller

section Shows

variable {κ μ : Type} {w : World κ μ} {h : Nat} {host : Host κ} {timeout : Int} {c c' : Controller}

/-- A host with an attached link-fault script in a world with the usual parameters. -/
structure Shows (h : Nat) (timeout : Int) (c : Controller) (w : World κ μ) : Prop where
  standard : w.config = Config.standard
  medium : w.medium = c.medium
  host : ∃ host, w.hosts[h]? = some host ∧ host.script = .linkFault timeout true c.state ∧
    host.log.lines = c.lines

/-- An interrupt that tells of an end of the link that nobody has announced. -/
def Unbound (i : Interrupt) : Prop :=
  ∃ keyword first third, i = .failure (.unboundEndpoint keyword first third)

theorem not_unbound_unwritable : ¬ Unbound (.failure .unwritableInteger) := by
  rintro ⟨keyword, first, third, same⟩
  cases same

/-- What an interrupt leaves of a line: what the line changes, and that is nothing if an end of the link
is missing. -/
def Leaves (h : Nat) (timeout : Int) (c c' : Controller) (i : Interrupt) (w : World κ μ) : Prop :=
  Shows h timeout c' w ∧ (Unbound i → c' = c)

theorem Shows.leaves_unwritable (shows : Shows h timeout c' w) :
    Leaves h timeout c c' (.failure .unwritableInteger) w :=
  ⟨shows, fun unbound => absurd unbound not_unbound_unwritable⟩

theorem Shows.setHost (shows : Shows h timeout c w) (present : w.hosts[h]? = some host)
    (host' : Host κ) (script : host'.script = .linkFault timeout true c'.state)
    (lines : host'.log.lines = c'.lines) (medium : w.medium = c'.medium) :
    Shows h timeout c' (w.setHost h host') :=
  ⟨shows.standard, medium, host', World.hosts_setHost present host', script, lines⟩

theorem Shows.seenBy (shows : Shows h timeout c w) (o : Observer) : Shows h timeout c (w.seenBy o) :=
  ⟨shows.standard, shows.medium, shows.host⟩

/-- An operation on the log that adds no line. -/
theorem Shows.onLog (shows : Shows h timeout c' w) {m : LogM Unit}
    (keeps : ∀ log o, (∃ log' o', m (log, o) = .ok () (log', o') ∧ log'.lines = log.lines) ∨
      ∃ log' o', m (log, o) = .error .unwritableInteger (log', o') ∧ log'.lines = log.lines) :
    Kept (Shows h timeout c') (Leaves h timeout c c') (Host.onLog h m w) := by
  obtain ⟨host, present, script, lines⟩ := shows.host
  have put (log : TestLog) (o : Observer) (same : log.lines = host.log.lines) :
      Shows h timeout c' ((w.setHost h { host with log }).seenBy o) :=
    (shows.setHost present { host with log } script (same.trans lines) shows.medium).seenBy o
  rcases keeps host.log w.observer with ⟨log, o, ran, same⟩ | ⟨log, o, ran, same⟩
  · rw [Host.onLog_apply present ran]
    exact put log o same
  · rw [Host.onLog_error present ran]
    exact (put log o same).leaves_unwritable

theorem Shows.pass (shows : Shows h timeout c' w) :
    Kept (Shows h timeout c') (Leaves h timeout c c') (Host.pass h w) := by
  refine shows.onLog (m := TestLog.pass w.now) fun log o => ?_
  rcases TestLog.pass_cases w.now log o with ⟨o', passed⟩ | ⟨-, unwritten⟩
  · exact .inl ⟨_, _, passed, rfl⟩
  · exact .inr ⟨_, _, unwritten, rfl⟩

theorem Shows.failTest (shows : Shows h timeout c' w) (reason : String) :
    Kept (Shows h timeout c') (Leaves h timeout c c') (Host.failTest h reason w) := by
  refine shows.onLog (m := TestLog.fail w.now reason) fun log o => ?_
  have same : (log.failed reason).lines = log.lines := by
    unfold TestLog.failed
    split <;> rfl
  obtain ⟨o', failed | ⟨-, unwritten⟩⟩ := TestLog.fail_cases w.now reason log o
  · exact .inl ⟨_, _, failed, same⟩
  · exact .inr ⟨_, _, unwritten, same⟩

/-- The end of a test leaves what its lines have made of the medium, the script and the log. -/
theorem closes_shows {I : World κ μ → Prop} {P : Prop} (shown : ∀ w, I w ↔ Shows h timeout c' w ∧ P) :
    Closes I (Leaves h timeout c c') h where
  prints text w kept := by
    obtain ⟨shows, rest⟩ := (shown w).mp kept
    exact (shown _).mpr ⟨shows.seenBy _, rest⟩
  change same w kept := by
    obtain ⟨shows, rest⟩ := (shown w).mp kept
    obtain ⟨host, present, script, lines⟩ := shows.host
    obtain ⟨sameScript, sameLog⟩ := same host
    rw [Host.change_apply present]
    exact (shown _).mpr
      ⟨shows.setHost present _ (sameScript.trans script) (sameLog ▸ lines) shows.medium, rest⟩
  failTest reason w kept := by
    obtain ⟨shows, rest⟩ := (shown w).mp kept
    exact (shows.failTest reason).imp (fun _ shows => (shown _).mpr ⟨shows, rest⟩) fun _ _ left => left
  stop w kept := by
    obtain ⟨shows, rest⟩ := (shown w).mp kept
    exact (shown _).mpr ⟨⟨shows.standard, shows.medium, shows.host⟩, rest⟩

theorem closes_shown : Closes (κ := κ) (μ := μ) (Shows h timeout c') (Leaves h timeout c c') h :=
  closes_shows fun _ => (and_iff_left trivial).symm

theorem bears_shown : Bears (κ := κ) (μ := μ) (Shows h timeout c') (Leaves h timeout c c') h where
  prints := closes_shown.prints
  change same := closes_shown.change fun host => ⟨(same host).1, (same host).2.1⟩
  finish := closes_shown.finish

/-- A failure of a part of the script leaves what the part has made of them. -/
theorem guarded_shown {m : SimM κ μ Bool}
    (part : Kept (Shows h timeout c') (Leaves h timeout c c') (m w)) :
    Kept (Shows h timeout c') (Leaves h timeout c c') (Host.guarded h m w) :=
  part.guarded (fun _ left => left) fun f w' left =>
    (closes_shows fun _ => Iff.rfl).handleFailure f w' left

theorem Shows.changeLinkFault (shows : Shows h timeout c w) (f : LinkFault → LinkFault) :
    ∃ w', Host.changeLinkFault h f w = .ok () w' ∧ Shows h timeout { c with state := f c.state } w' := by
  obtain ⟨host, present, script, lines⟩ := shows.host
  exact ⟨_, Host.changeLinkFault_apply present script f,
    shows.setHost present _ rfl lines shows.medium⟩

/-- A line that asks for a change is handled. -/
theorem Shows.request (shows : Shows h timeout c w) (kind : Change) (keyword : String) :
    Kept (Shows h timeout (c.request kind w.now)) (Leaves h timeout c (c.request kind w.now))
      ((do let (a, b) ← ofExcept (c.state.endpoints keyword)
           Simulation.changeLink kind a b
           Host.changeLinkFault h (Controller.counted kind)
           return false : SimM κ μ Bool) w) := by
  unfold LinkFault.endpoints Controller.request
  cases first : c.state.first with
  | none =>
    simp only [ofExcept_error_bind_apply]
    exact ⟨shows, fun _ => rfl⟩
  | some a =>
  cases third : c.state.third with
  | none =>
    simp only [ofExcept_error_bind_apply]
    exact ⟨shows, fun _ => rfl⟩
  | some b =>
    simp only [ofExcept_ok_bind_apply]
    have made := Medium.change_standard shows.standard kind a b
    have noted (o : Observer) :
        Shows h timeout { c with medium := c.medium.changed w.now kind a b }
          { w with medium := w.medium.changed w.now kind a b, observer := o } :=
      ⟨shows.standard, congrArg (·.changed w.now kind a b) shows.medium, shows.host⟩
    split
    · rename_i told
      obtain ⟨o, changed⟩ := changeLink_told made told
      obtain ⟨w', counted, kept⟩ := (noted o).changeLinkFault (Controller.counted kind)
      rw [bind_ok changed, bind_ok counted]
      exact kept
    · rename_i untold
      rw [bind_error (changeLink_untold made (Bool.eq_false_iff.mpr untold))]
      exact (noted w.observer).leaves_unwritable

/-- The script handles a line. -/
theorem Shows.handleLinkFault (shows : Shows h timeout c w) (mote : Int) (msg : String) :
    Kept (Shows h timeout (c.hear ⟨w.now, mote, msg⟩)) (Leaves h timeout c (c.hear ⟨w.now, mote, msg⟩))
      (Host.handleLinkFault h true c.state mote msg w) := by
  unfold Host.handleLinkFault Controller.hear
  rw [get_bind_apply, shows.standard]
  cases Message.classify msg with
  | done => exact shows.pass.bind fun _ _ kept => kept
  | deteriorate => exact shows.request .deteriorate _
  | improve => exact shows.request .improve _
  | started =>
    cases Message.startedEndpoint? Config.standard msg with
    | none => exact shows
    | some endpoint =>
      obtain ⟨w', bound, kept⟩ := shows.changeLinkFault (·.bind endpoint mote)
      simp only
      rw [bind_ok bound]
      exact kept
  | other =>
    obtain ⟨host, present, script, lines⟩ := shows.host
    obtain ⟨o, wrote⟩ := Host.write_apply present (msg ++ "\n") mote
    have written : Shows h timeout { c with lines := c.lines.push (msg ++ "\n") }
        (w.setHost h { host with log := host.log.added (msg ++ "\n") }) :=
      shows.setHost present _ script (congrArg (·.push (msg ++ "\n")) lines) shows.medium
    obtain ⟨w', logged, kept⟩ :=
      (written.seenBy o).changeLinkFault fun s => { s with logged := s.logged + 1 }
    simp only [Bool.not_true, Bool.false_eq_true, ↓reduceIte]
    rw [bind_ok wrote, bind_ok logged]
    exact kept

/-- An unfinished host hears a line, whatever comes of it. -/
theorem Shows.hearLine (act : Behaviour κ μ) (shows : Shows h timeout c w)
    (listening : w.hosts[h]?.map (·.finished) = some false) (mote : Int) (msg : String) :
    Kept (Shows h timeout (c.hear ⟨w.now, mote, msg⟩)) (Leaves h timeout c (c.hear ⟨w.now, mote, msg⟩))
      (Host.hearLine act h mote msg w) := by
  obtain ⟨host, present, script, lines⟩ := shows.host
  have there := World.hosts_setHost present (host.facing mote msg)
  have facing : Shows h timeout c (w.setHost h (host.facing mote msg)) :=
    shows.setHost present _ script lines shows.medium
  refine Kept.hearLine present (by simpa [present] using listening) (guarded_shown ?_)
    closes_shown.finish
  rw [Host.handle_linkFault act there script]
  exact facing.handleLinkFault mote msg

theorem Shows.failed (shows : Shows h timeout c w) (f : Failure) :
    Leaves h timeout c c (.failure f) w := ⟨shows, fun _ => rfl⟩

/-- The deadline of the script. -/
theorem Shows.expire (act : Behaviour κ μ) (shows : Shows h timeout c w) (after : Int) :
    Kept (Shows h timeout c) (Leaves h timeout c c) (Host.expire act h after .builtIn w) := by
  have acts : Keeps (Shows h timeout c) (Leaves h timeout c c) (Host.deadlineAction act h .builtIn) :=
    Keeps.deadlineAction Shows.failed nofun closes_shown.failTest fun _ shows => shows.pass
  exact bears_shown.expire Shows.failed (fun w shows => guarded_shown (acts w shows)) after w shows

/-- The start of the script. -/
theorem shows_start (act : Behaviour κ μ) (standard : w.config = Config.standard)
    (present : w.hosts[h]? = some host) {attached : Bool} {state : LinkFault}
    (script : host.script = .linkFault timeout attached state) :
    Kept (Shows h timeout ⟨w.medium, state, host.log.lines⟩)
      (Leaves h timeout ⟨w.medium, state, host.log.lines⟩ ⟨w.medium, state, host.log.lines⟩)
      (Host.start act h w) := by
  have taken := Host.change_apply present fun host =>
    { host with script := .linkFault timeout true state }
  have shows : Shows h timeout ⟨w.medium, state, host.log.lines⟩
      (w.setHost h { host with script := .linkFault timeout true state }) :=
    ⟨standard, rfl, _, World.hosts_setHost present _, rfl, rfl⟩
  have registers {c : Controller} : Keeps (Shows h timeout c) (Leaves h timeout c c)
      (do Host.registerDeadline h timeout .builtIn
          return false : SimM κ μ Bool) :=
    (bears_shown.registerDeadline Shows.failed
      (Keeps.schedule Shows.failed fun shows _ => ⟨shows.standard, shows.medium, shows.host⟩)).bind
        fun _ => Keeps.pure _
  refine Kept.bind (guarded_shown ?_) fun _ _ shows => shows
  unfold Host.setup
  rw [get_bind_apply]
  simp only [present, script]
  rw [bind_ok taken]
  exact registers _ shows

end Shows

/-- The script, the log and the medium tell the same of the lines `past`. -/
structure Agrees (past : List Record) (c : Controller) : Prop where
  first : c.state.first = announcer? past .first
  third : c.state.third = announcer? past .third
  mutations : c.medium.mutations.toList = (stages past).filterMap Stage.change?
  deteriorations : c.state.deteriorations =
    c.medium.mutations.toList.countP fun e => e.change = .deteriorate
  improvements : c.state.improvements = c.medium.mutations.toList.countP fun e => e.change = .improve
  degraded : c.state.degraded = true ↔ c.medium.mutations.back?.map (·.change) = some .deteriorate
  marked : ∀ e, c.medium.mutations.back? = some e →
    (c.medium.link? e.first e.second).map (·.deteriorated) = some c.state.degraded
  lines : c.lines.toList = (stages past).filterMap Stage.copy?
  logged : c.state.logged = c.lines.size

section Lines

variable {past : List Record} {r : Record} {c : Controller}

/-- A line that changes the ends of the link at most. -/
theorem Agrees.bound (agrees : Agrees past c) {state : LinkFault}
    (first : state.first = announcer? (past ++ [r]) .first)
    (third : state.third = announcer? (past ++ [r]) .third)
    (same : state = { c.state with first := state.first, third := state.third })
    (unchanging : (Stage.mk past r).change? = none) (uncopied : (Stage.mk past r).copy? = none) :
    Agrees (past ++ [r]) { c with state } := by
  rw [same] at first third ⊢
  refine ⟨first, third, ?_, agrees.deteriorations, agrees.improvements, agrees.degraded,
    agrees.marked, ?_, agrees.logged⟩
  · rw [filterMap_stages_append, unchanging, Option.toList_none, List.append_nil, agrees.mutations]
  · rw [filterMap_stages_append, uncopied, Option.toList_none, List.append_nil, agrees.lines]

theorem Agrees.still (agrees : Agrees past c) (unannounced : announced? r = none)
    (unchanging : (Stage.mk past r).change? = none) (uncopied : (Stage.mk past r).copy? = none) :
    Agrees (past ++ [r]) c :=
  agrees.bound (agrees.first.trans (announcer?_unannounced unannounced _).symm)
    (agrees.third.trans (announcer?_unannounced unannounced _).symm) rfl unchanging uncopied

/-- A line that asks for a change. -/
theorem Agrees.request (agrees : Agrees past c) {kind : Change} (asked : requested? r = some kind)
    (unannounced : announced? r = none) (uncopied : (Stage.mk past r).copy? = none)
    (told : ∀ e ∈ (Stage.mk past r).change?, isTold e = true) :
    Agrees (past ++ [r]) (c.request kind r.time) := by
  unfold Controller.request
  split
  · rename_i a b first third
    have change : (Stage.mk past r).change? = some ⟨r.time, kind, a, b⟩ := by
      simp only [Stage.change?, asked, ← agrees.first, ← agrees.third, first, third]
    have noted : (c.medium.changed r.time kind a b).mutations.toList =
        c.medium.mutations.toList ++ [⟨r.time, kind, a, b⟩] := Array.toList_push
    simp only
    rw [if_pos (told _ change)]
    refine ⟨?_, ?_, ?_, ?_, ?_, ?_, ?_, ?_, ?_⟩
    · rw [announcer?_unannounced unannounced, ← agrees.first, Controller.first_counted]
    · rw [announcer?_unannounced unannounced, ← agrees.third, Controller.third_counted]
    · rw [filterMap_stages_append, change, ← agrees.mutations]
      exact Array.toList_push
    · rw [noted, List.countP_append, ← agrees.deteriorations]
      cases kind <;> rfl
    · rw [noted, List.countP_append, ← agrees.improvements]
      cases kind <;> rfl
    · rw [Controller.degraded_counted]
      simp [Medium.changed]
    · intro e last
      obtain rfl : ⟨r.time, kind, a, b⟩ = e := by simpa [Medium.changed] using last
      have changed : (c.medium.changed r.time kind a b).link? a b =
          some (kind.apply Config.standard ((c.medium.link? a b).getD Medium.usualLink)) :=
        Medium.link?_setLink_self ..
      rw [changed, Controller.degraded_counted]
      cases kind <;> rfl
    · rw [filterMap_stages_append, uncopied, Option.toList_none, List.append_nil, agrees.lines]
    · rw [Controller.logged_counted, agrees.logged]
  · rename_i missing
    refine agrees.still unannounced ?_ uncopied
    simp only [Stage.change?, asked, ← agrees.first, ← agrees.third]
    split
    · rename_i kind' a b same first third
      exact (missing a b first third).elim
    · rfl

/-- A line that announces an end of the link, or would. -/
theorem Agrees.started (agrees : Agrees past c) (means : Message.classify r.msg = .started) :
    Agrees (past ++ [r]) (c.hear r) := by
  have unchanging : (Stage.mk past r).change? = none := by simp [Stage.change?, requested?, means]
  have uncopied : (Stage.mk past r).copy? = none := by simp [Stage.copy?, means]
  have announced : announced? r = Message.startedEndpoint? Config.standard r.msg := by
    simp [announced?, means]
  simp only [Controller.hear, means]
  cases found : Message.startedEndpoint? Config.standard r.msg with
  | none => exact agrees.still (announced.trans found) unchanging uncopied
  | some endpoint =>
    refine agrees.bound ?_ ?_ ?_ unchanging uncopied
    · rw [announcer?_append, announced.trans found, ← agrees.first]
      cases endpoint <;> rfl
    · rw [announcer?_append, announced.trans found, ← agrees.third]
      cases endpoint <;> rfl
    · cases endpoint <;> rfl

/-- A line that is copied to the log. -/
theorem Agrees.other (agrees : Agrees past c) (means : Message.classify r.msg = .other) :
    Agrees (past ++ [r]) (c.hear r) := by
  have unannounced : announced? r = none := by simp [announced?, means]
  have unchanging : (Stage.mk past r).change? = none := by simp [Stage.change?, requested?, means]
  have copied : (Stage.mk past r).copy? = some (r.msg ++ "\n") := by simp [Stage.copy?, means]
  simp only [Controller.hear, means]
  refine ⟨?_, ?_, ?_, agrees.deteriorations, agrees.improvements, agrees.degraded, agrees.marked, ?_, ?_⟩
  · rw [announcer?_unannounced unannounced, ← agrees.first]
  · rw [announcer?_unannounced unannounced, ← agrees.third]
  · rw [filterMap_stages_append, unchanging, Option.toList_none, List.append_nil, agrees.mutations]
  · rw [filterMap_stages_append, copied, ← agrees.lines]
    exact Array.toList_push
  · rw [agrees.logged, Array.size_push]

/-- What one more line does keeps the agreement, if a change that it makes can be told. -/
theorem Agrees.hear (agrees : Agrees past c)
    (told : ∀ e ∈ (Stage.mk past r).change?, isTold e = true) :
    Agrees (past ++ [r]) (c.hear r) := by
  cases means : Message.classify r.msg with
  | done =>
    simp only [Controller.hear, means]
    exact agrees.still (by simp [announced?, means]) (by simp [Stage.change?, requested?, means])
      (by simp [Stage.copy?, means])
  | deteriorate =>
    simp only [Controller.hear, means]
    exact agrees.request (by simp [requested?, means]) (by simp [announced?, means])
      (by simp [Stage.copy?, means]) told
  | improve =>
    simp only [Controller.hear, means]
    exact agrees.request (by simp [requested?, means]) (by simp [announced?, means])
      (by simp [Stage.copy?, means]) told
  | started => exact agrees.started means
  | other => exact agrees.other means

end Lines

section Session

variable {κ μ : Type} {act : Behaviour κ μ} {h : Nat} {timeout : Int} {past : List Record}
variable {w w' : World κ μ} {c : Controller}

/-- What may come between the lines of a test: all but changes of links, and operations on the script and
the lines of its log. -/
structure Undisturbed (h : Nat) (w w' : World κ μ) : Prop where
  config : w'.config = w.config
  mutations : w'.medium.mutations = w.medium.mutations
  links : ∀ a b link, w.medium.link? a b = some link → w'.medium.link? a b = some link
  host : ∀ host, w.hosts[h]? = some host →
    ∃ host', w'.hosts[h]? = some host' ∧ host'.script = host.script ∧ host'.log.lines = host.log.lines

/-- A link-fault test of a host on a medium that nobody else changes, with the lines that its script has
handled. The host hears lines of any motes, those after its end in vain; its deadline may pass. A change
that a line makes has to be one that can be told. -/
inductive Attended (act : Behaviour κ μ) (h : Nat) (timeout : Int) : List Record → World κ μ → Prop where
  | started {w w' : World κ μ} {host : Host κ} {attached : Bool}
      (standard : w.config = Config.standard) (unchanged : w.medium.mutations = #[])
      (present : w.hosts[h]? = some host) (script : host.script = .linkFault timeout attached {})
      (blank : host.log.lines = #[]) (starts : Host.start act h w = .ok () w') :
      Attended act h timeout [] w'
  | heard {past : List Record} {w : World κ μ} (attended : Attended act h timeout past w)
      (listening : w.hosts[h]?.map (·.finished) = some false) (mote : Int) (msg : String)
      (told : ∀ e ∈ (Stage.mk past ⟨w.now, mote, msg⟩).change?, isTold e = true) :
      Attended act h timeout (past ++ [⟨w.now, mote, msg⟩]) (final (Host.hearLine act h mote msg) w)
  | ignored {past : List Record} {w : World κ μ} (attended : Attended act h timeout past w)
      (finished : w.hosts[h]?.map (·.finished) = some true) (mote : Int) (msg : String) :
      Attended act h timeout past (final (Host.hearLine act h mote msg) w)
  | expired {past : List Record} {w : World κ μ} (attended : Attended act h timeout past w) :
      Attended act h timeout past (final (Host.expire act h timeout .builtIn) w)
  | meanwhile {past : List Record} {w w' : World κ μ} (attended : Attended act h timeout past w)
      (undisturbed : Undisturbed h w w') : Attended act h timeout past w'

theorem Shows.meanwhile (shows : Shows h timeout c w) (agrees : Agrees past c)
    (undisturbed : Undisturbed h w w') :
    Shows h timeout ⟨w'.medium, c.state, c.lines⟩ w' ∧ Agrees past ⟨w'.medium, c.state, c.lines⟩ := by
  have mutations : w'.medium.mutations = c.medium.mutations :=
    undisturbed.mutations.trans (congrArg (·.mutations) shows.medium)
  obtain ⟨host, present, script, lines⟩ := shows.host
  obtain ⟨host', present', sameScript, sameLines⟩ := undisturbed.host host present
  refine ⟨⟨undisturbed.config.trans shows.standard, rfl, host', present', sameScript.trans script,
    sameLines.trans lines⟩, agrees.first, agrees.third, ?_, ?_, ?_, ?_, fun e last => ?_, agrees.lines,
    agrees.logged⟩
  · rw [mutations, agrees.mutations]
  · rw [mutations, agrees.deteriorations]
  · rw [mutations, agrees.improvements]
  · rw [mutations, agrees.degraded]
  · rw [mutations] at last
    obtain ⟨link, there, marked⟩ := Option.map_eq_some_iff.mp (agrees.marked e last)
    rw [← shows.medium] at there
    rw [undisturbed.links e.first e.second link there, Option.map_some, marked]

/-- What is left of an operation, whether it is interrupted or not. -/
theorem shows_final {c c' : Controller} {m : SimM κ μ Unit}
    (kept : Kept (Shows h timeout c') (Leaves h timeout c c') (m w)) : Shows h timeout c' (final m w) :=
  (kept.imp (fun _ kept => kept) fun _ _ left => left.1).final

/-- After each line the agreement stands. -/
theorem Attended.agrees (attended : Attended act h timeout past w) :
    ∃ c, Shows h timeout c w ∧ Agrees past c := by
  induction attended with
  | @started w w' host attached standard unchanged present script blank starts =>
    have shows := shows_start act standard present script
    rw [starts] at shows
    refine ⟨_, shows, rfl, rfl, ?_, ?_, ?_, ?_, ?_, ?_, ?_⟩
    all_goals simp [unchanged, blank, stages]
  | heard _ listening mote msg told ih =>
    obtain ⟨c, shows, agrees⟩ := ih
    exact ⟨_, shows_final (shows.hearLine act listening mote msg), agrees.hear told⟩
  | ignored _ finished mote msg ih =>
    obtain ⟨c, shows, agrees⟩ := ih
    obtain ⟨host, present, -⟩ := shows.host
    have ran : Host.hearLine act h mote msg _ = .ok () _ :=
      Host.hearLine_finished present (by simpa [present] using finished) mote msg
    rw [final_ok ran]
    exact ⟨c, shows, agrees⟩
  | expired _ ih =>
    obtain ⟨c, shows, agrees⟩ := ih
    exact ⟨c, shows_final (shows.expire act timeout), agrees⟩
  | meanwhile _ undisturbed ih =>
    obtain ⟨c, shows, agrees⟩ := ih
    exact ⟨_, shows.meanwhile agrees undisturbed⟩

/-- At each moment of a link-fault test its script, its log and the medium tell the same of the lines so
far, and a line that fails for want of an end of the link changes none of them. -/
theorem link_fault_agreement (attended : Attended act h timeout past w) :
    ∃ c, Shows h timeout c w ∧ Agrees past c ∧
      ∀ mote msg i w', Host.hearLine act h mote msg w = .error i w' → Unbound i →
        Shows h timeout c w' := by
  obtain ⟨c, shows, agrees⟩ := attended.agrees
  refine ⟨c, shows, agrees, fun mote msg i w' failed unbound => ?_⟩
  obtain ⟨host, present, -⟩ := shows.host
  cases finished : host.finished with
  | true =>
    have ran : Host.hearLine act h mote msg w = .ok () w :=
      Host.hearLine_finished present finished mote msg
    cases ran.symm.trans failed
  | false =>
    have kept := shows.hearLine act (by simp [present, finished]) mote msg
    rw [failed] at kept
    exact kept.2 unbound ▸ kept.1

end Session

section Runs

/-- A link-fault script with a deadline at 1000 is attached; there is no users' code. -/
def attachedTest : World Unit Unit :=
  final (Host.attach (.linkFault 1000 false {}) {}) (World.plain ())

/-- The script is started. -/
def startedTest : World Unit Unit := final (Host.start (fun _ _ => pure false) 0) attachedTest

/-- The world once the script hears a line. -/
def afterLine (mote : Int) (msg : String) (w : World Unit Unit) : World Unit Unit :=
  final (Host.hearLine (fun _ _ => pure false) 0 mote msg) w

/-- The state of a link-fault script. -/
def linkFault? {κ : Type} : Script κ → Option LinkFault
  | .linkFault _ _ state => some state
  | _ => none

/-- The ends of the link start, it is degraded, a line is copied, the deadline passes, and a further line
comes too late. Without the ends the first request fails. -/
theorem link_fault_agreement_degraded :
    (∃ (past : List Record) (w : World Unit Unit) (c : Controller),
      Attended (fun _ _ => pure false) 0 1000 past w ∧
        past = [⟨0, 1, "1 started"⟩, ⟨0, 3, "3 started"⟩, ⟨0, 3, "1 third"⟩, ⟨0, 2, "hello"⟩] ∧
        Shows 0 1000 c w ∧ Agrees past c ∧
        c.medium.mutations.toList = [⟨0, .deteriorate, 1, 3⟩] ∧ c.lines.toList = ["hello\n"]) ∧
      ∃ c, Shows 0 1000 c startedTest ∧ Shows 0 1000 c (afterLine 1 "1 third" startedTest) := by
  have start : Attended (fun _ _ => pure false) 0 1000 [] startedTest :=
    .started (w := attachedTest) rfl rfl rfl rfl rfl rfl
  constructor
  · have first := start.heard (by decide +kernel) 1 "1 started" (by decide +kernel)
    have third := first.heard (by decide +kernel) 3 "3 started" (by decide +kernel)
    have degraded := third.heard (by decide +kernel) 3 "1 third" (by decide +kernel)
    have copied := degraded.heard (by decide +kernel) 2 "hello" (by decide +kernel)
    have late := copied.expired.ignored (by decide +kernel) 3 "2 thirds"
    obtain ⟨c, shows, agrees, -⟩ := link_fault_agreement late
    refine ⟨_, _, c, late, by decide +kernel, shows, agrees, ?_, ?_⟩
    · rw [agrees.mutations]
      decide +kernel
    · rw [agrees.lines]
      decide +kernel
  · obtain ⟨c, shows, -, untouched⟩ := link_fault_agreement start
    have raised : failure? (Host.hearLine (fun _ _ => pure false) 0 1 "1 third") startedTest =
        some (.unboundEndpoint "1 third" none none) := by decide +kernel
    refine ⟨c, shows, ?_⟩
    unfold failure? at raised
    split at raised
    · rename_i f w' failed
      cases raised
      rw [afterLine, final_error failed]
      exact untouched 1 "1 third" _ w' failed ⟨_, _, _, rfl⟩
    · cases raised

/-- An end of the link whose identifier is too long to be written: a change is made and noted, and then
neither counted nor remembered, and the next line is not copied. -/
theorem overlong_end_disagrees :
    let overlong : Int := ((10 ^ Numeral.digitLimit : Nat) : Int)
    let w := startedTest |> afterLine overlong "1 started" |> afterLine 3 "3 started" |>
      afterLine 3 "1 third" |> afterLine 2 "hello"
    w.medium.mutations.toList = [⟨0, .deteriorate, overlong, 3⟩] ∧
      (w.medium.link? overlong 3).map (·.deteriorated) = some true ∧
      w.hosts[0]?.bind (fun host => linkFault? host.script) =
        some { first := some overlong, third := some 3, degraded := false, deteriorations := 0 } ∧
      Message.classify "hello" = .other ∧ w.hosts[0]?.map (·.log.lines) = some #[] := by
  decide +kernel

end Runs

end MoteTrial.Session

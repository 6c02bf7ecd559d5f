import MoteTrial.Proofs.Client.Lone
import MoteTrial.Proofs.Firmware.Turns
import MoteTrial.Proofs.Schedule.Pause

/-! # The protocol of a client

A client that is installed once may have its mote booted any number of times, so that several of its
timers run. Each expiry of one is a turn, whatever is booted, logged and received meanwhile;
`client_protocol` draws from this what the client has done in every state between two events. It is about
the simulation as it is: notes of the calls of the firmware stand in a second run of the same moves, which
is that simulation once its diary is forgotten. A client counts the receptions that have returned; that of
a counter that is too long to be written does not.
-/

namespace MoteTrial.Protocol

open SimM Simulation

variable {κ μ : Type}

section Moves

/-- What may happen between two states in which no event is being fired; `depth` bounds how deep users'
code sets off other code. -/
inductive Move (κ μ : Type) where
  /-- Users' code is carried out from outside. -/
  | act (p : Program κ μ) (depth : Nat)
  /-- The next event is fired. -/
  | fire (depth : Nat)
  /-- A bounded run comes to its bound. -/
  | wait (now : Int)

variable (code : κ → Cue → Program κ μ)

/-- The world after a move. What was done before an interrupt stays done. -/
def Move.make : Move κ μ → World κ μ → World κ μ
  | .act p depth, w => final (p.exec (behaviour code depth)) w
  | .fire depth, w => final (step (Simulation.fire (behaviour code depth))) w
  | .wait now, w => w.atTime now

/-- The world after a move that is made with notes. -/
def Move.makeNoting : Move κ μ → World κ (Diary μ) → World κ (Diary μ)
  | .act p depth, r => final (p.noting.exec (behaviourNoting code depth)) r
  | .fire depth, r => final (step (fireNoting (behaviourNoting code depth))) r
  | .wait now, r => r.atTime now

/-- The world after some moves. -/
def play (moves : List (Move κ μ)) (w : World κ μ) : World κ μ :=
  moves.foldl (fun w move => move.make code w) w

/-- The world after some moves that are made with notes. -/
def playNoting (moves : List (Move κ μ)) (r : World κ (Diary μ)) : World κ (Diary μ) :=
  moves.foldl (fun r move => move.makeNoting code r) r

theorem forget_makeNoting (move : Move κ μ) (r : World κ (Diary μ)) :
    forget (move.makeNoting code r) = move.make code (forget r) := by
  cases move with
  | act p depth =>
    exact ((forget_noting (forget_behaviourNoting code depth) p).final r).symm
  | fire depth =>
    have fires := forget_fireNoting (forget_behaviourNoting code depth)
    exact ((Mirrors.step fires).final r).symm
  | wait now => rfl

/-- Moves that are made with notes are the moves that are made, once the diary is forgotten. -/
theorem forget_playNoting (moves : List (Move κ μ)) (r : World κ (Diary μ)) :
    forget (playNoting code moves r) = play code moves (forget r) := by
  induction moves generalizing r with
  | nil => rfl
  | cons move rest ih =>
    rw [playNoting, play, List.foldl_cons, List.foldl_cons, ← forget_makeNoting]
    exact ih (move.makeNoting code r)

end Moves

/-- The client that was installed has come by acts to where it is, and they are in order unless a report
was not heard; a boot has set each of its timers, those that are pending and those with which it reported
its end. -/
def Orderly (config : Config) (id : Int) (slot : Nat) (c₀ : Client) (r : World κ (Diary μ)) : Prop :=
  ∃ c acts, Stays config id slot c acts (acts.count .done) r ∧
    ((∀ report, .unheard report ∉ acts) → Ledger c acts) ∧
    c.route = c₀.route ∧ c.limit = c₀.limit ∧ c.reports = c₀.reports

section Play

variable {code : κ → Cue → Program κ μ} {config : Config} {id : Int} {slot : Nat} {c₀ : Client}
  {act : Behaviour κ (Diary μ)} {r : World κ (Diary μ)}

theorem upholds_orderly {α : Type} {m : SimM κ (Diary μ) α}
    (upholds : ∀ c acts spent, Upholds (Stays config id slot c acts spent) m) :
    Upholds (Orderly config id slot c₀) m := by
  rintro r ⟨c, acts, stays, ordered⟩
  exact (upholds c acts _ r stays).imp (fun _ stays => ⟨c, acts, stays, ordered⟩)
    fun _ _ stays => ⟨c, acts, stays, ordered⟩

theorem Turn.same {c c' : Client} {new : List Act} (turn : Turn c new c') :
    c'.route = c.route ∧ c'.limit = c.limit ∧ c'.reports = c.reports := by
  cases turn with
  | ends all => exact ⟨rfl, rfl, rfl⟩
  | sends more heard => exact ⟨sender_route c heard, sender_limit c heard, sender_reports c heard⟩
  | breaks_off report => exact ⟨rfl, rfl, rfl⟩

/-- After a turn, the acts of the client are in order again. -/
theorem Turned.orderly {c : Client} {acts : List Act} (turned : Turned config id slot c acts r)
    (ledger : (∀ report, .unheard report ∉ acts) → Ledger c acts)
    (same : c.route = c₀.route ∧ c.limit = c₀.limit ∧ c.reports = c₀.reports) :
    Orderly config id slot c₀ r := by
  obtain ⟨c', new, turn, stays⟩ := turned
  obtain ⟨route, limit, reports⟩ := turn.same
  refine ⟨c', acts ++ new, stays, ?_, ?_⟩
  · intro heard
    have before (report : String) : .unheard report ∉ acts :=
      fun member => heard report (List.mem_append_left _ member)
    exact (ledger before).turn turn fun report member => heard report (List.mem_append_right _ member)
  · rwa [route, limit, reports]

/-- The acts of the client stay in order as the next event is fired, whether it fails or not. -/
theorem step_orderly (passive : Passive config id slot act) :
    Upholds (Orderly config id slot c₀) (step (fireNoting act)) := by
  intro r orderly
  cases running : r.scheduler.stopped with
  | true =>
    rw [step_stopped running]
    exact orderly
  | false =>
    cases next : r.scheduler.next? with
    | none =>
      rw [step_idle next]
      exact orderly
    | some found =>
      obtain ⟨a, s⟩ := found
      obtain ⟨c, acts, stays, ledger, same⟩ := orderly
      have pending := (Scheduler.takes_of_next? next).pending
      have taken : Stays config id slot c acts
          (acts.count .done + if isTimerOf id slot a.event then 1 else 0)
          { r with scheduler := s } := by
        refine ⟨stays.parameters, stays.client, stays.calls, ?_⟩
        have bound := stays.timers
        rw [pending, timers, List.countP_cons] at bound
        unfold timers
        change _ ≤ r.memory.boots id slot
        dsimp only
        omega
      have left : Leaves (fun _ => Orderly config id slot c₀) (Orderly config id slot c₀)
          (fireNoting act a.event { r with scheduler := s }) := by
        cases own : isTimerOf id slot a.event with
        | true =>
          rw [own, if_pos rfl] at taken
          rw [isTimerOf_iff.mp own]
          exact (tick_turns passive taken).imp (fun _ _ turned => turned.orderly ledger same)
            fun _ turned => turned.orderly ledger same
        | false =>
          rw [own, if_neg Bool.false_ne_true] at taken
          exact (fire_stays passive own _ taken).leaves.imp
            (fun _ _ stays => ⟨c, acts, stays, ledger, same⟩)
            fun _ stays => ⟨c, acts, stays, ledger, same⟩
      cases fired : fireNoting act a.event { r with scheduler := s } with
      | ok _ r' =>
        rw [step_ok running next fired]
        rw [fired] at left
        obtain ⟨c, acts, stays, rest⟩ := left
        exact ⟨c, acts, stays.of_same rfl rfl rfl rfl, rest⟩
      | error i r' =>
        rw [step_error running next fired]
        rw [fired] at left
        exact left

/-- The acts of the client stay in order as a move is made. -/
theorem make_orderly (move : Move κ μ) (orderly : Orderly config id slot c₀ r) :
    Orderly config id slot c₀ (move.makeNoting code r) := by
  cases move with
  | act p depth =>
    have kept : Upholds (Orderly config id slot c₀) (p.noting.exec (behaviourNoting code depth)) :=
      upholds_orderly fun _ _ _ => Program.noting_passive (behaviourNoting_passive code depth) p
    exact (kept _ orderly).final
  | fire depth => exact (step_orderly (behaviourNoting_passive code depth) _ orderly).final
  | wait now =>
    obtain ⟨c, acts, stays, rest⟩ := orderly
    exact ⟨c, acts, stays.of_same rfl rfl rfl rfl, rest⟩

/-- By induction on the moves. -/
theorem play_orderly (moves : List (Move κ μ)) (orderly : Orderly config id slot c₀ r) :
    Orderly config id slot c₀ (playNoting code moves r) := by
  induction moves generalizing r with
  | nil => exact orderly
  | cons move rest ih => exact ih (make_orderly move orderly)

variable {w w' : World κ μ}

/-- A run is made of such moves, whether it fails or not. -/
theorem play_of_run (depth : Nat) (bound : Option Int) (fuel : Nat) (w : World κ μ) :
    ∃ moves, play code moves w = final (run (Simulation.fire (behaviour code depth)) bound fuel) w := by
  induction fuel generalizing w with
  | zero => exact ⟨[], rfl⟩
  | succ fuel ih =>
    cases running : w.scheduler.stopped with
    | true => exact ⟨[], (final_ok (run_stopped running)).symm⟩
    | false =>
      cases next : w.scheduler.nextDue? with
      | none => exact ⟨[], (final_ok (run_idle next)).symm⟩
      | some due =>
        by_cases later : ∃ limit ∈ bound, limit < due
        · obtain ⟨limit, rfl, later⟩ := later
          exact ⟨[.wait limit], (final_ok (run_paused running next later)).symm⟩
        · have soon : ∀ limit ∈ bound, due ≤ limit := by
            intro limit member
            exact Int.not_lt.mp fun before => later ⟨limit, member, before⟩
          have fires : run (Simulation.fire (behaviour code depth)) bound (fuel + 1) w = _ :=
            run_fires running next soon
          cases stepped : step (Simulation.fire (behaviour code depth)) w with
          | ok more between =>
            obtain ⟨moves, played⟩ := ih between
            have made : (Move.fire depth).make code w = between := final_ok stepped
            refine ⟨.fire depth :: moves, ?_⟩
            rw [play, List.foldl_cons, made, final, fires, bind_ok stepped]
            exact played
          | error i between =>
            refine ⟨[.fire depth], ?_⟩
            rw [final, fires, bind_error stepped]
            exact final_error stepped

/-- Between any two events, however often and whenever its mote has been booted, whatever has been lost
and whichever way has been taken, unless a listener has failed at a report: the calls of the firmware of a
client are acts with which it has tried to send the counters up to its own in order, each has been
received at most once and is accounted for if this returned, its thirds have been reported once each as it
went past them, and its end has been reported after the last counter only, at most once for each boot. -/
theorem client_protocol {route : Route} {limit : Int} {reports : Bool} {moves : List (Move κ μ)}
    (nonneg : 0 ≤ limit) (installed : w.clientAt id slot = some { route, limit, reports })
    (idle : timers id slot w.scheduler.pending = 0)
    (heard : ∀ report, .log report false ∉
      (playNoting code moves (w.remember Diary.blank)).memory.calls id slot) :
    let noted := playNoting code moves (w.remember Diary.blank)
    forget noted = play code moves w ∧
    ∃ c acts, (play code moves w).clientAt id slot = some c ∧
      c.route = route ∧ c.limit = limit ∧ c.reports = reports ∧
      noted.memory.calls id slot = acts.map (Act.call w.config route.server) ∧
      Ledger c acts ∧ (receptions acts).Pairwise (· < ·) ∧
      acts.count .done ≤ noted.memory.boots id slot := by
  intro noted
  have start : Orderly w.config id slot { route, limit, reports } (w.remember Diary.blank) :=
    ⟨_, [], ⟨rfl, installed, rfl, Nat.le_of_eq idle⟩, fun _ => .installed route reports nonneg,
      rfl, rfl, rfl⟩
  have played : forget noted = play code moves w := forget_playNoting code moves _
  obtain ⟨c, acts, stays, orderly, same_route, same_limit, same_reports⟩ := play_orderly moves start
  have client : (forget noted).clientAt id slot = some c := stays.client
  rw [played] at client
  have calls := stays.calls
  rw [same_route] at calls
  have ledger : Ledger c acts := by
    refine orderly fun report member => heard report ?_
    rw [calls]
    exact List.mem_map_of_mem member
  have increasing : (receptions acts).Pairwise (· < ·) :=
    List.Pairwise.sublist ledger.received List.pairwise_lt_range'
  have booted : acts.count .done ≤ noted.memory.boots id slot :=
    Nat.le_trans (Nat.le_add_left ..) stays.timers
  exact ⟨played, c, acts, client, same_route, same_limit, same_reports, calls, ledger, increasing,
    booted⟩

end Play

/-- Code that does nothing. -/
def idle : Unit → Cue → Program Unit Unit := fun _ _ => .answer false

/-- A client with four counters to send, out of reach of its server but for a relay. -/
def afar : Client := { route := ⟨1, some 2⟩, limit := 4 }

/-- The client at mote 3 has just been installed. -/
def installed : World Unit Unit :=
  let fresh : World Unit Unit := World.plain ()
  let whole : Link := ⟨Binary64.ofNat 1, Binary64.ofNat 1, false⟩
  { fresh with
    motes := ((fresh.motes.put 1 ⟨#[.server 0]⟩).put 2 ⟨#[.base]⟩).put 3 ⟨#[.client afar]⟩
    medium := (fresh.medium.setLink 3 2 whole).setLink 2 1 whole }

/-- Its mote is booted, and once more at 500; then all events are fired. -/
def bootedTwice : List (Move Unit Unit) :=
  .act (.scheduleAt 500 ⟨.boot 3, rfl⟩ (.boot 3 (.answer true))) 1 :: List.replicate 7 (.fire 1)

theorem client_protocol_relayed :
    let noted := playNoting idle bootedTwice (installed.remember Diary.blank)
    (0 : Int) ≤ 4 ∧ installed.clientAt 3 0 = some afar ∧
    timers 3 0 installed.scheduler.pending = 0 ∧
    noted.memory.calls 3 0 =
      [.attempt 1, .hand 1 (.number 1) true, .log "1 third" true, .attempt 2,
        .hand 1 (.number 2) true, .log "2 thirds" true, .attempt 3, .hand 1 (.number 3) true,
        .attempt 4, .hand 1 (.number 4) true, .log "done" true, .log "done" true] ∧
    (∀ report, .log report false ∉ noted.memory.calls 3 0) ∧
    forget noted = play idle bootedTwice installed ∧
    ∃ c acts, (play idle bootedTwice installed).clientAt 3 0 = some c ∧
      c.route = ⟨1, some 2⟩ ∧ c.limit = 4 ∧ c.reports = true ∧
      noted.memory.calls 3 0 = acts.map (Act.call installed.config 1) ∧
      Ledger c acts ∧ (receptions acts).Pairwise (· < ·) ∧
      acts.count .done ≤ noted.memory.boots 3 0 := by
  intro noted
  have unset : timers 3 0 installed.scheduler.pending = 0 := rfl
  have calls : noted.memory.calls 3 0 =
      [.attempt 1, .hand 1 (.number 1) true, .log "1 third" true, .attempt 2,
        .hand 1 (.number 2) true, .log "2 thirds" true, .attempt 3, .hand 1 (.number 3) true,
        .attempt 4, .hand 1 (.number 4) true, .log "done" true, .log "done" true] := by
    decide +kernel
  have heard (report : String) : .log report false ∉ noted.memory.calls 3 0 := by
    rw [calls]
    simp
  exact ⟨by decide, rfl, unset, calls, heard, client_protocol (by decide) rfl unset heard⟩

section Uncounted

/-- Whether a call hands out a datagram. -/
def Call.isHand : Call → Bool
  | .hand _ _ _ => true
  | _ => false

/-- A client whose server has received all the counters that it has sent; it reports no thirds. -/
def direct (limit : Int) (n : Nat) : Client :=
  { route := ⟨1, none⟩, limit, reports := false, counter := n, sent := n, delivered := n }

/-- The client at mote 3 has just been installed, within reach of its server. -/
def nearby (limit : Int) : World Unit Unit :=
  let fresh : World Unit Unit := World.plain ()
  { fresh with
    motes := (fresh.motes.put 1 ⟨#[.server 0]⟩).put 3 ⟨#[.client (direct limit 0)]⟩
    medium := fresh.medium.setLink 3 1 Medium.usualLink }

/-- Nobody listens, and the client has sent some counters, all of which its server has received. -/
structure Delivered (limit : Int) (n : Nat) (r : World Unit (Diary Unit)) : Prop where
  config : r.config = Config.standard
  unheard : r.listeners = []
  link : r.medium.link? 3 1 = some Medium.usualLink
  server : r.motes.find? 1 = some ⟨#[.server n]⟩
  client : r.motes.find? 3 = some ⟨#[.client (direct limit n)]⟩
  silent : ∀ report, .log report false ∉ r.memory.calls 3 0
  hands : (r.memory.calls 3 0).countP Call.isHand = n

/-- The client waits to send the next counter. -/
structure Waits (limit : Int) (n : Nat) (r : World Unit (Diary Unit)) : Prop
    extends Delivered limit n r where
  running : r.scheduler.stopped = false
  timer : ∃ due, r.agenda = [(due, .tick 3 0)]

variable {limit : Int} {n : Nat} {r : World Unit (Diary Unit)}

/-- The next counter is on its way to the server. -/
structure OnItsWay (limit : Int) (n : Nat) (r r' : World Unit (Diary Unit)) : Prop where
  config : r'.config = Config.standard
  unheard : r'.listeners = []
  link : r'.medium.link? 3 1 = some Medium.usualLink
  server : r'.motes.find? 1 = some ⟨#[.server n]⟩
  client : r'.motes.find? 3 = some ⟨#[.client (direct limit n).advance]⟩
  calls : r'.memory.calls 3 0 = r.memory.calls 3 0 ++ [.attempt (n + 1)]
  scheduler : r'.scheduler = r.scheduler

/-- A counter that is sent directly to a server within reach is received. -/
theorem attempt_direct (act : Behaviour Unit (Diary Unit)) {w : World Unit (Diary Unit)}
    (link : w.medium.link? 3 1 = some Medium.usualLink) (known : w.motes.has 1 = true) (counter : Nat) :
    ∃ draws, attemptNoting (hear act) 0 3 ⟨1, none⟩ counter w =
      (do handNoting (hear act) 0 3 1 (.number counter)
          return true : SimM Unit (Diary Unit) Bool)
        (noteCall 3 0 (.attempt counter) { w with medium := { w.medium with draws } }) := by
  obtain ⟨draws, carried⟩ := w.medium.transmit_keeps 3 1
  have air : ((noteCall 3 0 (.attempt counter) w).medium.transmit 3 1).2 =
      { w.medium with draws } := carried
  refine ⟨draws, ?_⟩
  unfold attemptNoting deliverBy
  rw [modify_bind_apply, get_bind_apply, if_neg, transmit_bind_apply, if_pos, air]
  · rfl
  · exact Medium.transmit_usual link
  · rw [Bool.not_eq_true', Bool.not_eq_false]
    exact known

/-- The timer of the client expires. -/
theorem Delivered.sends (act : Behaviour Unit (Diary Unit)) (delivered : Delivered limit n r)
    (left : (n : Int) ≠ limit) :
    ∃ r', OnItsWay limit n r r' ∧ fireNoting act (.tick 3 0) r =
      (do handNoting (hear act) 0 3 1 (.number (n + 1 : Nat))
          modifyClient 3 0 Client.confirm
          schedule (← nextInterval) (.tick 3 0) : SimM Unit (Diary Unit) Unit) r' := by
  have unfinished : (direct limit n).exhausted = false := decide_eq_false left
  let advanced := r.putMote 3 ⟨#[.client (direct limit n).advance]⟩
  have client : advanced.clientAt 3 0 = some (direct limit n).advance :=
    World.clientAt_lone (Table.find?_put_self ..)
  have known : advanced.motes.has 1 = true := by
    rw [World.has_putMote delivered.client, Table.has, delivered.server]
    rfl
  obtain ⟨draws, attempted⟩ := attempt_direct act (w := advanced) delivered.link known (n + 1)
  let sent := noteCall 3 0 (.attempt (n + 1)) { advanced with medium := { advanced.medium with draws } }
  refine ⟨sent, ⟨delivered.config, delivered.unheard, delivered.link, ?_, Table.find?_put_self ..,
    calls_noteCall .., rfl⟩, ?_⟩
  · exact (Table.find?_put_of_ne _ _ (by decide)).trans delivered.server
  · change tickBy _ _ 3 0 r = _
    unfold tickBy
    rw [bind_ok (Session.firmware?_apply 3 0 r),
      World.clientAt_eq_some.mp (World.clientAt_lone delivered.client)]
    dsimp only
    rw [unfinished, if_neg Bool.false_ne_true, get_bind_apply]
    change sendNextBy _ 3 0 r = _
    unfold sendNextBy
    rw [bind_ok (modifyClient_apply _), client?_bind_apply, World.updateClient_lone delivered.client,
      client]
    refine (bind_same attempted _).trans ?_
    simp only [bind_assoc, pure_bind, ↓reduceIte]
    rfl

/-- A counter that can be written is received and counted, and the timer is set again. -/
theorem Delivered.counts (act : Behaviour Unit (Diary Unit)) (delivered : Delivered limit n r)
    (left : (n : Int) ≠ limit) (writable : Numeral.isWritable (n + 1 : Nat) = true) :
    ∃ r', fireNoting act (.tick 3 0) r = .ok () r' ∧ Delivered limit (n + 1) r' ∧
      r'.scheduler.stopped = r.scheduler.stopped ∧
      (r.agenda = [] → ∃ due, r'.agenda = [(due, .tick 3 0)]) := by
  obtain ⟨sent, air, fires⟩ := delivered.sends act left
  let received := sent.putMote 1 ⟨#[.server (n + 1)]⟩
  have received_ok : receive (hear act) 1 (.number (n + 1 : Nat)) sent = .ok () received := by
    rw [receive_server air.config air.server rfl writable, emit, get_bind_apply]
    change tell (hear act) 1 _ sent.listeners _ = _
    rw [air.unheard]
    rfl
  let noted := noteCall 3 0 (.hand 1 (.number (n + 1 : Nat)) true) received
  have handed : handNoting (hear act) 0 3 1 (.number (n + 1 : Nat)) sent = .ok () noted := by
    unfold handNoting calling
    rw [received_ok]
  have client : noted.motes.find? 3 = some ⟨#[.client (direct limit n).advance]⟩ :=
    (Table.find?_put_of_ne _ _ (by decide)).trans air.client
  let counted := noted.putMote 3 ⟨#[.client (direct limit (n + 1))]⟩
  have confirmed : modifyClient 3 0 Client.confirm noted = .ok () counted := by
    rw [modifyClient_apply, World.updateClient_lone client]
    rfl
  have set : (do schedule (← nextInterval) (.tick 3 0) : SimM Unit (Diary Unit) Unit) counted =
      .ok () counted.timed := setTimer_apply air.config
  have calls : counted.timed.memory.calls 3 0 =
      r.memory.calls 3 0 ++ [.attempt (n + 1)] ++ [.hand 1 (.number (n + 1 : Nat)) true] := by
    rw [← air.calls]
    exact calls_noteCall ..
  refine ⟨counted.timed, ?_, ?_, ?_, ?_⟩
  · rw [fires, bind_ok handed, bind_ok confirmed]
    exact set
  · refine ⟨air.config, air.unheard, air.link, ?_, Table.find?_put_self .., ?_, ?_⟩
    · refine (Table.find?_put_of_ne _ _ (by decide)).trans ?_
      exact Table.find?_put_self ..
    · rw [calls]
      simp [delivered.silent]
    · rw [calls, List.countP_append, List.countP_append, delivered.hands]
      rfl
  · change sent.scheduler.stopped = _
    rw [air.scheduler]
  · intro idle
    have unset : counted.scheduler.pending = [] := by
      change sent.scheduler.pending = []
      rw [air.scheduler]
      exact List.map_eq_nil_iff.mp idle
    refine ⟨counted.now + (10000 + ((counted.jitter.next 500).1 : Int)), ?_⟩
    change (Scheduler.insert _ counted.scheduler.pending).map _ = _
    rw [unset]
    rfl

/-- A counter that is too long to be written is received, but this does not return. -/
theorem Delivered.breaks_off (act : Behaviour Unit (Diary Unit)) (delivered : Delivered limit n r)
    (left : (n : Int) ≠ limit) (long : Numeral.isWritable (n + 1 : Nat) = false) :
    ∃ r', fireNoting act (.tick 3 0) r = .error (.failure .unwritableInteger) r' ∧
      r'.clientAt 3 0 = some (direct limit n).advance ∧
      (∀ report, .log report false ∉ r'.memory.calls 3 0) ∧
      (r'.memory.calls 3 0).countP Call.isHand = n + 1 := by
  obtain ⟨sent, air, fires⟩ := delivered.sends act left
  let received := sent.putMote 1 ⟨#[.server (n + 1)]⟩
  have failed : receive (hear act) 1 (.number (n + 1 : Nat)) sent =
      .error (.failure .unwritableInteger) received := receive_unwritable air.server rfl long
  let noted := noteCall 3 0 (.hand 1 (.number (n + 1 : Nat)) false) received
  have handed : handNoting (hear act) 0 3 1 (.number (n + 1 : Nat)) sent =
      .error (.failure .unwritableInteger) noted := by
    unfold handNoting calling
    rw [failed]
  have client : noted.motes.find? 3 = some ⟨#[.client (direct limit n).advance]⟩ :=
    (Table.find?_put_of_ne _ _ (by decide)).trans air.client
  have calls : noted.memory.calls 3 0 =
      r.memory.calls 3 0 ++ [.attempt (n + 1)] ++ [.hand 1 (.number (n + 1 : Nat)) false] := by
    rw [← air.calls]
    exact calls_noteCall ..
  refine ⟨noted, ?_, World.clientAt_lone client, ?_, ?_⟩
  · rw [fires, bind_error handed]
  · rw [calls]
    simp [delivered.silent]
  · rw [calls, List.countP_append, List.countP_append, delivered.hands]
    rfl

/-- The next event is the timer of the client. -/
theorem Waits.next (waits : Waits limit n r) :
    ∃ a s, r.scheduler.next? = some (a, s) ∧ a.event = .tick 3 0 ∧
      s.stopped = false ∧ ({ r with scheduler := s } : World Unit (Diary Unit)).agenda = [] ∧
      Delivered limit n { r with scheduler := s } := by
  obtain ⟨due, agenda⟩ := waits.timer
  obtain ⟨a, s, next, takes, key, rest⟩ := World.pops agenda
  exact ⟨a, s, next, (Prod.mk.inj key).2, takes.stopped.trans waits.running, rest,
    ⟨waits.config, waits.unheard, waits.link, waits.server, waits.client, waits.silent, waits.hands⟩⟩

/-- After a counter that can be written, the client waits again. -/
theorem Waits.step (act : Behaviour Unit (Diary Unit)) (waits : Waits limit n r)
    (left : (n : Int) ≠ limit) (writable : Numeral.isWritable (n + 1 : Nat) = true) :
    Waits limit (n + 1) (final (Simulation.step (fireNoting act)) r) := by
  obtain ⟨a, s, next, timer, running, idle, delivered⟩ := waits.next
  obtain ⟨r', fired, further, stopped, sets⟩ := delivered.counts act left writable
  rw [final_ok (step_ok waits.running next (timer ▸ fired))]
  exact ⟨⟨further.config, further.unheard, further.link, further.server, further.client,
    further.silent, further.hands⟩, stopped.trans running, sets idle⟩

/-- By induction on the counters that can be written. -/
theorem Waits.steps (waits : Waits limit 0 r) (few : (n : Int) < limit)
    (writable : Numeral.isWritable n = true) :
    Waits limit n (playNoting idle (List.replicate n (.fire 1)) r) := by
  induction n with
  | zero => exact waits
  | succ n ih =>
    have before := ih (by omega) (isWritable_of_le (by omega) (by omega) writable)
    rw [List.replicate_succ', playNoting, List.foldl_append]
    exact before.step _ (by omega) writable

/-- The client has been booted. -/
theorem waits_booted (limit : Int) :
    Waits limit 0 (Move.makeNoting idle (.act (.boot 3 (.answer true)) 1)
      ((nearby limit).remember Diary.blank)) := by
  let world := noteBoot 3 ((nearby limit).remember Diary.blank)
  have present : world.motes.find? 3 = some ⟨#[.client (direct limit 0)]⟩ := rfl
  have boots : boot (hear (behaviourNoting idle 1)) 3 world =
      .ok () (world.register 600000 (.tick 3 0)) := by
    rw [boot_apply rfl (by decide +kernel) present rfl]
    rfl
  have exec : (Program.noting (.boot 3 (.answer true))).exec (behaviourNoting idle 1)
      ((nearby limit).remember Diary.blank) = .ok true (world.register 600000 (.tick 3 0)) := by
    unfold Program.noting Program.exec
    rw [altered_noteBoot, modify_bind_apply]
    exact bind_ok boots _
  rw [Move.makeNoting, final_ok exec]
  refine ⟨⟨rfl, rfl, ?_, rfl, rfl, fun _ => List.not_mem_nil, rfl⟩, rfl, _, rfl⟩
  exact Medium.link?_setLink_self _ _ _ _

/-- The reception of the first counter that is too long to be written does not return. -/
theorem reception_uncounted (limit : Int) (few : (n : Int) < limit)
    (writable : Numeral.isWritable n = true) (long : Numeral.isWritable (n + 1 : Nat) = false) :
    let noted := playNoting idle (.act (.boot 3 (.answer true)) 1 :: List.replicate (n + 1) (.fire 1))
      ((nearby limit).remember Diary.blank)
    (∀ report, .log report false ∉ noted.memory.calls 3 0) ∧
      ∃ c, noted.clientAt 3 0 = some c ∧
        (noted.memory.calls 3 0).countP Call.isHand = c.delivered + 1 := by
  have waits := (waits_booted limit).steps few writable
  obtain ⟨a, s, next, timer, _, _, delivered⟩ := waits.next
  obtain ⟨r', fired, client, silent, hands⟩ :=
    delivered.breaks_off (behaviourNoting idle 1) (by omega) long
  intro noted
  have reached : noted = r' := by
    change playNoting idle _ _ = _
    rw [playNoting, List.foldl_cons, List.replicate_succ', List.foldl_append]
    exact final_error (step_error waits.running next (timer ▸ fired))
  rw [reached]
  exact ⟨silent, _, client, hands⟩

/-- A client whose server receives a counter that is too long to be written has not counted this
reception, though nobody listens that might fail. -/
theorem overlong_reception_uncounted :
    let overlong : Nat := 10 ^ Numeral.digitLimit
    let world := nearby overlong
    let moves : List (Move Unit Unit) :=
      .act (.boot 3 (.answer true)) 1 :: List.replicate overlong (.fire 1)
    let noted := playNoting idle moves (world.remember Diary.blank)
    world.clientAt 3 0 = some { route := ⟨1, none⟩, limit := overlong, reports := false } ∧
      timers 3 0 world.scheduler.pending = 0 ∧ world.listeners = [] ∧
      forget noted = play idle moves world ∧
      (∀ report, .log report false ∉ noted.memory.calls 3 0) ∧
      ∃ c, (play idle moves world).clientAt 3 0 = some c ∧
        (noted.memory.calls 3 0).countP Call.isHand = c.delivered + 1 := by
  have long := isWritable_overlong
  have positive : 0 < 10 ^ Numeral.digitLimit := Nat.pow_pos (by decide)
  have short (n : Nat) (before : n < 10 ^ Numeral.digitLimit) : Numeral.isWritable n = true := by
    rw [Numeral.isWritable_iff]
    exact before
  generalize 10 ^ Numeral.digitLimit = bound at long positive short ⊢
  intro overlong world moves noted
  have played : forget noted = play idle moves world := forget_playNoting idle moves _
  refine ⟨rfl, rfl, rfl, played, ?_⟩
  rw [← played]
  obtain ⟨last, rfl⟩ : ∃ last, bound = last + 1 := ⟨bound - 1, by omega⟩
  exact reception_uncounted overlong (by omega) (short last (Nat.lt_succ_self last)) long

end Uncounted

end MoteTrial.Protocol

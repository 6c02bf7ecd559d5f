import MoteTrial.Proofs.Firmware.Upkeep

/-! # Turns of a client

Each expiry of a timer of a client is a turn (`tick_turns`), whatever happens meanwhile: it may fail at a
listener, at the reception of its counter, on the air or when the timer is set again, and still the calls
that it has made are those of one turn.
-/

namespace MoteTrial.Protocol

open SimM Simulation

variable {κ μ : Type} {config : Config} {id : Int} {slot : Nat} {act : Behaviour κ (Diary μ)} {c : Client}
  {acts : List Act} {spent : Nat} {w : World κ (Diary μ)}

/-- An act is noted. -/
theorem Stays.note (stays : Stays config id slot c acts spent w) (a : Act) :
    Stays config id slot c (acts ++ [a]) spent
      (noteCall id slot (a.call config c.route.server) w) := by
  refine ⟨stays.parameters, stays.client, ?_, stays.timers⟩
  rw [calls_noteCall, stays.calls, List.map_append]
  rfl

/-- A call is one act if it returns, and another if it does not. -/
theorem Stays.calling (stays : Stays config id slot c acts spent w) {m : SimM κ (Diary μ) Unit}
    (part : Upholds (Stays config id slot c acts spent) m) {call : Bool → Call} (returned failed : Act)
    (returns : returned.call config c.route.server = call true)
    (fails : failed.call config c.route.server = call false) :
    Leaves (fun _ => Stays config id slot c (acts ++ [returned]) spent)
      (Stays config id slot c (acts ++ [failed]) spent) (calling id slot call m w) := by
  have kept := part w stays
  unfold Protocol.calling
  cases ran : m w with
  | ok _ w' =>
    rw [ran] at kept
    have noted := Stays.note kept returned
    rwa [returns] at noted
  | error i w' =>
    rw [ran] at kept
    have noted := Stays.note kept failed
    rwa [fails] at noted

theorem Stays.updates (stays : Stays config id slot c acts spent w) {f : Client → Client}
    (route : (f c).route = c.route) :
    Stays config id slot (f c) acts spent (w.updateClient id slot f) := by
  obtain ⟨motes, updated⟩ := w.updateClient_keeps id slot f
  have client : (w.updateClient id slot f).clientAt id slot = some (f c) := by
    rw [World.clientAt_updateClient, if_pos ⟨rfl, rfl⟩, stays.client]
    rfl
  refine ⟨?_, client, ?_, ?_⟩
  · rw [updated]
    exact stays.parameters
  · rw [updated, route]
    exact stays.calls
  · rw [updated]
    exact stays.timers

/-- A counter is received at most once, and it is noted if it is. -/
theorem attempt_leaves (passive : Passive config id slot act)
    (stays : Stays config id slot c acts spent w) (counter : Nat) :
    let Tried (received : Option Bool) (w' : World κ (Diary μ)) :=
      Stays config id slot c (acts ++ delivery counter received) spent w'
    Leaves (fun heard => Tried (if heard then some true else none))
      (fun w' => ∃ received, received ≠ some true ∧ Tried received w')
      (attemptNoting (hear act) slot id c.route counter w) := by
  intro Tried
  have lost (w : World κ (Diary μ)) (tried : Tried none w) :
      ∃ received, received ≠ some true ∧ Tried received w := ⟨none, nofun, tried⟩
  have hands {w : World κ (Diary μ)} (tried : Tried none w) :
      Leaves (fun heard => Tried (if heard then some true else none))
        (fun w' => ∃ received, received ≠ some true ∧ Tried received w')
        ((do
          handNoting (hear act) slot id c.route.server (.number counter)
          return true : SimM κ (Diary μ) Bool) w) := by
    have handed : Leaves _ _ (handNoting (hear act) slot id c.route.server (.number counter) w) :=
      tried.calling (receive_stays passive.emit c.route.server (.number counter))
        (.receive counter true) (.receive counter false) rfl rfl
    refine (handed.weaken fun w failed => ?_).bind fun _ w stays => ?_
    · refine ⟨some false, nofun, ?_⟩
      rwa [List.append_assoc] at failed
    · rwa [List.append_assoc] at stays
  unfold attemptNoting deliverBy
  rw [modify_bind_apply, get_bind_apply]
  have tried : Tried none _ := stays.note (.attempt counter)
  split
  · exact tried
  · refine ((stays_inert.transmit _ _ _ tried).leaves.weaken lost).bind fun heard w stays => ?_
    split
    · exact hands stays
    · cases c.route.relay with
      | none => exact stays
      | some relay =>
        dsimp only
        rw [get_bind_apply]
        split
        · exact stays
        · refine ((stays_inert.transmitVia _ _ _ _ stays).leaves.weaken lost).bind
            fun heard w stays => ?_
          split
          · exact hands stays
          · exact stays

/-- The next counter is sent, and the timer is set again if nothing fails. -/
theorem send_leaves (passive : Passive config id slot act)
    (stays : Stays config id slot c acts (spent + 1) w) :
    let Sent (w' : World κ (Diary μ)) := ∃ received, Stays config id slot (sender c received)
      (acts ++ delivery (c.counter + 1) received) spent w'
    Leaves (fun _ => Sent) Sent (sendNextBy (attemptNoting (hear act) slot) id slot w) := by
  intro Sent
  have rearms {c : Client} {acts : List Act} {w : World κ (Diary μ)}
      (stays : Stays config id slot c acts (spent + 1) w) :
      Leaves (fun _ => Stays config id slot c acts spent) (Stays config id slot c acts spent)
        ((do schedule (← nextInterval) (.tick id slot) : SimM κ (Diary μ) Unit) w) := by
    have drawn := Upholds.less (stays_inert.nextInterval (I := Stays config id slot c acts _)) w stays
    refine drawn.leaves.bind fun delay w stays => ?_
    have mine : Stays config id slot c acts (spent + if (id, slot) = (id, slot) then 1 else 0) w := by
      rwa [if_pos rfl]
    exact (mine.arms delay).leaves
  have advanced : Stays config id slot c.advance acts (spent + 1)
      (w.updateClient id slot Client.advance) := stays.updates rfl
  unfold sendNextBy
  rw [bind_ok (modifyClient_apply _), client?_bind_apply, advanced.client]
  refine ((attempt_leaves passive advanced _).weaken ?_).bind ?_
  · rintro w' ⟨received, failed, stays⟩
    refine ⟨received, ?_⟩
    rw [sender, if_neg failed]
    exact stays.less
  · intro heard w stays
    cases heard with
    | true =>
      have confirmed : Stays config id slot c.advance.confirm _ (spent + 1)
          (w.updateClient id slot Client.confirm) := stays.updates rfl
      rw [if_pos rfl, bind_ok (modifyClient_apply _)]
      exact (rearms confirmed).imp (fun _ _ sent => ⟨some true, sent⟩) fun _ sent => ⟨some true, sent⟩
    | false =>
      rw [if_neg Bool.false_ne_true]
      exact (rearms stays).imp (fun _ _ sent => ⟨none, sent⟩) fun _ sent => ⟨none, sent⟩

/-- A client has taken a turn, for which one of its timers has expired. -/
def Turned (config : Config) (id : Int) (slot : Nat) (c : Client) (acts : List Act)
    (w : World κ (Diary μ)) : Prop :=
  ∃ c' new, Turn c new c' ∧ Stays config id slot c' (acts ++ new) ((acts ++ new).count .done) w

/-- A report that is not heard ends the turn. -/
theorem Turned.of_unheard {report : String}
    (stays : Stays config id slot c (acts ++ [.unheard report]) (acts.count .done + 1) w) :
    Turned config id slot c acts w := by
  refine ⟨c, _, .breaks_off report, ?_⟩
  rw [List.count_append]
  exact stays.less

/-- After a report, if one is due, the next counter is sent, which ends the turn. -/
theorem send_turns (passive : Passive config id slot act) (more : c.exhausted = false)
    (stays : Stays config id slot c (acts ++ (c.milestone?.map Act.reach).toList)
      (acts.count .done + 1) w) :
    Leaves (fun _ => Turned config id slot c acts) (Turned config id slot c acts)
      (sendNextBy (attemptNoting (hear act) slot) id slot w) := by
  have turned (w : World κ (Diary μ)) (sent : ∃ received, Stays config id slot (sender c received)
      (acts ++ (c.milestone?.map Act.reach).toList ++ delivery (c.counter + 1) received)
      (acts.count .done) w) : Turned config id slot c acts w := by
    obtain ⟨received, stays⟩ := sent
    refine ⟨_, _, .sends more received, ?_⟩
    rw [List.count_append, List.count_eq_zero.mpr (done_not_mem_sending c received)]
    rwa [List.append_assoc] at stays
  exact (send_leaves passive stays).imp (fun _ => turned) turned

/-- An expiry of the timer of a client is a turn, whether it fails or not. -/
theorem tick_turns (passive : Passive config id slot act)
    (stays : Stays config id slot c acts (acts.count .done + 1) w) :
    Leaves (fun _ => Turned config id slot c acts) (Turned config id slot c acts)
      (fireNoting act (.tick id slot) w) := by
  change Leaves _ _ (tickBy (logNoting (hear act) slot) (attemptNoting (hear act) slot) id slot w)
  unfold tickBy
  rw [bind_ok (Session.firmware?_apply id slot w), World.clientAt_eq_some.mp stays.client]
  dsimp only
  rw [apply_ite (fun m : SimM κ (Diary μ) Unit => m w)]
  cases all : c.exhausted with
  | true =>
    rw [if_pos rfl, get_bind_apply, stays.parameters]
    have logs : Leaves _ _ (logNoting (hear act) slot id config.keywordDone w) :=
      stays.calling (passive.emit _ _) .done (.unheard config.keywordDone) rfl rfl
    refine (logs.weaken fun _ => Turned.of_unheard).bind fun _ w stays => ?_
    refine ⟨c.finish, _, .ends all, ?_⟩
    rw [List.count_append]
    exact stays.updates rfl
  | false =>
    rw [if_neg Bool.false_ne_true, get_bind_apply, stays.parameters]
    unfold Client.progress?
    cases reached : c.milestone? with
    | none =>
      refine send_turns passive all ?_
      rwa [reached, Option.map_none, Option.toList_none, List.append_nil]
    | some milestone =>
      have logs : Leaves _ _ (logNoting (hear act) slot id (milestone.line config) w) :=
        stays.calling (passive.emit _ _) (.reach milestone) (.unheard (milestone.line config)) rfl rfl
      refine (logs.weaken fun _ => Turned.of_unheard).bind fun _ w stays => ?_
      refine send_turns passive all ?_
      rwa [reached, Option.map_some, Option.toList_some]

end MoteTrial.Protocol

import MoteTrial.Proofs.FanOut.Books
import MoteTrial.Proofs.Session.Operations

/-! # The order in which listeners hear lines

Users' code, called from outside or as a listener, has motes log lines, also while it hears one. A line
is told to all listeners before the call that logs it returns. A line that is logged while another one is
on its way down the list of listeners therefore reaches the listeners further down first. `heard_in_turn`
says exactly which listener hears which of two lines first.
-/

namespace MoteTrial.FanOut

open SimM Simulation

/-- Users' code. `consult` lets it depend on everything there is to see, `alter` changes anything but
who listens and the diary. -/
inductive Program (κ μ : Type) where
  | answer (done : Bool)
  | raise (f : Failure)
  | log (mote : Int) (msg : String) (next : Program κ μ)
  | alter (change : World κ (Diary κ μ) → World κ (Diary κ μ)) (next : Program κ μ)
  | consult (next : World κ (Diary κ μ) → Program κ μ)

variable {κ μ : Type}

/-- Changes the diary. -/
def Diary.change (f : Diary κ μ → Diary κ μ) : SimM κ (Diary κ μ) Unit :=
  modify fun w => { w with memory := f w.memory }

/-- What listeners do, with a note of what they hear. -/
def noting (hear : Hearing κ (Diary κ μ)) : Hearing κ (Diary κ μ) := fun listener mote msg => do
  Diary.change (·.tell listener mote msg)
  hear listener mote msg

/-- Logs a line of a mote, with a note of it. -/
def logged (hear : Hearing κ (Diary κ μ)) (mote : Int) (msg : String) : SimM κ (Diary κ μ) Unit := do
  Diary.change (·.call mote msg)
  emit (noting hear) mote msg
  Diary.change Diary.close

/-- A world changed at will, but for who listens and its diary. -/
def altered (change : World κ (Diary κ μ) → World κ (Diary κ μ)) (w : World κ (Diary κ μ)) :
    World κ (Diary κ μ) :=
  { change w with
    listeners := w.listeners
    memory := { w.memory with own := (change w).memory.own } }

/-- Carries out users' code, given what listeners do. -/
def Program.exec (hear : Hearing κ (Diary κ μ)) : Program κ μ → SimM κ (Diary κ μ) Bool
  | .answer done => pure done
  | .raise f => fail f
  | .log mote msg next => do
    logged hear mote msg
    next.exec hear
  | .alter change next => do
    modify (altered change)
    next.exec hear
  | .consult next => do
    let w ← get
    (next w).exec hear

/-- The behaviour of users' code. Code may log lines, and thereby set off other code; `limit` bounds the
depth of this. -/
def behaviour (code : κ → Cue → Program κ μ) : Nat → Behaviour κ (Diary κ μ)
  | 0 => fun _ _ => throw .exhausted
  | limit + 1 => fun c cue => (code c cue).exec (hear (behaviour code limit))

section Books

variable {listeners : List (Listener κ)} {telling : List Telling} {log : List Call}
  {w : World κ (Diary κ μ)}

/-- The books are balanced while the given lines are being told to the given listeners, and the given
ones have been logged before all others. -/
structure Going (listeners : List (Listener κ)) (telling : List Telling) (log : List Call)
    (w : World κ (Diary κ μ)) : Prop where
  audience : w.listeners = listeners
  stack : w.memory.telling = telling
  logged : log <+: w.memory.calls
  balanced : Balanced listeners w.memory

/-- The lines that are being told are in the hands of listeners. -/
def Handled (listeners : List (Listener κ)) (telling : List Telling) : Prop :=
  ∀ t ∈ telling, 0 < t.told ∧ t.told ≤ listeners.length

/-- What listeners do, wherever a line is being told, leaves the books balanced and the same lines being
told. -/
def Orderly (listeners : List (Listener κ)) (hear : Hearing κ (Diary κ μ)) : Prop :=
  ∀ telling log, Handled listeners telling → ∀ l mote msg,
    Session.Keeps (Going listeners telling log) (fun _ _ => True) (hear l mote msg)

theorem Going.of_same (going : Going listeners telling log w) {w' : World κ (Diary κ μ)}
    (audience : w'.listeners = w.listeners) (memory : w'.memory = w.memory) :
    Going listeners telling log w' := by
  refine ⟨audience.trans going.audience, ?_, ?_, ?_⟩
  · exact (congrArg Diary.telling memory).trans going.stack
  · exact memory ▸ going.logged
  · exact memory ▸ going.balanced

theorem Going.alter (going : Going listeners telling log w)
    (change : World κ (Diary κ μ) → World κ (Diary κ μ)) :
    Going listeners telling log (altered change w) :=
  ⟨going.audience, going.stack, going.logged, { going.balanced with }⟩

/-- Nothing but the noting of lines touches what the books are about. -/
theorem going_stable : Session.Stable (Going (μ := μ) listeners telling log) (fun _ _ => True)
    (fun _ => True) fun _ _ => True where
  seen going _ := going.of_same rfl rfl
  changed _ going _ _ := going.of_same rfl rfl
  stopped going := going.of_same rfl rfl
  unwritable _ _ := trivial
  interrupted _ _ := trivial
  registered going _ _ _ _ := going.of_same rfl rfl
  taken going _ _ _ _ := going.of_same rfl rfl
  counted going := going.of_same rfl rfl
  pending _ _ _ := Session.said_any _
  voiced _ _ _ _ _ := trivial
  aside going apart := going.of_same apart.listeners apart.memory
  rescripted _ going _ _ := going.of_same rfl rfl
  bound _ going _ _ _ _ _ _ := going.of_same rfl rfl
  failing _ := ⟨fun _ _ => trivial, fun _ _ _ _ => trivial, fun _ => trivial, fun _ _ => trivial⟩

/-- The books stay balanced as one listener after the other is told the line on top of the stack. -/
theorem tell_going {hear : Hearing κ (Diary κ μ)} (orderly : Orderly listeners hear) {line : Nat}
    {call : Call} (called : log[line]? = some call) (handled : Handled listeners telling) {told : Nat}
    {rest : List (Listener κ)} (ahead : listeners.drop told = rest)
    (going : Going listeners (⟨line, told⟩ :: telling) log w) :
    Session.Kept (Going listeners (⟨line, max told listeners.length⟩ :: telling) log) (fun _ _ => True)
      (tell (noting hear) call.mote call.msg rest w) := by
  induction rest generalizing told w with
  | nil =>
    have all : listeners.length ≤ told := List.drop_eq_nil_iff.mp ahead
    rw [Nat.max_eq_left all]
    exact going
  | cons listener rest ih =>
    have next : listeners[told]? = some listener := by
      rw [← List.head?_drop, ahead]
      rfl
    have there := (List.getElem?_eq_some_iff.mp next).1
    have further : listeners.drop (told + 1) = rest := by
      rw [← List.tail_drop, ahead]
      rfl
    have known : w.memory.calls[line]? = some call := by
      obtain ⟨later, grown⟩ := going.logged
      have bound := (List.getElem?_eq_some_iff.mp called).1
      rw [← grown, List.getElem?_append_left bound]
      exact called
    have noted : Going listeners (⟨line, told + 1⟩ :: telling) log
        { w with memory := w.memory.tell listener call.mote call.msg } := by
      refine ⟨going.audience, ?_, ?_, going.balanced.tell going.stack next known⟩
      · simp only [Diary.tell, going.stack]
      · simpa only [Diary.tell, going.stack] using going.logged
    have held : Handled listeners (⟨line, told + 1⟩ :: telling) := by
      intro t member
      rcases List.mem_cons.mp member with rfl | member
      · exact ⟨Nat.succ_pos _, there⟩
      · exact handled t member
    have whole : max (told + 1) listeners.length = max told listeners.length := by omega
    rw [Simulation.tell, noting, bind_assoc, Diary.change, modify_bind_apply]
    refine Session.Kept.bind (orderly _ log held listener _ _ _ noted) ?_
    intro _ w' going'
    rw [← whole]
    exact ih further going'

/-- A call that logs a line leaves the books balanced, and the same lines being told as before. -/
theorem logged_going {hear : Hearing κ (Diary κ μ)} (orderly : Orderly listeners hear)
    (handled : Handled listeners telling) (mote : Int) (msg : String) :
    Session.Keeps (Going listeners telling log) (fun _ _ => True) (logged hear mote msg) := by
  intro w going
  have stack := going.stack
  have grown : log <+: w.memory.calls ++ [⟨mote, msg, telling⟩] :=
    going.logged.trans (List.prefix_append _ _)
  have start : Going listeners (⟨w.memory.calls.length, 0⟩ :: telling)
      (w.memory.calls ++ [⟨mote, msg, telling⟩])
      { w with memory := w.memory.call mote msg } := by
    refine ⟨going.audience, ?_, ?_, going.balanced.call (stack ▸ handled) mote msg⟩
    · simp only [Diary.call, stack]
    · simp only [Diary.call, stack, List.prefix_rfl]
  have called : (w.memory.calls ++ [⟨mote, msg, telling⟩])[w.memory.calls.length]? =
      some ⟨mote, msg, telling⟩ := List.getElem?_concat_length
  have told := tell_going orderly called handled List.drop_zero start
  rw [logged, Diary.change, modify_bind_apply, emit, bind_assoc, get_bind_apply]
  rw [← going.audience] at told
  refine Session.Kept.bind told ?_
  intro _ w' done
  refine ⟨done.audience.trans going.audience, ?_, grown.trans done.logged, ?_⟩
  · simp only [Diary.close, done.stack, List.tail_cons]
  · have balanced := done.balanced
    rw [going.audience] at balanced
    exact balanced.close done.stack (by simp [going.audience])

theorem Program.exec_going {hear : Hearing κ (Diary κ μ)} (orderly : Orderly listeners hear)
    (handled : Handled listeners telling) (p : Program κ μ) :
    Session.Keeps (Going listeners telling log) (fun _ _ => True) (p.exec hear) := by
  induction p with
  | answer done => exact Session.Keeps.pure done
  | raise f => exact fun _ _ => trivial
  | log mote msg next ih => exact (logged_going orderly handled mote msg).bind fun _ => ih
  | alter change next ih =>
    exact Session.Keeps.bind (Session.Keeps.modify fun going => going.alter change) fun _ => ih
  | consult next ih => exact Session.Keeps.reads fun w => ih w

/-- By induction on how deep users' code sets off other code. -/
theorem behaviour_going (code : κ → Cue → Program κ μ) (limit : Nat) (telling : List Telling)
    (log : List Call) (handled : Handled listeners telling) (c : κ) (cue : Cue) :
    Session.Keeps (Going listeners telling log) (fun _ _ => True) (behaviour code limit c cue) := by
  induction limit generalizing telling log c cue with
  | zero => exact fun _ _ => trivial
  | succ limit ih =>
    refine Program.exec_going ?_ handled _
    intro telling log handled l mote msg
    exact going_stable.hears_any (ih telling log handled) l mote msg trivial

end Books

/-- Whatever lines users' code has motes log, from outside or while it hears others, each listener hears
each line once, as it was said, and of two lines it hears the one that was logged first before the other
unless that one was logged while the first was still to be told to it. The first listener hears all lines
in the order in which they were logged; all listeners do exactly if none but the last has lines logged
while it hears one. -/
theorem heard_in_turn (code : κ → Cue → Program κ μ) (limit : Nat) (p : Program κ μ)
    {w w' : World κ (Diary κ μ)} (calls : w.memory.calls = []) (heard : w.memory.heard = [])
    (telling : w.memory.telling = []) {done : Bool}
    (returns : p.exec (hear (behaviour code limit)) w = .ok done w') :
    w'.listeners = w.listeners ∧
    (∀ place < w.listeners.length,
      (w'.memory.heardAt place).Perm (List.range w'.memory.calls.length) ∧
      (w'.memory.heardAt place).Pairwise (Precedes w'.memory.calls place)) ∧
    (∀ h ∈ w'.memory.heard, w.listeners[h.place]? = some h.listener ∧
      ∃ call, w'.memory.calls[h.line]? = some call ∧ call.mote = h.mote ∧ call.msg = h.msg) ∧
    (0 < w.listeners.length → w'.memory.heardAt 0 = List.range w'.memory.calls.length) ∧
    ((∀ place < w.listeners.length,
        w'.memory.heardAt place = List.range w'.memory.calls.length) ↔
      ∀ call ∈ w'.memory.calls, ∀ t ∈ call.within, t.told = w.listeners.length) := by
  have handled : Handled w.listeners [] := nofun
  have start : Going w.listeners [] [] w :=
    ⟨rfl, telling, List.nil_prefix, .blank calls heard telling⟩
  have orderly : Orderly w.listeners (hear (behaviour code limit)) := by
    intro telling log handled l mote msg
    exact going_stable.hears_any (behaviour_going code limit telling log handled) l mote msg trivial
  have going := p.exec_going orderly handled w start
  rw [returns] at going
  obtain ⟨audience, idle, _, balanced⟩ : Going w.listeners [] [] w' := going
  refine ⟨audience, ?_, balanced.faithful, balanced.first_in_order idle, balanced.in_order_iff idle⟩
  intro place there
  exact ⟨balanced.perm idle there, balanced.ordered place there⟩

/-- The code of two listeners: the first has the line `b` logged whenever it hears `a`. -/
def answering : Bool → Cue → Program Bool Unit
  | true, .heard _ "a" => .log 2 "b" (.answer false)
  | _, _ => .answer false

/-- A world with these listeners. -/
def audience : World Bool (Diary Bool Unit) :=
  { World.plain { own := () } with listeners := [.code true, .code false] }

/-- The world once the line `a` has been logged. -/
def answered : World Bool (Diary Bool Unit) :=
  final ((Program.log 1 "a" (.answer false)).exec (hear (behaviour answering 2))) audience

theorem heard_in_turn_answered :
    (Program.log 1 "a" (.answer false)).exec (hear (behaviour answering 2)) audience =
      .ok false answered ∧
    answered.memory.heardAt 0 = [0, 1] ∧
    (∀ place < 2, (answered.memory.heardAt place).Perm (List.range 2) ∧
      (answered.memory.heardAt place).Pairwise (Precedes answered.memory.calls place)) := by
  have returns : (Program.log 1 "a" (.answer false)).exec (hear (behaviour answering 2)) audience =
      .ok false answered := rfl
  have turns := heard_in_turn answering 2 (.log 1 "a" (.answer false)) rfl rfl rfl returns
  exact ⟨returns, by decide +kernel, turns.2.1⟩

/-- Both lines are logged without a failure, but the second listener hears them the other way round. -/
theorem answer_overtakes :
    ∃ done w', (Program.log 1 "a" (.answer false)).exec (hear (behaviour answering 2)) audience =
      .ok done w' ∧
    w'.memory.calls.map (·.msg) = ["a", "b"] ∧
    w'.memory.heardAt 0 = [0, 1] ∧ w'.memory.heardAt 1 = [1, 0] := by
  refine ⟨false, answered, rfl, ?_⟩
  decide +kernel

end MoteTrial.FanOut

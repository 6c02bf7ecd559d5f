import MoteTrial.Proofs.Execution

/-! # Books of the lines that are told

A diary numbers the lines that motes log and notes which listener hears which line. Telling a line takes
time: a listener may have further lines logged while it hears one, and these are told first. The diary
therefore keeps the lines that are being told on a stack, each with the number of listeners that it has
been told to. `Balanced` says what the stack has to do with what has been heard so far; it is kept as a
line is logged, heard and done with.
-/

namespace MoteTrial.FanOut

/-- A line that is being told, and the number of listeners that it has been told to. -/
structure Telling where
  line : Nat
  told : Nat
  deriving DecidableEq, Repr

/-- A line that a mote has logged, and the lines that were being told at the time, the latest first. -/
structure Call where
  mote : Int
  msg : String
  within : List Telling
  deriving DecidableEq, Repr

/-- A line that a listener has heard: where the listener stands among all, who it is, the number of the
line, and what was said. -/
structure Heard (κ : Type) where
  place : Nat
  listener : Listener κ
  line : Nat
  mote : Int
  msg : String

/-- What is noted about lines, beside the memory of users' code. -/
structure Diary (κ μ : Type) where
  calls : List Call := []
  heard : List (Heard κ) := []
  telling : List Telling := []
  own : μ

variable {κ μ : Type}

/-- The numbers of the lines that the listener at a place has heard, in the order in which it has. -/
def Diary.heardAt (place : Nat) (d : Diary κ μ) : List Nat :=
  (d.heard.filter (·.place == place)).map (·.line)

/-- A line is still to be told to the listener at a place. -/
def Awaited (telling : List Telling) (place line : Nat) : Prop :=
  ∃ t ∈ telling, t.line = line ∧ t.told ≤ place

/-- A line was logged while another one was still to be told to the listener at a place. -/
def Overtakes (calls : List Call) (place line other : Nat) : Prop :=
  ∃ call, calls[line]? = some call ∧ Awaited call.within place other

/-- The order in which the listener at a place hears lines: as they are logged, unless the later one
overtakes. -/
def Precedes (calls : List Call) (place line other : Nat) : Prop :=
  if line < other then ¬ Overtakes calls place other line else Overtakes calls place line other

/-- Each line on the stack was logged while exactly those below it were being told. -/
def Nested (calls : List Call) : List Telling → Prop
  | [] => True
  | t :: rest => (∃ call, calls[t.line]? = some call ∧ call.within = rest) ∧ Nested calls rest

/-- The diary agrees with who listens, and with itself. -/
structure Balanced (listeners : List (Listener κ)) (d : Diary κ μ) : Prop where
  /-- A listener has heard all lines but those that are still to be told to it. -/
  heard : ∀ place < listeners.length, ∀ line,
    line ∈ d.heardAt place ↔ line < d.calls.length ∧ ¬ Awaited d.telling place line
  ordered : ∀ place < listeners.length, (d.heardAt place).Pairwise (Precedes d.calls place)
  faithful : ∀ h ∈ d.heard, listeners[h.place]? = some h.listener ∧
    ∃ call, d.calls[h.line]? = some call ∧ call.mote = h.mote ∧ call.msg = h.msg
  /-- Lines are logged while earlier ones are handled by listeners. -/
  within : ∀ (line : Nat) call, d.calls[line]? = some call → ∀ t ∈ call.within,
    t.line < line ∧ 0 < t.told ∧ t.told ≤ listeners.length
  nested : Nested d.calls d.telling
  /-- Whatever has been logged since a line was is part of handling it. -/
  since : ∀ t ∈ d.telling, ∀ (line : Nat) call, t.line < line → d.calls[line]? = some call →
    ∃ s ∈ call.within, s.line = t.line ∧ s.told ≤ t.told

/-- The diary once a line is logged. -/
def Diary.call (mote : Int) (msg : String) (d : Diary κ μ) : Diary κ μ :=
  { d with
    calls := d.calls ++ [⟨mote, msg, d.telling⟩]
    telling := ⟨d.calls.length, 0⟩ :: d.telling }

/-- The diary once the line that is being told has been told to one more listener. -/
def Diary.tell (listener : Listener κ) (mote : Int) (msg : String) (d : Diary κ μ) : Diary κ μ :=
  match d.telling with
  | [] => d
  | t :: rest =>
    { d with
      heard := d.heard ++ [⟨t.told, listener, t.line, mote, msg⟩]
      telling := { t with told := t.told + 1 } :: rest }

/-- The diary once a line has been told to all. -/
def Diary.close (d : Diary κ μ) : Diary κ μ := { d with telling := d.telling.tail }

section Calls

variable {calls : List Call} {place line other : Nat}

theorem awaited_cons {t : Telling} {rest : List Telling} :
    Awaited (t :: rest) place line ↔ t.line = line ∧ t.told ≤ place ∨ Awaited rest place line := by
  simp only [Awaited, List.mem_cons, or_and_right, exists_or, exists_eq_left]

theorem overtakes_append (more : List Call) (there : line < calls.length) :
    Overtakes (calls ++ more) place line other ↔ Overtakes calls place line other := by
  unfold Overtakes
  rw [List.getElem?_append_left there]

theorem precedes_append (more : List Call) (there : line < calls.length)
    (there' : other < calls.length) :
    Precedes (calls ++ more) place line other ↔ Precedes calls place line other := by
  unfold Precedes
  rw [overtakes_append more there, overtakes_append more there']

theorem Nested.append {telling : List Telling} (nested : Nested calls telling) (more : List Call) :
    Nested (calls ++ more) telling := by
  induction telling with
  | nil => trivial
  | cons t rest ih =>
    obtain ⟨⟨call, logged, within⟩, below⟩ := nested
    refine ⟨⟨call, ?_, within⟩, ih below⟩
    have there := (List.getElem?_eq_some_iff.mp logged).1
    rw [List.getElem?_append_left there]
    exact logged

theorem Nested.logged {telling : List Telling} (nested : Nested calls telling) :
    ∀ t ∈ telling, t.line < calls.length := by
  induction telling with
  | nil => nofun
  | cons t rest ih =>
    obtain ⟨⟨call, logged, _⟩, below⟩ := nested
    intro s member
    rcases List.mem_cons.mp member with rfl | member
    · exact (List.getElem?_eq_some_iff.mp logged).1
    · exact ih below s member

end Calls

namespace Balanced

variable {listeners : List (Listener κ)} {d : Diary κ μ}

/-- No line overtakes itself. -/
theorem not_overtakes (balanced : Balanced listeners d) (place line : Nat) :
    ¬ Overtakes d.calls place line line := by
  rintro ⟨call, logged, t, member, same, _⟩
  have := (balanced.within line call logged t member).1
  omega

/-- No listener hears a line twice. -/
theorem nodup (balanced : Balanced listeners d) {place : Nat} (there : place < listeners.length) :
    (d.heardAt place).Nodup := by
  refine (balanced.ordered place there).imp ?_
  rintro line _ precedes rfl
  rw [Precedes, if_neg (Nat.lt_irrefl line)] at precedes
  exact balanced.not_overtakes place line precedes

theorem blank (calls : d.calls = []) (heard : d.heard = []) (telling : d.telling = []) :
    Balanced listeners d := by
  have silent (place : Nat) : d.heardAt place = [] := by rw [Diary.heardAt, heard]; rfl
  constructor
  · intro place _ line
    simp [silent, calls]
  · intro place _
    rw [silent]
    exact .nil
  · rw [heard]
    nofun
  · rw [calls]
    nofun
  · rw [telling]
    trivial
  · rw [telling]
    nofun

/-- A line may be logged if those that are being told are in the hands of listeners. -/
theorem call (balanced : Balanced listeners d)
    (handled : ∀ t ∈ d.telling, 0 < t.told ∧ t.told ≤ listeners.length) (mote : Int) (msg : String) :
    Balanced listeners (d.call mote msg) := by
  have logged := balanced.nested.logged
  have earlier {place : Nat} (there : place < listeners.length) {line : Nat}
      (member : line ∈ d.heardAt place) : line < d.calls.length :=
    ((balanced.heard place there line).mp member).1
  have cases {line : Nat} {call : Call}
      (found : (d.call mote msg).calls[line]? = some call) :
      d.calls[line]? = some call ∨ line = d.calls.length ∧ call = ⟨mote, msg, d.telling⟩ := by
    change (d.calls ++ [_])[line]? = _ at found
    rw [List.getElem?_append] at found
    split at found
    · exact .inl found
    · right
      obtain ⟨bound, rfl⟩ := List.getElem?_eq_some_iff.mp found
      rw [List.length_singleton] at bound
      exact ⟨by omega, by simp⟩
  have kept {line : Nat} {call : Call} (found : d.calls[line]? = some call) :
      (d.call mote msg).calls[line]? = some call := by
    have there := (List.getElem?_eq_some_iff.mp found).1
    exact (List.getElem?_append_left there).trans found
  constructor
  · intro place there line
    change line ∈ d.heardAt place ↔ line < (d.calls ++ [_]).length ∧
      ¬ Awaited (⟨d.calls.length, 0⟩ :: d.telling) place line
    rw [balanced.heard place there line]
    rw [awaited_cons, List.length_append, List.length_singleton]
    constructor
    · rintro ⟨before, heard⟩
      refine ⟨by omega, ?_⟩
      rintro (⟨same, _⟩ | awaited)
      · dsimp only at same
        omega
      · exact heard awaited
    · rintro ⟨before, heard⟩
      have old : line ≠ d.calls.length := by
        rintro rfl
        exact heard (.inl ⟨rfl, Nat.zero_le _⟩)
      exact ⟨by omega, fun awaited => heard (.inr awaited)⟩
  · intro place there
    refine (balanced.ordered place there).imp_of_mem ?_
    intro line other member member' precedes
    exact (precedes_append _ (earlier there member) (earlier there member')).mpr precedes
  · intro h member
    obtain ⟨stands, call, found, said⟩ := balanced.faithful h member
    exact ⟨stands, call, kept found, said⟩
  · intro line call found t member
    rcases cases found with before | ⟨rfl, rfl⟩
    · exact balanced.within line call before t member
    · exact ⟨logged t member, handled t member⟩
  · refine ⟨⟨⟨mote, msg, d.telling⟩, ?_, rfl⟩, balanced.nested.append _⟩
    exact List.getElem?_concat_length
  · intro t member line call after found
    rcases List.mem_cons.mp member with rfl | member
    · have bound := (List.getElem?_eq_some_iff.mp found).1
      change line < (d.calls ++ [_]).length at bound
      rw [List.length_append, List.length_singleton] at bound
      dsimp only at after
      omega
    · rcases cases found with before | ⟨rfl, rfl⟩
      · exact balanced.since t member line call after before
      · exact ⟨t, member, rfl, Nat.le_refl _⟩

section Tell

variable {t : Telling} {rest : List Telling}

/-- Only one entry of the stack is about the line on top. -/
theorem below (balanced : Balanced listeners d) (shape : d.telling = t :: rest) :
    ∀ s ∈ rest, s.line < t.line := by
  have nested := balanced.nested
  rw [shape] at nested
  obtain ⟨⟨call, logged, rfl⟩, _⟩ := nested
  intro s member
  exact (balanced.within t.line call logged s member).1

theorem awaited_top (balanced : Balanced listeners d) (shape : d.telling = t :: rest) (place : Nat) :
    Awaited d.telling place t.line ↔ t.told ≤ place := by
  rw [shape, awaited_cons]
  constructor
  · rintro (⟨_, due⟩ | ⟨s, member, same, _⟩)
    · exact due
    · have := balanced.below shape s member
      omega
  · intro due
    exact .inl ⟨rfl, due⟩

/-- Whatever the next listener has heard comes before the line that it is told now. -/
theorem precedes_top (balanced : Balanced listeners d) (shape : d.telling = t :: rest)
    (there : t.told < listeners.length) : ∀ line ∈ d.heardAt t.told,
      Precedes d.calls t.told line t.line := by
  intro line member
  obtain ⟨before, heard⟩ := (balanced.heard t.told there line).mp member
  have top : t ∈ d.telling := by simp [shape]
  unfold Precedes
  split
  · -- an earlier line that was still to be told to this listener still is
    rintro ⟨call, logged, awaited⟩
    have nested := balanced.nested
    rw [shape] at nested
    obtain ⟨⟨call', logged', within⟩, _⟩ := nested
    cases logged.symm.trans logged'
    rw [within] at awaited
    obtain ⟨s, below, due⟩ := awaited
    apply heard
    rw [shape]
    exact ⟨s, List.mem_cons_of_mem _ below, due⟩
  · rename_i late
    have distinct : line ≠ t.line := by
      rintro rfl
      exact heard ((balanced.awaited_top shape t.told).mpr (Nat.le_refl _))
    obtain ⟨call, logged⟩ : ∃ call, d.calls[line]? = some call :=
      ⟨d.calls[line], List.getElem?_eq_getElem before⟩
    obtain ⟨s, member, same, due⟩ := balanced.since t top line call (by omega) logged
    exact ⟨call, logged, s, member, same, due⟩

theorem heardAt_tell (shape : d.telling = t :: rest) (listener : Listener κ) (mote : Int)
    (msg : String) (place : Nat) :
    (d.tell listener mote msg).heardAt place =
      d.heardAt place ++ if t.told = place then [t.line] else [] := by
  simp only [Diary.heardAt, Diary.tell, shape, List.filter_append, List.map_append]
  by_cases here : t.told = place <;> simp [here]

/-- The line on top of the stack may be told to the next listener. -/
theorem tell (balanced : Balanced listeners d) (shape : d.telling = t :: rest)
    {listener : Listener κ} (next : listeners[t.told]? = some listener) {call : Call}
    (logged : d.calls[t.line]? = some call) :
    Balanced listeners (d.tell listener call.mote call.msg) := by
  have there := (List.getElem?_eq_some_iff.mp next).1
  have line_lt := (List.getElem?_eq_some_iff.mp logged).1
  have calls : (d.tell listener call.mote call.msg).calls = d.calls := by
    simp only [Diary.tell, shape]
  have telling : (d.tell listener call.mote call.msg).telling = ⟨t.line, t.told + 1⟩ :: rest := by
    simp only [Diary.tell, shape]
  have heard : (d.tell listener call.mote call.msg).heard =
      d.heard ++ [⟨t.told, listener, t.line, call.mote, call.msg⟩] := by
    simp only [Diary.tell, shape]
  have below := balanced.below shape
  constructor
  · intro place bound line
    have before := balanced.heard place bound line
    rw [shape] at before
    rw [heardAt_tell shape, calls, telling, List.mem_append, before, awaited_cons, awaited_cons]
    by_cases here : t.told = place
    · subst here
      rw [if_pos rfl, List.mem_singleton]
      by_cases same : line = t.line
      · subst same
        refine iff_of_true (.inr rfl) ⟨line_lt, ?_⟩
        rintro (⟨_, due⟩ | ⟨s, member, same, _⟩)
        · exact absurd due (Nat.not_succ_le_self _)
        · have := below s member
          omega
      · have other : ¬ t.line = line := fun h => same h.symm
        simp only [same, other, or_false, false_and, false_or]
    · have due : t.told ≤ place ↔ t.told + 1 ≤ place := by omega
      simp only [if_neg here, List.not_mem_nil, or_false, due]
  · intro place bound
    rw [heardAt_tell shape, calls]
    split
    · rename_i here
      subst here
      rw [List.pairwise_append]
      refine ⟨balanced.ordered _ bound, List.pairwise_singleton _ _, ?_⟩
      intro line member other last
      rw [List.mem_singleton.mp last]
      exact balanced.precedes_top shape there line member
    · rw [List.append_nil]
      exact balanced.ordered place bound
  · intro h member
    rw [heard, List.mem_append, List.mem_singleton] at member
    rw [calls]
    rcases member with before | rfl
    · exact balanced.faithful h before
    · exact ⟨next, call, logged, rfl, rfl⟩
  · rw [calls]
    exact balanced.within
  · have nested := balanced.nested
    rw [shape] at nested
    rw [calls, telling]
    exact nested
  · rw [calls, telling]
    intro s member line later after found
    have since := balanced.since
    rw [shape] at since
    rcases List.mem_cons.mp member with rfl | member
    · obtain ⟨u, inside, same, due⟩ := since t List.mem_cons_self line later after found
      exact ⟨u, inside, same, Nat.le_succ_of_le due⟩
    · exact since s (List.mem_cons_of_mem _ member) line later after found

/-- A line that has been told to all is done with. -/
theorem close (balanced : Balanced listeners d) (shape : d.telling = t :: rest)
    (all : listeners.length ≤ t.told) : Balanced listeners d.close := by
  have telling : d.close.telling = rest := by simp only [Diary.close, shape, List.tail_cons]
  constructor
  · intro place there line
    have before := balanced.heard place there line
    have done : ¬ t.told ≤ place := by omega
    simp only [shape, awaited_cons, done, and_false, false_or] at before
    rw [telling]
    exact before
  · exact balanced.ordered
  · exact balanced.faithful
  · exact balanced.within
  · have nested := balanced.nested
    rw [shape] at nested
    rw [telling]
    exact nested.2
  · intro s member
    rw [telling] at member
    exact balanced.since s (shape ▸ List.mem_cons_of_mem _ member)

end Tell

/-- When nothing is being told, every listener has heard every line once. -/
theorem perm (balanced : Balanced listeners d) (idle : d.telling = []) {place : Nat}
    (there : place < listeners.length) : (d.heardAt place).Perm (List.range d.calls.length) := by
  rw [List.perm_ext_iff_of_nodup (balanced.nodup there) List.nodup_range]
  intro line
  rw [balanced.heard place there line, idle, List.mem_range]
  simp [Awaited]

/-- A listener hears the lines as they were logged if none overtakes another. -/
theorem in_order (balanced : Balanced listeners d) (idle : d.telling = []) {place : Nat}
    (there : place < listeners.length)
    (none : ∀ line other, ¬ Overtakes d.calls place line other) :
    d.heardAt place = List.range d.calls.length := by
  refine (balanced.perm idle there).eq_of_pairwise ?_ ?_ (List.pairwise_lt_range)
  · intro a b _ _ before after
    exact absurd (Nat.lt_trans before after) (Nat.lt_irrefl a)
  · refine (balanced.ordered place there).imp ?_
    intro line other precedes
    unfold Precedes at precedes
    split at precedes
    · assumption
    · exact absurd precedes (none line other)

/-- The first listener is told every line as it is logged. -/
theorem first_in_order (balanced : Balanced listeners d) (idle : d.telling = [])
    (some_listener : 0 < listeners.length) : d.heardAt 0 = List.range d.calls.length := by
  refine balanced.in_order idle some_listener ?_
  rintro line other ⟨call, logged, t, inside, _, due⟩
  have := (balanced.within line call logged t inside).2.1
  omega

/-- A listener that hears the lines as they were logged hears none overtake another. -/
theorem no_overtaking (balanced : Balanced listeners d) {place : Nat}
    (there : place < listeners.length) (order : d.heardAt place = List.range d.calls.length)
    (line other : Nat) : ¬ Overtakes d.calls place line other := by
  rintro ⟨call, logged, t, member, rfl, due⟩
  have earlier := (balanced.within line call logged t member).1
  have bound := (List.getElem?_eq_some_iff.mp logged).1
  have ordered := balanced.ordered place there
  rw [order, List.pairwise_iff_getElem] at ordered
  have precedes := ordered t.line line (by simp; omega) (by simpa using bound) earlier
  rw [List.getElem_range, List.getElem_range, Precedes, if_pos earlier] at precedes
  exact precedes ⟨call, logged, t, member, rfl, due⟩

/-- All listeners hear the lines as they were logged exactly if lines are logged only when those before
have come to the last listener. -/
theorem in_order_iff (balanced : Balanced listeners d) (idle : d.telling = []) :
    (∀ place < listeners.length, d.heardAt place = List.range d.calls.length) ↔
      ∀ call ∈ d.calls, ∀ t ∈ call.within, t.told = listeners.length := by
  constructor
  · intro order call member t inside
    obtain ⟨line, logged⟩ := List.mem_iff_getElem?.mp member
    have bound := (balanced.within line call logged t inside).2.2
    rcases Nat.lt_or_eq_of_le bound with there | last
    · exact (balanced.no_overtaking there (order t.told there) line t.line
        ⟨call, logged, t, inside, rfl, Nat.le_refl _⟩).elim
    · exact last
  · intro last place there
    refine balanced.in_order idle there ?_
    rintro line other ⟨call, logged, t, inside, _, due⟩
    have := last call (List.mem_of_getElem? logged) t inside
    omega

end Balanced

end MoteTrial.FanOut

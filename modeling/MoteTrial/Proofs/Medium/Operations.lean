import Mathlib.Data.List.Forall2
import MoteTrial.Experiment.Run
import MoteTrial.Proofs.Host.Operations

/-! # Operations on a radio medium

What may be asked of the link between two motes, one operation after the other, whether they fail or
not. `LinkOp.run_comes` gives the effect of an operation on the medium as a function, `LinkOp.serve`;
`LinkOp.link?_run` says what becomes of each link, `LinkOp.Alike.serve` that the order of the two ends only
shows in the entry of a change.
-/

namespace MoteTrial

open SimM Simulation Experiment

/-- The answer of an operation, or what interrupts it. -/
def SimM.outcome {κ μ α : Type} (m : SimM κ μ α) (w : World κ μ) : Except Interrupt α :=
  match m w with
  | .ok a _ => .ok a
  | .error i _ => .error i

/-- What may be asked of a link. -/
inductive LinkTask where
  | declare (ratio : Option Amount)
  | get
  | has
  | quality
  | change (kind : Change)
  | transmit (frames : Nat)

/-- An operation on the link between two motes, with its ends in the order given. -/
structure LinkOp where
  task : LinkTask
  first : Int
  second : Int

namespace LinkOp

/-- The two ends in either order. -/
def pair (op : LinkOp) : Pair := Pair.of op.first op.second

/-- The same operation with its ends in the other order. -/
def swap (op : LinkOp) : LinkOp := ⟨op.task, op.second, op.first⟩

/-- The command of an experiment that is the operation. -/
def command (op : LinkOp) : Command :=
  match op.task with
  | .declare ratio => .addLink op.first op.second ratio
  | .get => .getLink op.first op.second
  | .has => .hasLink op.first op.second
  | .quality => .linkQuality op.first op.second
  | .change kind => .change kind op.first op.second
  | .transmit frames => .transmit op.first op.second frames

/-- Carries out the operation. -/
def run (op : LinkOp) : ExpM Reply := exec Experiment.behaviour op.command

/-- The answers of operations that are carried out in order. -/
def answers : List LinkOp → World Code Notebook → List (Except Interrupt Reply)
  | [], _ => []
  | op :: rest, w => outcome op.run w :: answers rest (final op.run w)

end LinkOp

/-- The world once operations are carried out in order. One that fails keeps none from being carried
out. -/
def World.after (ops : List LinkOp) (w : World Code Notebook) : World Code Notebook :=
  ops.foldl (fun w op => final op.run w) w

theorem World.after_append (ops : List LinkOp) (op : LinkOp) (w : World Code Notebook) :
    w.after (ops ++ [op]) = final op.run (w.after ops) := List.foldl_append

namespace Medium

/-- Several frames from one mote to another. -/
def transmitAll (a b : Int) : Nat → Medium → List Char × Medium
  | 0, m => ([], m)
  | frames + 1, m =>
    let (heard, m) := m.transmit a b
    let (rest, m) := transmitAll a b frames m
    ((if heard then '1' else '0') :: rest, m)

/-- An operation that may fail, and leaves the medium as it is if it does. -/
def attempt {α : Type} (f : Medium → Except Failure (α × Medium)) (reply : α → Reply) (m : Medium) :
    Except Interrupt Reply × Medium :=
  match f m with
  | .ok (a, m) => (.ok (reply a), m)
  | .error f => (.error (.failure f.settled), m)

/-- A change of a link. It is made before the line that tells of it turns out not to be writable. -/
def alter (config : Config) (now : Int) (kind : Change) (a b : Int) (m : Medium) :
    Except Interrupt Reply × Medium :=
  match m.change config now kind a b with
  | .ok m =>
    (if Numeral.isWritable now && (Numeral.isWritable a && Numeral.isWritable b) then .ok .nothing
      else .error (.failure .unwritableInteger), m)
  | .error f => (.error (.failure f.settled), m)

end Medium

namespace LinkOp

section Serve

variable (config : Config) (now : Int)

/-- The ratio that a declaration gives its link, if it is accepted. -/
def accepted? (ratio : Option Amount) : Option Binary64 :=
  match ratio.mapM Amount.value with
  | .ok ratio => some (ratio.getD config.nominalRatio) |>.filter Medium.isRatio
  | .error _ => none

/-- What an operation answers, and what it makes of the medium. -/
def serve (op : LinkOp) (m : Medium) : Except Interrupt Reply × Medium :=
  match op.task with
  | .declare ratio =>
    m.attempt (fun m => do m.addLink config op.first op.second (← ratio.mapM Amount.value)) .link
  | .get => m.attempt (·.getLink config op.first op.second) .link
  | .has => (.ok (.flag (m.link? op.first op.second).isSome), m)
  | .quality => m.attempt (·.getLink config op.first op.second) (.ratio ·.current)
  | .change kind => m.alter config now kind op.first op.second
  | .transmit frames =>
    let (text, m) := m.transmitAll op.first op.second frames
    (.ok (.text (String.ofList text)), m)

end Serve

section Run

variable {w : World Code Notebook}

/-- An operation that has an outcome and leaves a medium, and nothing else but for the console. -/
def Comes (served : Except Interrupt Reply × Medium) (w : World Code Notebook)
    (result : EStateM.Result Interrupt (World Code Notebook) Reply) : Prop :=
  ∃ o : Observer, result =
    match served.1 with
    | .ok reply => .ok reply { w with medium := served.2, observer := o }
    | .error i => .error i { w with medium := served.2, observer := o }

theorem onMedium_comes {α : Type} (f : Config → Medium → Except Failure (α × Medium))
    (reply : α → Reply) (w : World Code Notebook) :
    Comes (w.medium.attempt (f w.config) reply) w
      ((do let a ← onMedium f
           return reply a : ExpM Reply) w) := by
  refine ⟨w.observer, ?_⟩
  unfold Medium.attempt
  cases ran : f w.config w.medium with
  | ok found =>
    obtain ⟨a, m⟩ := found
    rw [bind_ok (onMedium_ok ran)]
    rfl
  | error e =>
    rw [bind_error (onMedium_error ran)]

theorem addLink_comes (a b : Int) (ratio : Option Amount) (w : World Code Notebook) :
    Comes (w.medium.attempt (fun m => do m.addLink w.config a b (← ratio.mapM Amount.value)) .link) w
      ((do return .link (← Scenario.link a b ratio) : ExpM Reply) w) := by
  unfold Scenario.link
  cases given : ratio.mapM Amount.value with
  | error e => exact ⟨w.observer, rfl⟩
  | ok ratio => exact onMedium_comes (fun config m => m.addLink config a b ratio) .link w

theorem change_comes (kind : Change) (a b : Int) (w : World Code Notebook) :
    Comes (w.medium.alter w.config w.now kind a b) w
      ((do changeLink kind a b
           return .nothing : ExpM Reply) w) := by
  unfold Medium.alter
  cases made : w.medium.change w.config w.now kind a b with
  | error f =>
    rw [bind_error (changeLink_refused made)]
    exact ⟨w.observer, rfl⟩
  | ok m =>
    simp only
    split
    · rename_i told
      obtain ⟨o, changed⟩ := changeLink_told made told
      rw [bind_ok changed]
      exact ⟨o, rfl⟩
    · rename_i untold
      rw [bind_error (changeLink_untold made (Bool.eq_false_iff.mpr untold))]
      exact ⟨w.observer, rfl⟩

theorem transmitAll_apply (a b : Int) (frames : Nat) (w : World Code Notebook) :
    Experiment.transmitAll a b frames w =
      .ok (w.medium.transmitAll a b frames).1
        { w with medium := (w.medium.transmitAll a b frames).2 } := by
  induction frames generalizing w with
  | zero => rfl
  | succ frames ih =>
    have sent : Simulation.transmit a b w =
        .ok (w.medium.transmit a b).1 { w with medium := (w.medium.transmit a b).2 } := rfl
    unfold Experiment.transmitAll
    rw [bind_ok sent, bind_ok (ih _)]
    rfl

/-- What an operation does. -/
theorem run_comes (op : LinkOp) (w : World Code Notebook) :
    Comes (op.serve w.config w.now w.medium) w (op.run w) := by
  obtain ⟨task, a, b⟩ := op
  unfold run command exec
  cases task with
  | declare ratio => exact addLink_comes a b ratio w
  | get => exact onMedium_comes (fun config m => m.getLink config a b) .link w
  | has => exact ⟨w.observer, rfl⟩
  | quality => exact onMedium_comes (fun config m => m.getLink config a b) (.ratio ·.current) w
  | change kind => exact change_comes kind a b w
  | transmit frames =>
    refine ⟨w.observer, ?_⟩
    simp only
    rw [bind_ok (transmitAll_apply a b frames w)]
    rfl

theorem outcome_run (op : LinkOp) (w : World Code Notebook) :
    outcome op.run w = (op.serve w.config w.now w.medium).1 := by
  obtain ⟨o, ran⟩ := run_comes op w
  unfold outcome
  rw [ran]
  cases (op.serve w.config w.now w.medium).1 <;> rfl

theorem final_run (op : LinkOp) (w : World Code Notebook) :
    ∃ o, final op.run w =
      { w with medium := (op.serve w.config w.now w.medium).2, observer := o } := by
  obtain ⟨o, ran⟩ := run_comes op w
  refine ⟨o, ?_⟩
  unfold final
  rw [ran]
  cases (op.serve w.config w.now w.medium).1 <;> rfl

end Run

section Links

variable {config : Config} {now : Int} {m : Medium} {a b c d : Int}

/-- The link that an operation finds which needs one: a missing link is declared with the usual ratio,
if that is a ratio. -/
def onDemand (config : Config) (link : Option Link) : Option Link :=
  match link with
  | some link => some link
  | none =>
    if Medium.isRatio config.nominalRatio then some ⟨config.nominalRatio, config.nominalRatio, false⟩
    else none

/-- What an operation makes of the link that it is on. -/
def relink (config : Config) (op : LinkOp) (link : Option Link) : Option Link :=
  match op.task with
  | .declare ratio =>
    match accepted? config ratio with
    | some ratio => some ⟨ratio, ratio, false⟩
    | none => link
  | .get | .quality => onDemand config link
  | .has | .transmit _ => link
  | .change kind => (onDemand config link).map (kind.apply config)

theorem link?_congr (m : Medium) (same : Pair.of a b = Pair.of c d) : m.link? a b = m.link? c d := by
  rw [Medium.link?, Medium.link?, same]

theorem link?_setLink (m : Medium) (a b : Int) (link : Link) (c d : Int) :
    (m.setLink a b link).link? c d =
      if Pair.of a b = Pair.of c d then some link else m.link? c d := by
  split
  · rename_i same
    rw [← link?_congr _ same, Medium.link?_setLink_self]
  · rename_i other
    exact Medium.link?_setLink_of_ne (Ne.symm other) m link

/-- A link that is needed is there, or is declared, or cannot be. -/
theorem getLink_cases (config : Config) (a b : Int) (m : Medium) :
    (∃ link m', m.getLink config a b = .ok (link, m') ∧
        onDemand config (m.link? a b) = some link ∧
        (m' = m ∧ m.link? a b = some link ∨ m' = m.setLink a b link)) ∨
      ∃ f, m.getLink config a b = .error f ∧ onDemand config (m.link? a b) = none ∧
        m.link? a b = none := by
  unfold Medium.getLink onDemand
  cases present : m.link? a b with
  | some link => exact .inl ⟨link, m, rfl, rfl, .inl ⟨rfl, rfl⟩⟩
  | none =>
    unfold Medium.addLink
    simp only [Option.getD_none]
    split
    · exact .inl ⟨_, _, rfl, rfl, .inr rfl⟩
    · exact .inr ⟨_, rfl, rfl, trivial⟩

theorem link?_getLink {link : Link} {m' : Medium} (found : m.getLink config a b = .ok (link, m'))
    (c d : Int) :
    m'.link? c d = if Pair.of a b = Pair.of c d then onDemand config (m.link? c d) else m.link? c d := by
  rcases getLink_cases config a b m with ⟨link', m'', same, demanded, kept⟩ | ⟨f, failed, _⟩
  · cases found.symm.trans same
    rcases kept with ⟨rfl, present⟩ | rfl
    · split
      · rename_i here
        rw [← link?_congr _ here, demanded, present]
      · rfl
    · rw [link?_setLink]
      split
      · rename_i here
        rw [← link?_congr _ here, demanded]
      · rfl
  · cases found.symm.trans failed

/-- A declaration is accepted, or refused. -/
theorem declare_cases (config : Config) (a b : Int) (ratio : Option Amount) (m : Medium) :
    (∃ x, accepted? config ratio = some x ∧
        (do m.addLink config a b (← ratio.mapM Amount.value)) =
          Except.ok (⟨x, x, false⟩, m.setLink a b ⟨x, x, false⟩)) ∨
      ∃ f, accepted? config ratio = none ∧
        (do m.addLink config a b (← ratio.mapM Amount.value)) = Except.error f := by
  unfold accepted?
  cases ratio.mapM Amount.value with
  | error f => exact .inr ⟨f, rfl, rfl⟩
  | ok given =>
    cases valid : Medium.isRatio (given.getD config.nominalRatio) with
    | true => exact .inl ⟨_, Option.filter_eq_some_iff.mpr ⟨rfl, valid⟩, if_pos valid⟩
    | false =>
      have invalid : ¬ Medium.isRatio (given.getD config.nominalRatio) = true := by simp [valid]
      exact .inr ⟨_, if_neg invalid, if_neg invalid⟩

theorem link?_declare (config : Config) (a b : Int) (ratio : Option Amount) (m : Medium) (c d : Int) :
    (m.attempt (fun m => do m.addLink config a b (← ratio.mapM Amount.value)) .link).2.link? c d =
      if Pair.of a b = Pair.of c d then relink config ⟨.declare ratio, a, b⟩ (m.link? c d)
      else m.link? c d := by
  unfold relink Medium.attempt
  rcases declare_cases config a b ratio m with ⟨x, accepted, declared⟩ | ⟨f, refused, failed⟩
  · simp only [accepted, declared]
    exact link?_setLink ..
  · simp only [refused, failed]
    exact (ite_self _).symm

theorem link?_need (config : Config) (a b : Int) (reply : Link → Reply) (m : Medium) (c d : Int) :
    (m.attempt (·.getLink config a b) reply).2.link? c d =
      if Pair.of a b = Pair.of c d then onDemand config (m.link? c d) else m.link? c d := by
  unfold Medium.attempt
  rcases getLink_cases config a b m with ⟨link, m', found, _⟩ | ⟨f, failed, demanded, missing⟩
  · simp only [found]
    exact link?_getLink found c d
  · simp only [failed]
    split
    · rename_i here
      rw [← link?_congr m here, demanded, missing]
    · rfl

theorem link?_alter (config : Config) (now : Int) (kind : Change) (a b : Int) (m : Medium) (c d : Int) :
    (m.alter config now kind a b).2.link? c d =
      if Pair.of a b = Pair.of c d then (onDemand config (m.link? c d)).map (kind.apply config)
      else m.link? c d := by
  unfold Medium.alter Medium.change
  rcases getLink_cases config a b m with ⟨link, m', found, demanded, _⟩ | ⟨f, failed, demanded, missing⟩
  · have made : (m'.setLink a b (kind.apply config link)).link? c d =
        if Pair.of a b = Pair.of c d then (onDemand config (m.link? c d)).map (kind.apply config)
        else m.link? c d := by
      rw [link?_setLink, link?_getLink found]
      split
      · rename_i here
        rw [← link?_congr m here, demanded]
        rfl
      · rfl
    rw [found]
    exact made
  · rw [failed]
    change m.link? c d = _
    split
    · rename_i here
      rw [← link?_congr m here, demanded, missing]
      rfl
    · rfl

theorem links_transmit (a b : Int) (m : Medium) : (m.transmit a b).2.links = m.links := by
  unfold Medium.transmit
  split
  · rfl
  · split
    · rfl
    · rfl

theorem links_transmitAll (a b : Int) (frames : Nat) (m : Medium) :
    (m.transmitAll a b frames).2.links = m.links := by
  induction frames generalizing m with
  | zero => rfl
  | succ frames ih => exact (ih _).trans (links_transmit a b m)

/-- What an operation makes of each link: one that is on another pair leaves a link alone. -/
theorem link?_serve (op : LinkOp) (config : Config) (now : Int) (m : Medium) (c d : Int) :
    (op.serve config now m).2.link? c d =
      if op.pair = Pair.of c d then op.relink config (m.link? c d) else m.link? c d := by
  obtain ⟨task, a, b⟩ := op
  cases task with
  | declare ratio => exact link?_declare config a b ratio m c d
  | get => exact link?_need config a b .link m c d
  | has => exact (ite_self _).symm
  | quality => exact link?_need config a b (.ratio ·.current) m c d
  | change kind => exact link?_alter config now kind a b m c d
  | transmit frames =>
    refine Eq.trans ?_ (ite_self _).symm
    change (m.transmitAll a b frames).2.link? c d = m.link? c d
    rw [Medium.link?, links_transmitAll, Medium.link?]

theorem link?_run (op : LinkOp) (w : World Code Notebook) (a b : Int) :
    (final op.run w).medium.link? a b =
      if op.pair = Pair.of a b then op.relink w.config (w.medium.link? a b) else w.medium.link? a b := by
  obtain ⟨o, ran⟩ := final_run op w
  rw [ran]
  exact link?_serve ..

theorem config_run (op : LinkOp) (w : World Code Notebook) : (final op.run w).config = w.config := by
  obtain ⟨o, ran⟩ := final_run op w
  rw [ran]

end Links

end LinkOp

section Mirrors

/-- An entry without the order of its ends. -/
def Mutation.unordered (e : Mutation) : Int × Change × Pair :=
  (e.time, e.change, Pair.of e.first e.second)

/-- A medium with the same links and draws as another, and the same entries but for the order of their
ends. -/
structure Medium.Mirrors (m m' : Medium) : Prop where
  links : m'.links = m.links
  draws : m'.draws = m.draws
  mutations : m'.mutations.map Mutation.unordered = m.mutations.map Mutation.unordered

/-- The same outcome, and a medium that mirrors the other. -/
structure Medium.Repeats (served served' : Except Interrupt Reply × Medium) : Prop where
  outcome : served'.1 = served.1
  medium : served.2.Mirrors served'.2

namespace Medium

variable {m m' m'' : Medium} {config : Config} {now : Int}

theorem Mirrors.refl (m : Medium) : m.Mirrors m := ⟨rfl, rfl, rfl⟩

theorem Mirrors.setLink (mirrors : m.Mirrors m') (a b : Int) (link : Link) :
    (m.setLink a b link).Mirrors (m'.setLink a b link) :=
  ⟨congrArg (·.put (Pair.of a b) link) mirrors.links, mirrors.draws, mirrors.mutations⟩

theorem Mirrors.link? (mirrors : m.Mirrors m') (a b : Int) : m'.link? a b = m.link? a b :=
  congrArg (·.find? (Pair.of a b)) mirrors.links

theorem setLink_comm (m : Medium) (a b : Int) (link : Link) : m.setLink b a link = m.setLink a b link := by
  rw [setLink, setLink, Pair.of_comm]

theorem addLink_comm (config : Config) (a b : Int) (ratio : Option Binary64) (m : Medium) :
    m.addLink config b a ratio = m.addLink config a b ratio := by
  unfold addLink
  simp only [setLink_comm m a b]

theorem getLink_comm (config : Config) (a b : Int) (m : Medium) :
    m.getLink config b a = m.getLink config a b := by
  unfold getLink
  rw [link?_comm m b a, addLink_comm]

theorem transmitAll_comm (a b : Int) (frames : Nat) (m : Medium) :
    m.transmitAll b a frames = m.transmitAll a b frames := by
  induction frames generalizing m with
  | zero => rfl
  | succ frames ih => simp only [transmitAll, transmit_comm m b a, ih]

/-- Declarations on a medium and on one that mirrors it come to the same. -/
theorem Mirrors.addLink (mirrors : m.Mirrors m') (config : Config) (a b : Int)
    (ratio : Option Binary64) :
    (∃ f, m.addLink config a b ratio = .error f ∧ m'.addLink config a b ratio = .error f) ∨
      ∃ link m₁ m₁', m.addLink config a b ratio = .ok (link, m₁) ∧
        m'.addLink config a b ratio = .ok (link, m₁') ∧ m₁.Mirrors m₁' := by
  unfold Medium.addLink
  cases valid : isRatio (ratio.getD config.nominalRatio) with
  | true => exact .inr ⟨_, _, _, if_pos valid, if_pos valid, mirrors.setLink ..⟩
  | false =>
    have invalid : ¬ isRatio (ratio.getD config.nominalRatio) = true := by simp [valid]
    exact .inl ⟨_, if_neg invalid, if_neg invalid⟩

theorem Mirrors.getLink (mirrors : m.Mirrors m') (config : Config) (a b : Int) :
    (∃ f, m.getLink config a b = .error f ∧ m'.getLink config a b = .error f) ∨
      ∃ link m₁ m₁', m.getLink config a b = .ok (link, m₁) ∧
        m'.getLink config a b = .ok (link, m₁') ∧ m₁.Mirrors m₁' := by
  unfold Medium.getLink
  rw [mirrors.link?]
  cases m.link? a b with
  | some link => exact .inr ⟨link, m, m', rfl, rfl, mirrors⟩
  | none => exact mirrors.addLink config a b none

theorem Mirrors.attempt (mirrors : m.Mirrors m') {f : Medium → Except Failure (Link × Medium)}
    (reply : Link → Reply)
    (repeats : (∃ e, f m = .error e ∧ f m' = .error e) ∨
      ∃ link m₁ m₁', f m = .ok (link, m₁) ∧ f m' = .ok (link, m₁') ∧ m₁.Mirrors m₁') :
    Repeats (m.attempt f reply) (m'.attempt f reply) := by
  unfold Medium.attempt
  rcases repeats with ⟨e, failed, failed'⟩ | ⟨link, m₁, m₁', done, done', mirrors'⟩
  · rw [failed, failed']
    exact ⟨rfl, mirrors⟩
  · rw [done, done']
    exact ⟨rfl, mirrors'⟩

theorem Mirrors.transmit (mirrors : m.Mirrors m') (a b : Int) :
    (m'.transmit a b).1 = (m.transmit a b).1 ∧ (m.transmit a b).2.Mirrors (m'.transmit a b).2 := by
  unfold Medium.transmit
  rw [mirrors.link?, mirrors.draws]
  split
  · exact ⟨rfl, mirrors⟩
  · split
    · exact ⟨rfl, mirrors⟩
    · exact ⟨rfl, mirrors.links, rfl, mirrors.mutations⟩

theorem Mirrors.transmitAll (mirrors : m.Mirrors m') (a b : Int) (frames : Nat) :
    (m'.transmitAll a b frames).1 = (m.transmitAll a b frames).1 ∧
      (m.transmitAll a b frames).2.Mirrors (m'.transmitAll a b frames).2 := by
  induction frames generalizing m m' with
  | zero => exact ⟨rfl, mirrors⟩
  | succ frames ih =>
    obtain ⟨heard, sent⟩ := mirrors.transmit a b
    obtain ⟨rest, after⟩ := ih sent
    refine ⟨?_, after⟩
    simp only [Medium.transmitAll, heard, rest]

/-- A change is noted with its ends in the order given. -/
theorem Mirrors.alter (mirrors : m.Mirrors m') (config : Config) (now : Int) (kind : Change)
    {a b c d : Int} (same : c = a ∧ d = b ∨ c = b ∧ d = a) :
    Repeats (m.alter config now kind a b) (m'.alter config now kind c d) := by
  have told : (Numeral.isWritable c && Numeral.isWritable d) =
      (Numeral.isWritable a && Numeral.isWritable b) := by
    rcases same with ⟨rfl, rfl⟩ | ⟨rfl, rfl⟩
    · rfl
    · exact Bool.and_comm ..
  have pair : Pair.of c d = Pair.of a b := by
    rcases same with ⟨rfl, rfl⟩ | ⟨rfl, rfl⟩
    · rfl
    · exact Pair.of_comm ..
  have found : m'.getLink config c d = m'.getLink config a b := by
    rcases same with ⟨rfl, rfl⟩ | ⟨rfl, rfl⟩
    · rfl
    · exact getLink_comm ..
  unfold Medium.alter Medium.change
  rw [found, told]
  rcases mirrors.getLink config a b with ⟨f, failed, failed'⟩ | ⟨link, m₁, m₁', got, got', mirrors'⟩
  · rw [failed, failed']
    exact ⟨rfl, mirrors⟩
  · rw [got, got']
    refine ⟨rfl, ?_, mirrors'.draws, ?_⟩
    · change m₁'.links.put (Pair.of c d) _ = m₁.links.put (Pair.of a b) _
      rw [pair, mirrors'.links]
    · change (m₁'.mutations.push _).map _ = (m₁.mutations.push _).map _
      rw [Array.map_push, Array.map_push, mirrors'.mutations, Mutation.unordered, Mutation.unordered, pair]

end Medium

namespace LinkOp

/-- The same operation, or the one with its ends in the other order. -/
def Alike (op op' : LinkOp) : Prop := op' = op ∨ op' = op.swap

variable {m m' : Medium} {op op' : LinkOp}

/-- The order of the ends means nothing to an operation that changes no link. -/
theorem serve_swap (still : ∀ kind, op.task ≠ .change kind) (config : Config) (now : Int)
    (m : Medium) : op.swap.serve config now m = op.serve config now m := by
  obtain ⟨task, a, b⟩ := op
  unfold serve swap
  cases task with
  | declare ratio => simp only [Medium.addLink_comm config a b]
  | get => simp only [Medium.getLink_comm config a b]
  | has => simp only [Medium.link?_comm m b a]
  | quality => simp only [Medium.getLink_comm config a b]
  | change kind => exact absurd rfl (still kind)
  | transmit frames => simp only [Medium.transmitAll_comm a b frames m]

theorem serve_mirrors (mirrors : m.Mirrors m') (still : ∀ kind, op.task ≠ .change kind)
    (config : Config) (now : Int) :
    Medium.Repeats (op.serve config now m) (op.serve config now m') := by
  obtain ⟨task, a, b⟩ := op
  unfold serve
  cases task with
  | declare ratio =>
    refine mirrors.attempt .link ?_
    cases ratio.mapM Amount.value with
    | error f => exact .inl ⟨f, rfl, rfl⟩
    | ok ratio => exact mirrors.addLink config a b ratio
  | get => exact mirrors.attempt .link (mirrors.getLink config a b)
  | has =>
    refine ⟨?_, mirrors⟩
    simp only [mirrors.link? a b]
  | quality => exact mirrors.attempt (.ratio ·.current) (mirrors.getLink config a b)
  | change kind => exact absurd rfl (still kind)
  | transmit frames =>
    obtain ⟨heard, after⟩ := mirrors.transmitAll a b frames
    refine ⟨?_, after⟩
    simp only [heard]

/-- The order of the two ends shows in the entry of a change only. -/
theorem Alike.serve (alike : op.Alike op') (mirrors : m.Mirrors m') (config : Config) (now : Int) :
    Medium.Repeats (op.serve config now m) (op'.serve config now m') := by
  by_cases still : ∀ kind, op.task ≠ .change kind
  · have same : op'.serve config now m' = op.serve config now m' := by
      rcases alike with rfl | rfl
      · rfl
      · exact serve_swap still config now m'
    rw [same]
    exact serve_mirrors mirrors still config now
  · obtain ⟨kind, changes⟩ : ∃ kind, op.task = .change kind := by simpa using still
    obtain ⟨task, a, b⟩ := op
    obtain rfl : task = .change kind := changes
    rcases alike with rfl | rfl
    · exact mirrors.alter config now kind (.inl ⟨rfl, rfl⟩)
    · exact mirrors.alter config now kind (.inr ⟨rfl, rfl⟩)

end LinkOp

end Mirrors

end MoteTrial

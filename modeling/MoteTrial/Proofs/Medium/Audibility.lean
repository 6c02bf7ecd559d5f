import MoteTrial.Proofs.Medium.LinkTable

/-! # Motes without a declared link

A frame between two motes whose link nobody declared is lost, unless the link came to be on demand: a
link that is asked for or changed before it is declared is declared with the usual ratio, on which frames
are heard (`undeclared_heard`). Without that, and on a link that is degraded, `undeclared_unheard` has every
frame lost.
-/

namespace MoteTrial

open SimM Experiment

namespace Medium

variable {m : Medium} {a b : Int}

/-- Without a link, and on a dead one, no frame is received and nothing is drawn. -/
theorem transmitAll_lost (lost : ∀ link ∈ m.link? a b, link.current.le Binary64.zero = true)
    (frames : Nat) : m.transmitAll a b frames = (List.replicate frames '0', m) := by
  have once : m.transmit a b = (false, m) := by
    cases present : m.link? a b with
    | none => simp only [transmit, present]
    | some link => exact transmit_dead present (lost link present)
  induction frames with
  | zero => rfl
  | succ frames ih =>
    simp only [transmitAll, once, ih]
    rfl

end Medium

namespace LinkOp

/-- An operation that declares no link of a pair. -/
def Undeclaring (p : Pair) (op : LinkOp) : Prop := op.pair = p → ∀ ratio, op.task ≠ .declare ratio

theorem onDemand_onDemand (config : Config) (link : Option Link) :
    onDemand config (onDemand config link) = onDemand config link := by
  cases link with
  | some link => rfl
  | none =>
    unfold onDemand
    cases Medium.isRatio config.nominalRatio <;> rfl

variable {p : Pair} {op : LinkOp} {config : Config} {link : Option Link}

/-- Only a declaration and an operation that needs a link bring one about. -/
theorem relink_none (undeclaring : op.Undeclaring p) (unneeded : ¬ op.Needs p) (here : op.pair = p) :
    op.relink config none = none := by
  unfold relink
  cases task : op.task with
  | declare ratio => exact absurd task (undeclaring here ratio)
  | get => exact absurd ⟨here, .inl task⟩ unneeded
  | has => rfl
  | quality => exact absurd ⟨here, .inr (.inl task)⟩ unneeded
  | change kind => exact absurd ⟨here, .inr (.inr ⟨kind, task⟩)⟩ unneeded
  | transmit frames => rfl

/-- What a need would find stays as it is without a declaration or a change. -/
theorem onDemand_relink (undeclaring : op.Undeclaring p) (here : op.pair = p)
    (unchanged : op.changed? p = none) :
    onDemand config (op.relink config link) = onDemand config link := by
  unfold relink
  cases task : op.task with
  | declare ratio => exact absurd task (undeclaring here ratio)
  | get => exact onDemand_onDemand config link
  | has => rfl
  | quality => exact onDemand_onDemand config link
  | change kind => simp [changed?, task, here] at unchanged
  | transmit frames => rfl

/-- A link that was degraded is dead, and so is what a need would find. -/
theorem dead_relink (dead : config.deterioratedRatio.le Binary64.zero = true)
    (degrades : op.changed? p = some .deteriorate) :
    ∀ l ∈ onDemand config (op.relink config link), l.current.le Binary64.zero = true := by
  have changes := (changed?_eq_some degrades).2
  simp only [relink, changes]
  cases found : onDemand config link with
  | some l =>
    rintro _ ⟨⟩
    exact dead
  | none =>
    have missing : onDemand config none = none := by
      cases link with
      | some l => cases found
      | none => exact found
    simp [missing]

end LinkOp

open LinkOp LinkTable

section Run

variable {w : World Code Notebook} {ops : List LinkOp} {a b : Int}

theorem World.after_config (ops : List LinkOp) (w : World Code Notebook) :
    (w.after ops).config = w.config := by
  induction ops using List.reverseRecOn with
  | nil => rfl
  | append_singleton ops op ih => rw [World.after_append, config_run, ih]

/-- No link comes to be that is neither declared nor needed. -/
theorem missing_after (missing : w.medium.link? a b = none)
    (undeclared : ∀ op ∈ ops, op.Undeclaring (Pair.of a b))
    (unneeded : ∀ op ∈ ops, ¬ op.Needs (Pair.of a b)) : (w.after ops).medium.link? a b = none := by
  induction ops using List.reverseRecOn with
  | nil => exact missing
  | append_singleton ops op ih =>
    simp only [List.forall_mem_append, List.forall_mem_singleton] at undeclared unneeded
    rw [World.after_append, link?_run, ih undeclared.1 unneeded.1]
    split
    · rename_i here
      exact relink_none undeclared.2 unneeded.2 here
    · rfl

/-- A link stays dead from when it is degraded to when it is restored. -/
theorem dead_after (dead : w.config.deterioratedRatio.le Binary64.zero = true)
    (undeclared : ∀ op ∈ ops, op.Undeclaring (Pair.of a b))
    (degraded : last? (changed? (Pair.of a b)) ops = some .deteriorate) :
    ∀ l ∈ onDemand w.config ((w.after ops).medium.link? a b), l.current.le Binary64.zero = true := by
  induction ops using List.reverseRecOn with
  | nil => cases degraded
  | append_singleton ops op ih =>
    simp only [List.forall_mem_append, List.forall_mem_singleton] at undeclared
    rw [last?_append] at degraded
    rw [World.after_append, link?_run, World.after_config]
    cases changes : op.changed? (Pair.of a b) with
    | none =>
      rw [changes, Option.none_or] at degraded
      split
      · rename_i here
        rw [onDemand_relink undeclared.2 here changes]
        exact ih undeclared.1 degraded
      · exact ih undeclared.1 degraded
    | some kind =>
      rw [changes] at degraded
      cases degraded
      rw [if_pos (changed?_eq_some changes).1]
      exact dead_relink dead changes

end Run

/-- Motes without a declared link do not hear each other, be it that no operation needed a link between
them or that their link was degraded last. -/
theorem undeclared_unheard {w : World Code Notebook} {ops : List LinkOp} {a b : Int}
    (missing : w.medium.link? a b = none) (undeclared : ∀ op ∈ ops, op.Undeclaring (Pair.of a b))
    (unlinked : (∀ op ∈ ops, ¬ op.Needs (Pair.of a b)) ∨
      w.config.deterioratedRatio.le Binary64.zero = true ∧
        last? (changed? (Pair.of a b)) ops = some .deteriorate)
    {op : LinkOp} {frames : Nat} (between : op.pair = Pair.of a b) (sends : op.task = .transmit frames) :
    outcome op.run (w.after ops) = .ok (.text (String.ofList (List.replicate frames '0'))) ∧
      (w.after (ops ++ [op])).medium = (w.after ops).medium := by
  have lost : ∀ link ∈ (w.after ops).medium.link? op.first op.second,
      link.current.le Binary64.zero = true := by
    intro link present
    rw [link?_congr _ between] at present
    rcases unlinked with unneeded | ⟨dead, degraded⟩
    · rw [missing_after missing undeclared unneeded] at present
      cases present
    · refine dead_after dead undeclared degraded link ?_
      rw [Option.mem_def.mp present]
      rfl
  have served : op.serve (w.after ops).config (w.after ops).now (w.after ops).medium =
      (.ok (.text (String.ofList (List.replicate frames '0'))), (w.after ops).medium) := by
    simp only [serve, sends, Medium.transmitAll_lost lost]
  obtain ⟨o, ran⟩ := final_run op (w.after ops)
  exact ⟨by rw [outcome_run, served], by rw [World.after_append, ran, served]⟩

/-- Two motes whose link nothing has needed, and two whose link was restored and then degraded. -/
theorem undeclared_unheard_degraded :
    let w : World Code Notebook := World.plain {}
    let asked : List LinkOp := [⟨.quality, 1, 3⟩, ⟨.has, 1, 2⟩, ⟨.declare none, 2, 3⟩]
    let degraded : List LinkOp :=
      [⟨.change .improve, 2, 1⟩, ⟨.change .deteriorate, 1, 2⟩, ⟨.quality, 1, 2⟩]
    outcome (⟨.transmit 2, 2, 1⟩ : LinkOp).run (w.after asked) = .ok (.text "00") ∧
      outcome (⟨.transmit 3, 1, 2⟩ : LinkOp).run (w.after degraded) = .ok (.text "000") := by
  intro w asked degraded
  have other : ∀ op ∈ asked, op.Undeclaring (Pair.of 1 2) := by
    simp [asked, Undeclaring, LinkOp.pair, Pair.of]
  have unneeded : ∀ op ∈ asked, ¬ op.Needs (Pair.of 1 2) := by
    simp [asked, Needs, LinkOp.pair, Pair.of]
  have undeclared : ∀ op ∈ degraded, op.Undeclaring (Pair.of 1 2) := by simp [degraded, Undeclaring]
  have dead : w.config.deterioratedRatio.le Binary64.zero = true := by decide +kernel
  have first := @undeclared_unheard w asked 1 2 rfl other (.inl unneeded) ⟨.transmit 2, 2, 1⟩ 2
    rfl rfl
  have second := @undeclared_unheard w degraded 1 2 rfl undeclared (.inr ⟨dead, rfl⟩)
    ⟨.transmit 3, 1, 2⟩ 3 rfl rfl
  exact ⟨first.1, second.1⟩

/-- A frame may be heard between motes without a declared link, once a change of the link has declared it
with the usual ratio. -/
theorem undeclared_heard :
    ¬ ∀ (w : World Code Notebook) (ops : List LinkOp) (a b : Int) (frames : Nat),
      w.medium.links = ∅ → (∀ op ∈ ops, op.Undeclaring (Pair.of a b)) →
        outcome (⟨.transmit frames, a, b⟩ : LinkOp).run (w.after ops) =
          .ok (.text (String.ofList (List.replicate frames '0'))) := by
  intro claim
  have unheard := claim (World.plain {}) [⟨.change .improve, 1, 2⟩] 1 2 1 rfl (by simp [Undeclaring])
  have present : ((World.plain {}).after [⟨.change .improve, 1, 2⟩]).medium.link? 1 2 =
      some Medium.usualLink := by decide +kernel
  simp [outcome_run, serve, Medium.transmitAll, Medium.transmit_usual present] at unheard

end MoteTrial

import Mathlib.Data.List.Induction
import MoteTrial.Proofs.Medium.Operations

/-! # The table of links

What the table holds for a pair of motes after any operations on a fresh medium, read off the operations
themselves: the last declaration of the pair and the changes of its link since. Nothing but operations on
the pair counts, and the order of its two ends does not: `link_table`.
-/

namespace MoteTrial

open SimM Experiment

namespace Table

variable {κ α : Type} [Ord κ] [Std.LawfulEqOrd κ] [DecidableEq κ]

theorem filter_key_of_lookup {entries : List (κ × α)} (key : κ)
    (increasing : entries.Pairwise fun a b => compare a.1 b.1 = .lt) :
    entries.filter (fun e => e.1 = key) = (lookup key entries).toList.map fun value => (key, value) := by
  induction entries with
  | nil => rfl
  | cons head rest ih =>
    obtain ⟨k, v⟩ := head
    obtain ⟨before, sorted⟩ := List.pairwise_cons.mp increasing
    by_cases same : k = key
    · subst same
      have alone : rest.filter (fun e => e.1 = k) = [] := by
        refine List.filter_eq_nil_iff.mpr fun e member here => ?_
        have less := before e member
        have self : compare k k = .eq := Std.ReflCmp.compare_self
        rw [of_decide_eq_true here, self] at less
        cases less
      rw [List.filter_cons_of_pos (by simp), alone]
      simp [lookup]
    · have differs : compare key k ≠ .eq := fun equal =>
        same (Std.LawfulEqCmp.compare_eq_iff_eq.mp equal).symm
      rw [List.filter_cons_of_neg (by simp [same]), ih sorted]
      simp [lookup, differs]

/-- A key has one entry, or none. -/
theorem filter_key (t : Table κ α) (key : κ) :
    t.entries.filter (fun e => e.1 = key) = (t.find? key).toList.map fun value => (key, value) :=
  filter_key_of_lookup key t.increasing

end Table

/-- A pair of these two identifiers, in whatever order they are given. -/
def Pair.Joins (p : Pair) (a b : Int) : Prop := p.low = a ∧ p.high = b ∨ p.low = b ∧ p.high = a

instance (p : Pair) (a b : Int) : Decidable (p.Joins a b) := inferInstanceAs (Decidable (_ ∨ _))

theorem Pair.low_of (a b : Int) : (Pair.of a b).low = min a b := by
  unfold Pair.of
  split
  · simp only; omega
  · simp only; omega

theorem Pair.high_of (a b : Int) : (Pair.of a b).high = max a b := by
  unfold Pair.of
  split
  · simp only; omega
  · simp only; omega

theorem Pair.joins_iff {p : Pair} {a b : Int} : p.Joins a b ↔ p = Pair.of a b := by
  have ordered := p.low_le_high
  unfold Pair.Joins
  constructor
  · intro joins
    have low := Pair.low_of a b
    have high := Pair.high_of a b
    generalize Pair.of a b = q at low high
    cases p
    cases q
    simp only [Pair.mk.injEq] at *
    omega
  · rintro rfl
    rw [Pair.low_of, Pair.high_of]
    omega

namespace LinkOp

/-- The ratio with which an operation declares the link of a pair. -/
def declared? (p : Pair) (op : LinkOp) : Option Binary64 :=
  match op.task with
  | .declare ratio => if op.pair = p then accepted? Config.standard ratio else none
  | _ => none

/-- The change that an operation makes to the link of a pair. -/
def changed? (p : Pair) (op : LinkOp) : Option Change :=
  match op.task with
  | .change kind => if op.pair = p then some kind else none
  | _ => none

theorem declared?_eq_some {p : Pair} {op : LinkOp} {ratio : Binary64}
    (declares : op.declared? p = some ratio) :
    ∃ given, op.task = .declare given ∧ accepted? Config.standard given = some ratio := by
  unfold declared? at declares
  split at declares
  · rename_i given task
    split at declares
    · exact ⟨given, task, declares⟩
    · cases declares
  · cases declares

theorem changed?_eq_some {p : Pair} {op : LinkOp} {kind : Change} (changes : op.changed? p = some kind) :
    op.pair = p ∧ op.task = .change kind := by
  unfold changed? at changes
  split at changes
  · rename_i kind' task
    split at changes
    · rename_i here
      cases changes
      exact ⟨here, task⟩
    · cases changes
  · cases changes

/-- An operation that needs the link of a pair, so that a missing one is declared on demand. -/
def Needs (p : Pair) (op : LinkOp) : Prop :=
  op.pair = p ∧ (op.task = .get ∨ op.task = .quality ∨ ∃ kind, op.task = .change kind)

/-- An operation on another pair, one that only asks or sends frames, or a declaration that is refused. -/
def Spares (p : Pair) (w : World Code Notebook) (op : LinkOp) : Prop :=
  op.pair ≠ p ∨ op.task = .has ∨ (∃ frames, op.task = .transmit frames) ∨
    ∃ ratio i, op.task = .declare ratio ∧ outcome op.run w = .error i

end LinkOp

namespace LinkTable

open LinkOp

/-- What the last operation says that says anything. -/
def last? {α : Type} (said : LinkOp → Option α) (ops : List LinkOp) : Option α :=
  (ops.filterMap said).getLast?

/-- The link of a pair was degraded, and has neither been declared nor restored since. -/
def Degraded (p : Pair) (ops : List LinkOp) : Prop :=
  ∃ before op after, ops = before ++ op :: after ∧ op.changed? p = some .deteriorate ∧
    ∀ later ∈ after, later.declared? p = none ∧ later.changed? p ≠ some .improve

/-- What the link of a pair says of the operations. -/
structure Entry (p : Pair) (ops : List LinkOp) (link : Link) : Prop where
  nominal : link.nominal = (last? (declared? p) ops).getD Config.standard.nominalRatio
  ratio : Medium.isRatio link.nominal = true
  deteriorated : link.deteriorated = true ↔ Degraded p ops
  current : link.current =
    if link.deteriorated then Config.standard.deterioratedRatio else link.nominal

/-- What the table says of the operations on a pair: there is a link once the pair is declared or a link
of it is needed. -/
structure Account (p : Pair) (ops : List LinkOp) (link : Option Link) : Prop where
  present : link.isSome = true ↔ ∃ op ∈ ops, (op.declared? p).isSome = true ∨ op.Needs p
  entry : ∀ l ∈ link, Entry p ops l

section History

variable {p : Pair} {ops : List LinkOp} {op : LinkOp} {link : Link}

theorem last?_append {α : Type} (said : LinkOp → Option α) (ops : List LinkOp) (op : LinkOp) :
    last? said (ops ++ [op]) = (said op).or (last? said ops) := by
  unfold last?
  rw [List.filterMap_append]
  cases new : said op with
  | none => simp [new]
  | some x => simp [new]

/-- Degrading a link holds until it is declared or restored. -/
theorem degraded_append :
    Degraded p (ops ++ [op]) ↔ op.changed? p = some .deteriorate ∨
      Degraded p ops ∧ op.declared? p = none ∧ op.changed? p ≠ some .improve := by
  constructor
  · rintro ⟨before, first, after, split, degrades, kept⟩
    rcases List.eq_nil_or_concat after with rfl | ⟨after', last, rfl⟩
    · obtain ⟨rfl, same⟩ := List.append_inj' split rfl
      cases same
      exact .inl degrades
    · rw [List.concat_eq_append, ← List.cons_append, ← List.append_assoc] at split
      obtain ⟨rfl, same⟩ := List.append_inj' split rfl
      cases same
      exact .inr ⟨⟨before, first, after', rfl, degrades, fun later member =>
        kept later (by simp [member])⟩, kept op (by simp)⟩
  · rintro (degrades | ⟨⟨before, first, after, rfl, degrades, kept⟩, spared⟩)
    · exact ⟨ops, op, [], rfl, degrades, by simp⟩
    · refine ⟨before, first, after ++ [op], by simp, degrades, fun later member => ?_⟩
      rcases List.mem_append.mp member with earlier | last
      · exact kept later earlier
      · obtain rfl := List.mem_singleton.mp last
        exact spared

/-- A declaration starts the link of a pair anew. -/
theorem Entry.declared {ratio : Binary64} (declares : op.declared? p = some ratio) :
    Entry p (ops ++ [op]) ⟨ratio, ratio, false⟩ := by
  obtain ⟨given, task, accepted⟩ := declared?_eq_some declares
  have valid : Medium.isRatio ratio = true := by
    unfold accepted? at accepted
    split at accepted
    · exact (Option.filter_eq_some_iff.mp accepted).2
    · cases accepted
  have still : op.changed? p ≠ some .deteriorate := by simp [changed?, task]
  refine ⟨by rw [last?_append, declares]; rfl, valid, ?_, rfl⟩
  rw [degraded_append, declares]
  simp [still]

/-- A change is the last that is said of the link of a pair. -/
theorem Entry.changed {kind : Change} (entry : Entry p ops link) (changes : op.changed? p = some kind) :
    Entry p (ops ++ [op]) (kind.apply Config.standard link) := by
  have undeclared : op.declared? p = none := by simp [declared?, (changed?_eq_some changes).2]
  have nominal : (kind.apply Config.standard link).nominal = link.nominal := by cases kind <;> rfl
  refine ⟨?_, nominal ▸ entry.ratio, ?_, ?_⟩
  · rw [nominal, entry.nominal, last?_append, undeclared, Option.none_or]
  · rw [degraded_append, changes, undeclared]
    cases kind with
    | deteriorate => simp [Change.apply]
    | improve => simp [Change.apply]
  · cases kind <;> rfl

theorem Entry.kept (entry : Entry p ops link) (undeclared : op.declared? p = none)
    (unchanged : op.changed? p = none) : Entry p (ops ++ [op]) link := by
  refine ⟨?_, entry.ratio, ?_, entry.current⟩
  · rw [entry.nominal, last?_append, undeclared, Option.none_or]
  · rw [entry.deteriorated, degraded_append, undeclared, unchanged]
    simp

/-- While a pair has no link, the usual link is what the operations say of it. -/
theorem Account.usual (account : Account p ops none) : Entry p ops Medium.usualLink := by
  have idle : ∀ op ∈ ops, op.declared? p = none ∧ ¬ op.Needs p := by
    have absent := account.present
    simpa [not_or] using absent
  have undeclared : ops.filterMap (declared? p) = [] :=
    List.filterMap_eq_nil_iff.mpr fun op member => (idle op member).1
  have nominal : Medium.usualLink.nominal = Config.standard.nominalRatio := by rw [Medium.usualLink]
  refine ⟨by simp [last?, undeclared, nominal], nominal ▸ Medium.isRatio_nominal, ?_,
    (if_neg Bool.false_ne_true).symm⟩
  refine iff_of_false Bool.false_ne_true ?_
  rintro ⟨before, op, after, rfl, degrades, -⟩
  obtain ⟨here, task⟩ := changed?_eq_some degrades
  exact (idle op (by simp)).2 ⟨here, .inr (.inr ⟨_, task⟩)⟩

/-- What an operation finds that needs the link of a pair. -/
theorem Account.found {link : Option Link} (account : Account p ops link) :
    Entry p ops (link.getD Medium.usualLink) := by
  cases link with
  | none => exact account.usual
  | some link => exact account.entry link rfl

theorem Account.put (counts : (op.declared? p).isSome = true ∨ op.Needs p)
    (entry : Entry p (ops ++ [op]) link) : Account p (ops ++ [op]) (some link) := by
  refine ⟨iff_of_true rfl ⟨op, by simp, counts⟩, ?_⟩
  rintro _ ⟨⟩
  exact entry

theorem Account.kept {link : Option Link} (account : Account p ops link)
    (undeclared : op.declared? p = none) (unchanged : op.changed? p = none) (unneeded : ¬ op.Needs p) :
    Account p (ops ++ [op]) link := by
  refine ⟨?_, fun l present => (account.entry l present).kept undeclared unchanged⟩
  rw [account.present]
  simp [or_and_right, exists_or, undeclared, unneeded]

theorem onDemand_standard (link : Option Link) :
    onDemand Config.standard link = some (link.getD Medium.usualLink) := by
  cases link with
  | some link => rfl
  | none => rw [onDemand, if_pos Medium.isRatio_nominal, Option.getD_none, Medium.usualLink]

/-- What an operation makes of the link of a pair is what the operations then say of it. -/
theorem Account.step {link : Option Link} (account : Account p ops link) (op : LinkOp) :
    Account p (ops ++ [op])
      (if op.pair = p then op.relink Config.standard link else link) := by
  split
  · rename_i here
    unfold relink
    cases task : op.task with
    | declare ratio =>
      simp only
      cases accepted : accepted? Config.standard ratio with
      | some x =>
        have declares : op.declared? p = some x := by simp [declared?, task, here, accepted]
        exact .put (.inl (by simp [declares])) (.declared declares)
      | none =>
        exact account.kept (by simp [declared?, task, accepted]) (by simp [changed?, task])
          (by simp [Needs, task])
    | get =>
      simp only [onDemand_standard]
      exact .put (.inr ⟨here, .inl task⟩)
        (account.found.kept (by simp [declared?, task]) (by simp [changed?, task]))
    | has =>
      exact account.kept (by simp [declared?, task]) (by simp [changed?, task]) (by simp [Needs, task])
    | quality =>
      simp only [onDemand_standard]
      exact .put (.inr ⟨here, .inr (.inl task)⟩)
        (account.found.kept (by simp [declared?, task]) (by simp [changed?, task]))
    | change kind =>
      simp only [onDemand_standard, Option.map_some]
      exact .put (.inr ⟨here, .inr (.inr ⟨kind, task⟩)⟩)
        (account.found.changed (by simp [changed?, task, here]))
    | transmit frames =>
      exact account.kept (by simp [declared?, task]) (by simp [changed?, task]) (by simp [Needs, task])
  · rename_i elsewhere
    refine account.kept ?_ ?_ (by simp [Needs, elsewhere])
    · unfold declared?
      split <;> simp [elsewhere]
    · unfold changed?
      split <;> simp [elsewhere]

end History

section Run

variable {w w' : World Code Notebook}

/-- What operations on a fresh medium leave is what they say of the link of a pair. -/
theorem account_after (standard : w.config = Config.standard) (fresh : w.medium.links = ∅)
    (ops : List LinkOp) (a b : Int) :
    (w.after ops).config = Config.standard ∧
      Account (Pair.of a b) ops ((w.after ops).medium.link? a b) := by
  induction ops using List.reverseRecOn with
  | nil =>
    have missing : w.medium.link? a b = none := by
      rw [Medium.link?, fresh]
      rfl
    refine ⟨standard, ?_⟩
    change Account _ _ (w.medium.link? a b)
    rw [missing]
    exact ⟨by simp, by simp⟩
  | append_singleton ops op ih =>
    obtain ⟨config, account⟩ := ih
    rw [World.after_append, config_run, link?_run, config]
    exact ⟨rfl, account.step op⟩

/-- Operations with their ends in other orders have the same answers on a medium that mirrors another. -/
theorem answers_alike {ops ops' : List LinkOp} (alike : List.Forall₂ LinkOp.Alike ops ops')
    (config : w'.config = w.config) (now : w'.now = w.now) (mirrors : w.medium.Mirrors w'.medium) :
    answers ops' w' = answers ops w ∧ (w.after ops).medium.Mirrors (w'.after ops').medium := by
  induction alike generalizing w w' with
  | nil => exact ⟨rfl, mirrors⟩
  | @cons op op' ops ops' first rest ih =>
    obtain ⟨same, medium⟩ := first.serve mirrors w.config w.now
    obtain ⟨o, ran⟩ := final_run op w
    obtain ⟨o', ran'⟩ := final_run op' w'
    rw [config, now] at ran'
    obtain ⟨later, mirrored⟩ := @ih (final op.run w) (final op'.run w')
      (by rw [ran, ran']) (by rw [ran, ran']; exact now) (by rw [ran, ran']; exact medium)
    refine ⟨?_, mirrored⟩
    rw [answers, answers, later, outcome_run, outcome_run, config, now, same]

/-- A declaration fails if its ratio is refused. -/
theorem declare_fails {op : LinkOp} {ratio : Option Amount} (declares : op.task = .declare ratio)
    (standard : w.config = Config.standard) :
    (∃ i, outcome op.run w = .error i) ↔ accepted? Config.standard ratio = none := by
  rw [outcome_run, serve, declares, standard]
  simp only [Medium.attempt]
  rcases declare_cases Config.standard op.first op.second ratio w.medium with
    ⟨x, accepted, declared⟩ | ⟨f, refused, failed⟩
  · simp [accepted, declared]
  · simp [refused, failed]

theorem link?_spared {op : LinkOp} {a b : Int} (spares : op.Spares (Pair.of a b) w)
    (standard : w.config = Config.standard) :
    (final op.run w).medium.link? a b = w.medium.link? a b := by
  rw [link?_run, standard]
  split
  · rename_i here
    rcases spares with elsewhere | asks | ⟨frames, sends⟩ | ⟨ratio, i, declares, failed⟩
    · exact absurd here elsewhere
    · rw [relink, asks]
    · rw [relink, sends]
    · have refused := (declare_fails declares standard).mp ⟨i, failed⟩
      simp only [relink, declares, refused]
  · rfl

end Run

end LinkTable

open LinkTable LinkOp

/-- The table of links after any operations on a fresh medium. A pair has one entry at most, under its
smaller identifier first, and the entry is what the operations on the pair say of it: its nominal ratio
is that of the last declaration, or the usual one, it is degraded if a degrading came after that without
a restoring since, and its ratio follows from the two. An operation on another pair, a question whether
there is a link, a frame and a refused declaration leave it alone, and the order in which the two ends of
the operations are given shows in the entries of the changes only. -/
theorem link_table {w : World Code Notebook} (standard : w.config = Config.standard)
    (fresh : w.medium.links = ∅) (ops : List LinkOp) (a b : Int) :
    (w.after ops).medium.links.entries.filter (fun e => e.1.Joins a b) =
        ((w.after ops).medium.link? a b).toList.map (fun link => (Pair.of a b, link)) ∧
      (Pair.of a b).low = min a b ∧ (Pair.of a b).high = max a b ∧
      Account (Pair.of a b) ops ((w.after ops).medium.link? a b) ∧
      (∀ op : LinkOp, op.Spares (Pair.of a b) (w.after ops) →
        (w.after (ops ++ [op])).medium.link? a b = (w.after ops).medium.link? a b) ∧
      (∀ (op : LinkOp) (ratio : Option Amount), op.task = .declare ratio →
        ((∃ i, outcome op.run (w.after ops) = .error i) ↔ accepted? Config.standard ratio = none)) ∧
      ∀ ops', List.Forall₂ LinkOp.Alike ops ops' →
        answers ops' w = answers ops w ∧ (w.after ops).medium.Mirrors (w.after ops').medium := by
  obtain ⟨config, account⟩ := account_after standard fresh ops a b
  refine ⟨?_, Pair.low_of a b, Pair.high_of a b, account, fun op spares => ?_,
    fun op ratio declares => declare_fails declares config,
    fun ops' alike => answers_alike alike rfl rfl (.refl _)⟩
  · simp only [Pair.joins_iff]
    exact Table.filter_key ..
  · rw [World.after_append]
    exact link?_spared spares config

/-- A link that is declared at one half once it was needed, and degraded, refused a further declaration,
asked for and used afterwards. -/
def LinkTable.halved : List LinkOp :=
  [⟨.quality, 1, 2⟩, ⟨.change .improve, 2, 1⟩, ⟨.declare (some (.double (Binary64.ofScaled 1 1))), 2, 1⟩,
    ⟨.change .deteriorate, 1, 2⟩, ⟨.declare (some (.whole 2)), 1, 2⟩, ⟨.declare none, 1, 3⟩,
    ⟨.get, 2, 1⟩, ⟨.transmit 3, 1, 2⟩]

theorem link_table_halved :
    let w : World Code Notebook := World.plain {}
    let link : Link := ⟨Binary64.ofScaled 1 1, Config.standard.deterioratedRatio, true⟩
    w.config = Config.standard ∧ w.medium.links = ∅ ∧ (w.after halved).medium.link? 2 1 = some link ∧
      Entry (Pair.of 2 1) halved link ∧ List.Forall₂ LinkOp.Alike halved (halved.map LinkOp.swap) ∧
      answers (halved.map LinkOp.swap) w = answers halved w := by
  intro w link
  have present : (w.after halved).medium.link? 2 1 = some link := by decide +kernel
  have swapped : List.Forall₂ LinkOp.Alike halved (halved.map LinkOp.swap) :=
    List.forall₂_map_right_iff.mpr (List.forall₂_same.mpr fun _ _ => .inr rfl)
  obtain ⟨-, -, -, account, -, -, alike⟩ := link_table (w := w) rfl rfl halved 2 1
  exact ⟨rfl, rfl, present, account.entry link present, swapped, (alike _ swapped).1⟩

end MoteTrial

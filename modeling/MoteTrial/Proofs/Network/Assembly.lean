import MoteTrial.Proofs.Network.Setup

/-! # Assembling a network

A `Network` says which motes and links a simulation is to have; its fields rule out what would be
refused. `Network.assemble_apply` tells what is there once it has been put together.
-/

namespace MoteTrial

open SimM Simulation Scenario

variable {κ μ : Type}

/-- A link to be declared. -/
structure Wire where
  first : Int
  second : Int
  amount : Option Amount
  ratio : Binary64
  declares : Declares amount ratio

/-- The motes and links of a simulation. -/
structure Network where
  motes : List (Int × App)
  wires : List Wire
  distinct : (motes.map (·.1)).Nodup
  nonneg : ∀ m ∈ motes, 0 ≤ m.1
  writable : ∀ m ∈ motes, Numeral.isWritable m.1 = true

namespace Network

/-- Adds motes in order. -/
def addMotes : List (Int × App) → SimM κ μ Unit
  | [] => pure ()
  | (id, app) :: rest => do
    addMote id app.firmware?
    addMotes rest

/-- Declares links in order. -/
def addLinks : List Wire → SimM κ μ Unit
  | [] => pure ()
  | wire :: rest => do
    let _ ← link wire.first wire.second wire.amount
    addLinks rest

/-- Puts a network together and has all motes boot. -/
def assemble (n : Network) : SimM κ μ Unit := do
  addMotes n.motes
  addLinks n.wires
  bootAll

/-- The world with motes added. -/
def peopled : List (Int × App) → World κ μ → World κ μ
  | [], w => w
  | (id, app) :: rest, w => peopled rest (w.putMote id app.mote)

theorem addMotes_apply {motes : List (Int × App)} (distinct : (motes.map (·.1)).Nodup)
    {w : World κ μ} (new : ∀ m ∈ motes, w.motes.has m.1 = false) :
    addMotes motes w = .ok () (peopled motes w) := by
  induction motes generalizing w with
  | nil => rfl
  | cons head rest ih =>
    obtain ⟨id, app⟩ := head
    obtain ⟨absent, others⟩ := List.nodup_cons.mp distinct
    have first := new (id, app) (List.mem_cons_self ..)
    unfold addMotes peopled
    rw [bind_ok (addMote_apply first app)]
    apply ih others
    intro m member
    have differs : m.1 ≠ id := fun same => absent (List.mem_map.mpr ⟨m, member, same⟩)
    have unchanged : (w.putMote id app.mote).motes.find? m.1 = w.motes.find? m.1 :=
      Table.find?_put_of_ne _ _ differs
    rw [Table.has, unchanged]
    exact new m (List.mem_cons_of_mem _ member)

theorem find?_peopled {motes : List (Int × App)} {w : World κ μ} {id : Int} {mote : Mote}
    (present : (peopled motes w).motes.find? id = some mote) :
    w.motes.find? id = some mote ∨ ∃ app, (id, app) ∈ motes ∧ mote = app.mote := by
  induction motes generalizing w with
  | nil => exact .inl present
  | cons head rest ih =>
    obtain ⟨id', app⟩ := head
    rcases ih present with before | ⟨app', member, rfl⟩
    · by_cases same : id = id'
      · subst same
        rw [World.putMote, Table.find?_put_self] at before
        cases before
        exact .inr ⟨app, List.mem_cons_self .., rfl⟩
      · rw [World.putMote, Table.find?_put_of_ne _ _ same] at before
        exact .inl before
    · exact .inr ⟨app', List.mem_cons_of_mem _ member, rfl⟩

theorem motes_peopled (motes : List (Int × App)) (w : World κ μ) :
    (peopled motes w).motes = motes.foldl (fun table m => table.put m.1 m.2.mote) w.motes := by
  induction motes generalizing w with
  | nil => rfl
  | cons head rest ih => exact ih (w.putMote head.1 head.2.mote)

theorem peopled_keeps (motes : List (Int × App)) (w : World κ μ) :
    ∃ table, peopled motes w = { w with motes := table } := by
  induction motes generalizing w with
  | nil => exact ⟨w.motes, rfl⟩
  | cons head rest ih =>
    obtain ⟨id, app⟩ := head
    exact ih (w.putMote id app.mote)

/-- The medium with links declared. -/
def wired : List Wire → Medium → Medium
  | [], m => m
  | wire :: rest, m =>
    wired rest (m.setLink wire.first wire.second ⟨wire.ratio, wire.ratio, false⟩)

theorem wired_keeps (wires : List Wire) (m : Medium) : ∃ links, wired wires m = { m with links } := by
  induction wires generalizing m with
  | nil => exact ⟨m.links, rfl⟩
  | cons wire rest ih => exact ih (m.setLink wire.first wire.second ⟨wire.ratio, wire.ratio, false⟩)

theorem addLinks_apply (wires : List Wire) {w : World κ μ} (standard : w.config = Config.standard) :
    addLinks wires w = .ok () (w.onAir (wired wires w.medium)) := by
  induction wires generalizing w with
  | nil => rfl
  | cons wire rest ih =>
    unfold addLinks
    rw [bind_ok (link_apply standard wire.declares wire.first wire.second)]
    exact ih (w := w.onAir (w.medium.setLink wire.first wire.second ⟨wire.ratio, wire.ratio, false⟩))
      standard

/-- What a network is once it is put together: each mote as it was added, each link as it was
declared, and one boot pending for each mote that has an application, in the order of the motes. -/
structure Ready (n : Network) (w w' : World κ μ) : Prop where
  motes : w'.motes = (peopled n.motes w).motes
  medium : w'.medium = wired n.wires w.medium
  agenda : w'.agenda = (w'.motes.entries.filter fun e => e.2.firmware?.isSome).map fun e =>
    (1333 * e.1, .boot e.1)
  now : w'.now = 0
  running : w'.scheduler.stopped = false
  rest : ∃ motes medium scheduler, w' = { w with motes, medium, scheduler }
  unpeopled : w.motes = ∅

theorem Ready.app {n : Network} {w w' : World κ μ} (ready : n.Ready w w') {id : Int} {mote : Mote}
    (present : w'.motes.find? id = some mote) : ∃ app, (id, app) ∈ n.motes ∧ mote = app.mote := by
  rw [ready.motes] at present
  rcases find?_peopled present with before | found
  · rw [ready.unpeopled] at before
    cases before
  · exact found

/-- The motes as they were added. -/
theorem Ready.table {n : Network} {w w' : World κ μ} (ready : n.Ready w w') :
    w'.motes = n.motes.foldl (fun table m => table.put m.1 m.2.mote) ∅ := by
  rw [ready.motes, motes_peopled, ready.unpeopled]

theorem Ready.nonneg {n : Network} {w w' : World κ μ} (ready : n.Ready w w') :
    ∀ e ∈ w'.motes.entries, 0 ≤ e.1 := by
  intro e member
  obtain ⟨app, added, _⟩ := ready.app (Table.find?_of_mem member)
  exact n.nonneg (e.1, app) added

theorem Ready.mutations {n : Network} {w w' : World κ μ} (ready : n.Ready w w') :
    w'.medium.mutations = w.medium.mutations := by
  obtain ⟨links, kept⟩ := wired_keeps n.wires w.medium
  rw [ready.medium, kept]

/-- Each pending event is the boot of a mote. -/
theorem Ready.boots {n : Network} {w w' : World κ μ} (ready : n.Ready w w') :
    ∀ a ∈ w'.scheduler.pending, ∃ id, 0 ≤ id ∧ a.event = .boot id ∧ a.due = 1333 * id := by
  intro a member
  have listed : (a.due, a.event) ∈ w'.agenda := List.mem_map_of_mem member
  rw [ready.agenda] at listed
  obtain ⟨e, entry, key⟩ := List.mem_map.mp listed
  obtain ⟨due, event⟩ := Prod.mk.inj key
  exact ⟨e.1, ready.nonneg e (List.mem_filter.mp entry).1, event.symm, due.symm⟩

/-- No mote is booted twice. -/
theorem Ready.once {n : Network} {w w' : World κ μ} (ready : n.Ready w w') :
    (subjects w'.scheduler.pending).Nodup := by
  have ids : subjects w'.scheduler.pending =
      (w'.motes.entries.filter fun e => e.2.firmware?.isSome).map (·.1) := by
    have listed : subjects w'.scheduler.pending = w'.agenda.filterMap (·.2.subject?) := by
      rw [World.agenda, List.filterMap_map]
      rfl
    rw [listed, ready.agenda, List.filterMap_map]
    exact congrFun (List.filterMap_eq_map (f := fun e : Int × Mote => e.1)) _
  rw [ids]
  exact (Table.nodup_keys w'.motes).sublist (List.filter_sublist.map _)

theorem assemble_apply (n : Network) {w : World κ μ} (fresh : w.Fresh) :
    ∃ w', n.assemble w = .ok () w' ∧ n.Ready w w' := by
  have new : ∀ m ∈ n.motes, w.motes.has m.1 = false := by
    intro m _
    rw [fresh.unpeopled]
    rfl
  obtain ⟨table, people⟩ := peopled_keeps n.motes w
  have added := addMotes_apply n.distinct new
  have standard : (peopled n.motes w).config = Config.standard := by
    rw [people]
    exact fresh.standard
  let ready : World κ μ := (peopled n.motes w).onAir (wired n.wires (peopled n.motes w).medium)
  have linked : addLinks n.wires (peopled n.motes w) = .ok () ready := addLinks_apply n.wires standard
  have known : ∀ e ∈ ready.motes.entries, 0 ≤ e.1 := by
    intro e member
    rcases find?_peopled (Table.find?_of_mem member) with before | ⟨app, added, _⟩
    · rw [fresh.unpeopled] at before
      cases before
    · exact n.nonneg (e.1, app) added
  have plain : ready = { w with motes := table, medium := wired n.wires w.medium } := by
    simp only [ready, people]
    rfl
  have idle : ready.scheduler = {} := by rw [plain]; exact fresh.idle
  have started : ready.now = 0 := by rw [World.now, idle]
  have interval : ready.config.bootInterval = 1333 := by
    rw [plain]
    simp only [fresh.standard]
    rfl
  obtain ⟨scheduler, booted, clock, running⟩ := ready.booting_keeps 1333 ready.motes.entries
  have increasing : ready.motes.entries.Pairwise fun a b => a.1 < b.1 :=
    ready.motes.increasing.imp fun less => Int.compare_eq_lt.mp less
  have agenda := World.agenda_booting increasing ready (by rw [idle]; nofun)
  refine ⟨ready.booting 1333 ready.motes.entries, ?_, ?_, ?_, ?_, ?_, ?_, ?_, fresh.unpeopled⟩
  · unfold assemble
    rw [bind_ok added, bind_ok linked]
    unfold bootAll
    rw [get_bind_apply, interval]
    exact bootEach_apply (by decide) known ready
  · rw [booted]
    rfl
  · rw [booted]
    simp only [plain]
  · rw [agenda, started, booted]
    simp only [World.agenda, idle, Int.zero_add]
    rfl
  · rw [booted]
    exact clock.trans started
  · rw [booted, running, idle]
  · exact ⟨table, wired n.wires w.medium, scheduler, by rw [booted, plain]⟩

end Network

end MoteTrial

import MoteTrial.Proofs.Session.Operations
import MoteTrial.Proofs.Text.FirmwareLines

/-! # The ends of the link that the link-fault script controls

In a session in which every line with the word of a start is the one with which its mote starts, the
script takes motes whose identifiers end in 1 and in 3 for the ends of its link, and no others. This
holds at every moment, whatever else users' code does.
-/

namespace MoteTrial

/-- The last digit of the motes that are taken for an end of the link. -/
def Endpoint.digit : Endpoint → Nat
  | .first => 1
  | .third => 3

namespace Session

open SimM Simulation Message

variable {κ μ : Type}

/-- A line that, if it has the word of a start, is the one with which its mote starts. -/
def Truthful (members : Int → Prop) (mote : Int) (msg : String) : Prop :=
  Text.contains msg Config.standard.keywordStarted = true → members mote ∧ msg = startLine mote

/-- A mote that is taken for an end of the link when it starts. -/
def TakenFor (members : Int → Prop) (endpoint : Endpoint) (id : Int) : Prop :=
  members id ∧ id.natAbs % 10 = endpoint.digit

/-- A script that holds no other motes to be at the ends of its link. -/
def Anchored (members : Int → Prop) (script : Script κ) : Prop :=
  ∀ endpoint id, endpoint? endpoint script = some id → TakenFor members endpoint id

/-- The usual parameters, and no motes but the members. -/
structure Populated (members : Int → Prop) (w : World κ μ) : Prop where
  standard : w.config = Config.standard
  motes : ∀ id, w.motes.has id = true → members id

/-- Users' code that has motes log truthful lines only, attaches anchored scripts, and adds no motes but
members. -/
def Program.Honest (members : Int → Prop) : Program κ μ → Prop :=
  Program.Abides (Truthful members) (Anchored members) fun change =>
    ∀ w, Populated members w → Populated members (change w)

/-- The worlds of all moments of sessions with honest code and a simulation that starts afresh, also of
those between one listener and the next. -/
inductive Faithful (members : Int → Prop) (code : κ → Cue → Program κ μ) :
    World κ (Diary μ) → Prop where
  | fresh {w : World κ (Diary μ)} (clock : w.scheduler = {}) (populated : Populated members w)
      (unhosted : w.hosts = #[]) : Faithful members code w
  | acted {w : World κ (Diary μ)} (earlier : Faithful members code w) {p : Program κ μ}
      (honest : p.Honest members) (limit : Nat) :
      Faithful members code (final (p.exec (behaviour code limit) limit) w)
  | told {w : World κ (Diary μ)} (earlier : Faithful members code w) {mote : Int} {msg : String}
      (truthful : Truthful members mote msg) (listener : Listener κ) (limit : Nat) :
      Faithful members code (final (hear (behaviour code limit) listener mote msg) w)
  | taken {w : World κ (Diary μ)} (earlier : Faithful members code w) {a : Appointment (Event κ)}
      {s : Scheduler (Event κ)} (next : w.scheduler.next? = some (a, s)) :
      Faithful members code { w with scheduler := s }
  | counted {w : World κ (Diary μ)} (earlier : Faithful members code w) :
      Faithful members code w.finishEvent

/-- What holds at all these moments. -/
structure Anchors (members : Int → Prop) (w : World κ μ) : Prop extends Populated members w where
  pending : ∀ a ∈ w.scheduler.pending, Said (Truthful members) a.event
  hosts : ∀ (h : Nat) (host : Host κ), w.hosts[h]? = some host → Anchored members host.script

section Lines

variable {members : Int → Prop} {id : Int} {msg : String}

/-- The firmware is truthful. -/
theorem truthful_of_voiced (member : members id) (voiced : Voiced Config.standard id msg) :
    Truthful members id msg := by
  intro starts
  cases voiced with
  | started => exact ⟨member, rfl⟩
  | deteriorate => exact absurd starts (by decide)
  | improve => exact absurd starts (by decide)
  | done => exact absurd starts (by decide)
  | received counter =>
    have other : Text.contains ("received " ++ Numeral.decimal counter)
        Config.standard.keywordStarted = false :=
      contains_received 't' (by decide) (by decide) (by decide) (by decide) counter
    cases starts.symm.trans other

/-- Who is taken for an end of the link on a truthful line of a start. -/
theorem takenFor_of_started {endpoint : Endpoint} (truthful : Truthful members id msg)
    (started : classify msg = .started)
    (found : startedEndpoint? Config.standard msg = some endpoint) :
    TakenFor members endpoint id := by
  obtain ⟨member, rfl⟩ := truthful (contains_of_classify_started started)
  rw [startedEndpoint?_startLine] at found
  refine ⟨member, ?_⟩
  split at found
  · cases found
    assumption
  · split at found
    · cases found
      assumption
    · cases found

end Lines

section Invariant

variable {members : Int → Prop} {w w' : World κ μ}

namespace Anchors

theorem of_same (anchors : Anchors members w) (config : w'.config = w.config)
    (motes : w'.motes = w.motes) (pending : ∀ a ∈ w'.scheduler.pending, a ∈ w.scheduler.pending)
    (hosts : w'.hosts = w.hosts) : Anchors members w' := by
  refine ⟨⟨config.trans anchors.standard, ?_⟩, fun a member => anchors.pending a (pending a member), ?_⟩
  · rw [motes]
    exact anchors.motes
  · rw [hosts]
    exact anchors.hosts

/-- A host may be changed if its script stays anchored. -/
theorem modified (anchors : Anchors members w) {h : Nat} {f : Host κ → Host κ}
    (kept : ∀ host, w.hosts[h]? = some host → Anchored members (f host).script) :
    Anchors members { w with hosts := w.hosts.modify h f } := by
  refine ⟨⟨anchors.standard, anchors.motes⟩, anchors.pending, fun i host present => ?_⟩
  change (w.hosts.modify h f)[i]? = some host at present
  rw [Array.getElem?_modify] at present
  split at present
  · rename_i same
    subst same
    obtain ⟨before, there, rfl⟩ := Option.map_eq_some_iff.mp present
    exact kept before there
  · exact anchors.hosts i host present

theorem taken (anchors : Anchors members w) {a : Appointment (Event κ)} {s : Scheduler (Event κ)}
    (takes : w.scheduler.Takes a s) : Anchors members { w with scheduler := s } := by
  refine anchors.of_same rfl rfl (fun b member => ?_) rfl
  rw [takes.pending]
  exact List.mem_cons_of_mem _ member

end Anchors

theorem steady_anchors (members : Int → Prop) :
    Steady (κ := κ) (μ := μ) (Anchors members) (fun _ => Anchors members) fun _ => True where
  seen anchors _ := anchors.of_same rfl rfl (fun _ member => member) rfl
  changed {_ h} _ anchors _ same :=
    anchors.modified fun host present => (same host) ▸ anchors.hosts h host present
  stopped anchors := anchors.of_same rfl rfl (fun _ member => member) rfl
  unwritable anchors _ := anchors

theorem stable_anchors (members : Int → Prop) :
    Stable (κ := κ) (μ := μ) (Anchors members) (fun _ => Anchors members) (fun _ => True)
      (Truthful members) where
  toSteady := steady_anchors members
  aside anchors apart := by
    refine ⟨⟨apart.config.trans anchors.standard, fun id there => anchors.motes id ?_⟩, ?_, ?_⟩
    · exact apart.motes id there
    · rw [apart.scheduler]
      exact anchors.pending
    · rw [apart.hosts]
      exact anchors.hosts
  interrupted anchors _ := anchors
  registered {w} anchors _ _ event said := by
    refine ⟨⟨anchors.standard, anchors.motes⟩, fun a member => ?_, anchors.hosts⟩
    rcases Scheduler.mem_insert.mp member with rfl | earlier
    · exact said
    · exact anchors.pending a earlier
  taken anchors _ _ _ takes := anchors.taken takes
  counted anchors := anchors.of_same rfl rfl (fun _ member => member) rfl
  pending anchors := anchors.pending
  voiced anchors _ _ there voiced := by
    rw [anchors.standard] at voiced
    exact truthful_of_voiced (anchors.motes _ there) voiced
  rescripted {_ h} _ anchors f within :=
    anchors.modified fun host present endpoint id held =>
      anchors.hosts h host present endpoint id (within host present endpoint id held)
  bound {w h} _ anchors mote msg endpoint truthful started found := by
    rw [anchors.standard] at found
    have taken := takenFor_of_started truthful started found
    refine anchors.modified fun host present => ?_
    have before := anchors.hosts h host present
    unfold relinked
    split
    · rename_i timeout attached state script
      rw [script] at before
      intro other id held
      cases endpoint <;> cases other
      · cases held
        exact taken
      · exact before .third id held
      · exact before .first id held
      · cases held
        exact taken
    · exact before
  failing _ := steady_anchors members

end Invariant

section Code

variable {members : Int → Prop} {act : Behaviour κ (Diary μ)} {code : κ → Cue → Program κ μ}

/-- What honest code keeps, also where it fails. -/
abbrev KeepsAnchors (members : Int → Prop) {α : Type} (m : SimM κ (Diary μ) α) : Prop :=
  Keeps (Anchors members) (fun _ => Anchors members) m

theorem attach_anchored {script : Script κ} (anchored : Anchored members script) (log : TestLog) :
    KeepsAnchors members (Host.attach script log : SimM κ (Diary μ) Nat) := by
  intro w anchors
  refine ⟨⟨anchors.standard, anchors.motes⟩, anchors.pending, fun i host present => ?_⟩
  change (w.hosts.push _)[i]? = some host at present
  rw [Array.getElem?_push] at present
  split at present
  · cases present
    exact anchored
  · exact anchors.hosts i host present

theorem exec_anchors (calls : ∀ c cue, KeepsAnchors members (act c cue)) (fuel : Nat)
    {p : Program κ μ} (honest : p.Honest members) : KeepsAnchors members (p.exec act fuel) := by
  have stable := stable_anchors (κ := κ) (μ := Diary μ) members
  have noted (f : Diary μ → Diary μ) : KeepsAnchors members (Diary.change f : SimM κ (Diary μ) Unit) :=
    Keeps.modify fun anchors => anchors.of_same rfl rfl (fun _ member => member) rfl
  refine (stable.operates calls (fun bound => ?_) (fun script log anchored => ?_) (fun h => ?_)
    fun change populates => ?_).exec p honest
  · refine (noted _).bind fun _ => stable.run (stable.fire_any calls) ?_ fuel
    intro limit _ w due anchors _ _
    exact anchors.of_same rfl rfl (fun _ member => member) rfl
  · exact attach_anchored anchored log
  · exact noted _
  · refine Keeps.modify fun {w} anchors => ?_
    have populated := populates w anchors.toPopulated
    exact ⟨⟨populated.standard, populated.motes⟩, anchors.pending, anchors.hosts⟩

theorem behaviour_anchors (honest : ∀ c cue, (code c cue).Honest members) (limit : Nat) (c : κ)
    (cue : Cue) : KeepsAnchors members (behaviour code limit c cue) := by
  induction limit generalizing c cue with
  | zero => exact fun _ anchors => anchors
  | succ limit ih =>
    intro w anchors
    have ran := exec_anchors ih limit (honest c cue) w anchors
    refine ran.watched (fun _ kept => kept) fun f w kept => ?_
    unfold noted
    split
    · exact kept
    · exact kept.of_same rfl rfl (fun _ member => member) rfl

theorem Faithful.anchors (honest : ∀ c cue, (code c cue).Honest members) {w : World κ (Diary μ)}
    (faithful : Faithful members code w) : Anchors members w := by
  induction faithful with
  | fresh clock populated unhosted =>
    refine ⟨populated, fun a member => ?_, fun h host present => ?_⟩
    · rw [clock] at member
      exact absurd member List.not_mem_nil
    · rw [unhosted] at present
      cases present
  | acted _ proper limit ih =>
    exact (exec_anchors (behaviour_anchors honest limit) limit proper _ ih).final
  | told _ truthful listener limit ih =>
    have hears := (stable_anchors members).hears_any (behaviour_anchors honest limit)
    exact (hears listener _ _ truthful _ ih).final
  | taken _ next ih => exact ih.taken (Scheduler.takes_of_next? next)
  | counted _ ih => exact (stable_anchors members).counted ih

end Code

end Session

end MoteTrial

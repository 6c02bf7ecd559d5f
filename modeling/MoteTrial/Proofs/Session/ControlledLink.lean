import MoteTrial.Proofs.Host.Hearing
import MoteTrial.Proofs.Session.Clock
import MoteTrial.Proofs.Session.Endpoints

/-! # The link that the link-fault script controls

The script adds entries to the radio medium that tell of the link between the two ends that it holds,
and of no other. These are motes 1 and 3 as long as no other identifiers end in these digits; with a
mote 11, it degrades the link between motes 11 and 3.
-/

namespace MoteTrial.Session

open SimM Simulation Message

variable {κ μ : Type}

section Entries

variable {w : World κ μ} {h : Nat} {host : Host κ} {before : Array Mutation} {state : LinkFault}

/-- Entries have been added that tell of the link between the ends of a state, and no others. -/
def Adds (before : Array Mutation) (state : LinkFault) (w : World κ μ) : Prop :=
  ∃ entries, w.medium.mutations = before ++ entries ∧
    ∀ entry ∈ entries, state.first = some entry.first ∧ state.third = some entry.second

/-- An operation that adds no other entries, even if it fails. -/
abbrev KeepsAdding (before : Array Mutation) (state : LinkFault) {α : Type} (m : SimM κ μ α) : Prop :=
  Keeps (Adds before state) (fun _ => Adds before state) m

theorem steady_adds (before : Array Mutation) (state : LinkFault) :
    Steady (κ := κ) (μ := μ) (Adds before state) (fun _ => Adds before state) fun _ => True where
  seen adds _ := adds
  changed _ adds _ _ := adds
  stopped adds := adds
  unwritable adds _ := adds

/-- A change of the link between the ends is noted with these ends. -/
theorem changeLink_adds {a b : Int} (first : state.first = some a) (third : state.third = some b)
    (kind : Change) : KeepsAdding before state (Simulation.changeLink kind a b : SimM κ μ Unit) := by
  have changes (now : Int) : KeepsAdding before state
      (onMedium fun config m => return ((), ← m.change config now kind a b) : SimM κ μ Unit) := by
    rintro w ⟨entries, shape, ends⟩
    cases changed : w.medium.change w.config now kind a b with
    | error f =>
      have failed : (do return ((), ← w.medium.change w.config now kind a b) : Except Failure _) =
          .error f := by
        rw [changed]
        rfl
      rw [onMedium_error failed]
      exact ⟨entries, shape, ends⟩
    | ok m =>
      rw [onMedium_ok (m := m) (a := ()) (by rw [changed]; rfl)]
      refine ⟨entries.push ⟨now, kind, a, b⟩, ?_, fun entry member => ?_⟩
      · change m.mutations = _
        rw [Medium.mutations_change changed, shape, Array.push_append]
      · rcases Array.mem_push.mp member with earlier | rfl
        · exact ends entry earlier
        · exact ⟨first, third⟩
  exact Keeps.changeLink changes (fun adds _ => adds) (fun _ => Keeps.modify fun adds => adds)
    fun _ _ => Keeps.modify fun adds => adds

theorem handleLinkFault_adds (h : Nat) (attached : Bool) (mote : Int) (msg : String) :
    KeepsAdding before state (Host.handleLinkFault h attached state mote msg : SimM κ μ Bool) := by
  have steady := steady_adds (κ := κ) (μ := μ) before state
  have fails (f : Failure) : KeepsAdding before state (SimM.fail f : SimM κ μ Bool) :=
    Keeps.fails (fun adds _ => adds) f
  have relinks (f : LinkFault → LinkFault) : KeepsAdding before state (do
      Host.changeLinkFault h f
      return false : SimM κ μ Bool) :=
    Keeps.bind (Keeps.modify fun adds => adds) fun _ => Keeps.pure _
  have requested (kind : Change) (keyword : String) (f : LinkFault → LinkFault) :
      KeepsAdding before state (do
        let ends ← SimM.ofExcept (state.endpoints keyword)
        Simulation.changeLink kind ends.1 ends.2
        Host.changeLinkFault h f
        return false : SimM κ μ Bool) := by
    cases ends : state.endpoints keyword with
    | error f => exact fun w adds => adds
    | ok pair =>
      obtain ⟨first, third⟩ := LinkFault.endpoints_eq_ok_iff.mp ends
      exact (changeLink_adds first third kind).bind fun _ => relinks f
  unfold Host.handleLinkFault
  refine Keeps.reads fun w => ?_
  cases kind : classify msg with
  | done =>
    cases attached with
    | false => exact fails _
    | true => exact (steady.pass trivial).bind fun _ => Keeps.pure _
  | deteriorate => exact requested .deteriorate _ _
  | improve => exact requested .improve _ _
  | started =>
    cases found : startedEndpoint? w.config msg with
    | none =>
      simp only [found]
      exact Keeps.pure _
    | some endpoint =>
      simp only [found]
      exact relinks _
  | other =>
    cases attached with
    | false => exact fails _
    | true => exact (steady.write trivial _ _).bind fun _ => relinks _

/-- Whatever line its host hears, the script adds no other entries. -/
theorem hearLine_adds (act : Behaviour κ μ) (present : w.hosts[h]? = some host) {timeout : Int}
    {attached : Bool} (script : host.script = .linkFault timeout attached state) (mote : Int)
    (msg : String) : Adds w.medium.mutations state (final (Host.hearLine act h mote msg) w) := by
  have steady := steady_adds (κ := κ) (μ := μ) w.medium.mutations state
  have unadded : Adds w.medium.mutations state w := ⟨#[], by simp, by simp⟩
  refine Kept.final ?_
  cases finished : host.finished with
  | true =>
    rw [Host.hearLine_finished present finished]
    exact unadded
  | false =>
    have there := World.hosts_setHost present (host.facing mote msg)
    have handled : Kept (Adds w.medium.mutations state) (fun _ => Adds w.medium.mutations state)
        (Host.handle act h mote msg (w.setHost h (host.facing mote msg))) := by
      rw [Host.handle_linkFault act there script]
      exact handleLinkFault_adds h attached mote msg _ unadded
    refine Kept.hearLine present finished ?_ (steady.finish trivial)
    exact handled.guarded (fun _ adds => adds) fun f _ adds => steady.handleFailure trivial f _ adds

end Entries

section Ends

variable {members : Int → Prop} {code : κ → Cue → Program κ μ} {w : World κ (Diary μ)} {h : Nat}
variable {host : Host κ} {timeout : Int} {attached : Bool} {state : LinkFault}

/-- The state once a mote has started: it is bound by the last digit of its identifier. -/
def restarted (mote : Int) (state : LinkFault) : LinkFault :=
  if mote.natAbs % 10 = 1 then state.bind .first mote
  else if mote.natAbs % 10 = 3 then state.bind .third mote
  else state

/-- A host that has not finished binds a mote that starts. -/
theorem hearLine_startLine (act : Behaviour κ μ) {w : World κ μ} (standard : w.config = Config.standard)
    (present : w.hosts[h]? = some host) (unfinished : host.finished = false)
    (script : host.script = .linkFault timeout attached state) (mote : Int) :
    Host.hearLine act h mote (startLine mote) w =
      .ok () (w.setHost h { host.facing mote (startLine mote) with
        script := .linkFault timeout attached (restarted mote state) }) := by
  let facing := host.facing mote (startLine mote)
  have there : (w.setHost h facing).hosts[h]? = some facing := World.hosts_setHost present facing
  have binds (endpoint : Endpoint) :
      (do
        Host.changeLinkFault h (·.bind endpoint mote)
        return false : SimM κ μ Bool) (w.setHost h facing) = .ok false (w.setHost h
          { facing with script := .linkFault timeout attached (state.bind endpoint mote) }) := by
    rw [bind_ok (Host.changeLinkFault_apply there script _), World.setHost_setHost]
    rfl
  have handled : Host.handle act h mote (startLine mote) (w.setHost h facing) = .ok false
      (w.setHost h { facing with script := .linkFault timeout attached (restarted mote state) }) := by
    have config : (w.setHost h facing).config = Config.standard := standard
    rw [Host.handle_linkFault act there script]
    unfold Host.handleLinkFault restarted
    simp only [get_bind_apply, classify_startLine, config, startedEndpoint?_startLine]
    by_cases first : mote.natAbs % 10 = 1
    · simp only [first, ↓reduceIte]
      exact binds .first
    · by_cases third : mote.natAbs % 10 = 3
      · simp only [third, ↓reduceIte]
        exact binds .third
      · simp only [first, third, ↓reduceIte]
        rw [← script]
        rfl
  rw [Host.hearLine_listening act present unfinished, bind_ok (Host.guarded_ok handled)]
  rfl

/-- A script that holds one sort of motes to be the ends of its link, and tells of no links but those
between such motes. -/
structure Controls (isFirst isThird : Int → Prop) (act : Behaviour κ μ) (h : Nat) (state : LinkFault)
    (w : World κ μ) : Prop where
  first : ∀ id ∈ state.first, isFirst id
  third : ∀ id ∈ state.third, isThird id
  adds : ∀ mote msg, ∃ entries,
    (final (Host.hearLine act h mote msg) w).medium.mutations = w.medium.mutations ++ entries ∧
      ∀ entry ∈ entries, isFirst entry.first ∧ isThird entry.second

theorem Controls.imp {isFirst isThird isFirst' isThird' : Int → Prop} {act : Behaviour κ μ}
    {w : World κ μ} (controls : Controls isFirst isThird act h state w)
    (first : ∀ id, isFirst id → isFirst' id) (third : ∀ id, isThird id → isThird' id) :
    Controls isFirst' isThird' act h state w where
  first id held := first id (controls.first id held)
  third id held := third id (controls.third id held)
  adds mote msg := by
    obtain ⟨entries, shape, ends⟩ := controls.adds mote msg
    exact ⟨entries, shape, fun entry member =>
      ⟨first _ (ends entry member).1, third _ (ends entry member).2⟩⟩

/-- The ends of the controlled link are motes whose identifiers end in 1 and in 3: motes 1 and 3 where
there are no others. -/
theorem controls_by_last_digit (honest : ∀ c cue, (code c cue).Honest members)
    (faithful : Faithful members code w) (limit : Nat) (present : w.hosts[h]? = some host)
    (script : host.script = .linkFault timeout attached state) :
    Controls (TakenFor members .first) (TakenFor members .third) (behaviour code limit) h state w ∧
      ((∀ id, TakenFor members .first id → id = 1) → (∀ id, TakenFor members .third id → id = 3) →
        Controls (· = 1) (· = 3) (behaviour code limit) h state w) ∧
      (host.finished = false → ∀ mote,
        Host.hearLine (behaviour code limit) h mote (startLine mote) w =
          .ok () (w.setHost h { host.facing mote (startLine mote) with
            script := .linkFault timeout attached (restarted mote state) })) := by
  have anchors := faithful.anchors honest
  have anchored : Anchored members (.linkFault timeout attached state : Script κ) :=
    script ▸ anchors.hosts h host present
  have controls : Controls (TakenFor members .first) (TakenFor members .third)
      (behaviour code limit) h state w := by
    refine ⟨fun id held => anchored .first id held, fun id held => anchored .third id held, ?_⟩
    intro mote msg
    obtain ⟨entries, shape, ends⟩ := hearLine_adds (behaviour code limit) present script mote msg
    refine ⟨entries, shape, fun entry member => ?_⟩
    obtain ⟨first, third⟩ := ends entry member
    exact ⟨anchored .first _ first, anchored .third _ third⟩
  refine ⟨controls, fun first third => controls.imp first third, fun unfinished mote => ?_⟩
  exact hearLine_startLine _ anchors.standard present unfinished script mote

end Ends

section Crossing

/-- A simulation with some motes. -/
def among (ids : List Int) : World Unit (Diary Unit) :=
  { World.plain { own := () } with
    motes := ids.foldr (fun id motes => motes.put id { installed := #[.base] }) ∅ }

/-- The link-fault script is attached and the motes boot. When mote 3 asks for the link to be degraded,
all have started. -/
def crossing (ids : List Int) : Program Unit Unit :=
  .attach (.linkFault 300000 false {}) {} fun h => .start h <|
    ids.foldr (fun id next => .schedule (1333 * id) (.boot id) next) <|
      .schedule 20000 (.line 3 "1 third") <| .run (some 20000) fun _ => .answer false

def crossed (ids : List Int) : World Unit (Diary Unit) :=
  final ((crossing ids).exec (behaviour idle 8) 8) (among ids)

variable {ids : List Int}

theorem populated_among : Populated (· ∈ ids) (among ids) := by
  refine ⟨rfl, fun id there => ?_⟩
  unfold among at there
  dsimp only at there
  induction ids with
  | nil => cases there
  | cons other rest ih =>
    by_cases same : id = other
    · exact same ▸ List.mem_cons_self
    · rw [List.foldr_cons, Table.has, Table.find?_put_of_ne _ _ same] at there
      exact List.mem_cons_of_mem _ (ih there)

theorem crossing_honest (members : Int → Prop) : (crossing ids).Honest members := by
  have quiet : Truthful members 3 "1 third" := fun starts => absurd starts (by decide)
  refine ⟨fun endpoint id held => ?_, fun h => ?_⟩
  · cases endpoint <;> cases held
  · induction ids with
    | nil => exact ⟨quiet, fun _ => trivial⟩
    | cons id rest ih => exact ⟨trivial, ih⟩

theorem idle_honest (members : Int → Prop) (c : Unit) (cue : Cue) : (idle c cue).Honest members :=
  trivial

theorem faithful_crossed : Faithful (· ∈ ids) idle (crossed ids) :=
  .acted (.fresh rfl populated_among rfl) (crossing_honest _) 8

theorem controls_by_last_digit_pair : Faithful (· ∈ [1, 3]) idle (crossed [1, 3]) ∧
    ∃ host timeout attached state,
      (crossed [1, 3]).hosts[0]? = some host ∧ host.script = .linkFault timeout attached state ∧
        state.first = some 1 ∧
        Controls (· = 1) (· = 3) (behaviour idle 8) 0 state (crossed [1, 3]) := by
  have held : (crossed [1, 3]).hosts[0]?.bind (endpoint? .first ·.script) = some 1 := by
    decide +kernel
  obtain ⟨host, present, first⟩ := Option.bind_eq_some_iff.mp held
  cases script : host.script with
  | linkFault timeout attached state =>
    rw [script] at first
    obtain ⟨-, alone, -⟩ := controls_by_last_digit (idle_honest _) faithful_crossed 8 present script
    have one : ∀ id ∈ [(1 : Int), 3], id.natAbs % 10 = Endpoint.first.digit → id = 1 := by decide
    have three : ∀ id ∈ [(1 : Int), 3], id.natAbs % 10 = Endpoint.third.digit → id = 3 := by decide
    exact ⟨faithful_crossed, host, timeout, attached, state, present, script, first,
      alone (fun id taken => one id taken.1 taken.2) fun id taken => three id taken.1 taken.2⟩
  | reception _ _ _ _ | code _ =>
    rw [script] at first
    cases first

/-- With a mote 11, that is held to be the first end, and its link with mote 3 is degraded. -/
theorem other_link_degraded : Faithful (· ∈ [1, 3, 11]) idle (crossed [1, 3, 11]) ∧
    (crossed [1, 3, 11]).hosts[0]?.bind (endpoint? .first ·.script) = some 11 ∧
    (crossed [1, 3, 11]).medium.mutations = #[⟨20000, .deteriorate, 11, 3⟩] :=
  ⟨faithful_crossed, by decide +kernel, by decide +kernel⟩

end Crossing

end MoteTrial.Session

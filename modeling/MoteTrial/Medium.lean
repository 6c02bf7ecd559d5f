import MoteTrial.Config
import MoteTrial.Failure
import MoteTrial.Random.Source
import MoteTrial.Table

/-! # Radio medium

The links between motes, each with the ratio of frames that are received. A link is found by its two
ends in either order. `Medium.change` degrades or restores a link and notes that; `transmit` decides
the fate of one frame by comparing a draw with the current ratio.
-/

namespace MoteTrial

/-- Two mote identifiers, the smaller one first. -/
structure Pair where
  low : Int
  high : Int
  low_le_high : low ≤ high
  deriving DecidableEq, Repr

namespace Pair

/-- The pair of two identifiers given in either order. -/
def of (a b : Int) : Pair :=
  if h : a ≤ b then ⟨a, b, h⟩ else ⟨b, a, by omega⟩

theorem of_comm (a b : Int) : of a b = of b a := by
  unfold of
  split <;> split
  · simp only [mk.injEq]; omega
  · rfl
  · rfl
  · omega

instance : Ord Pair := ⟨compareLex (compareOn low) (compareOn high)⟩

instance : Std.TransOrd Pair :=
  inferInstanceAs (Std.TransCmp (compareLex (compareOn low) (compareOn high)))

instance : Std.LawfulEqOrd Pair where
  compare_self {a} := by
    change (compare a.low a.low).then (compare a.high a.high) = .eq
    simp
  eq_of_compare {a b} h := by
    have h : (compare a.low b.low).then (compare a.high b.high) = .eq := h
    rw [Ordering.then_eq_eq] at h
    cases a
    cases b
    simp only [Std.compare_eq_iff_eq] at h
    simp [h]

end Pair

/-- A radio link: the ratio it was declared with and the ratio it has now. -/
structure Link where
  nominal : Binary64
  current : Binary64
  deteriorated : Bool := false
  deriving DecidableEq, Repr

/-- The two changes that a script may make to a link. -/
inductive Change where
  | deteriorate
  | improve
  deriving DecidableEq, Repr

/-- The name of a change. -/
def Change.name : Change → String
  | .deteriorate => "deteriorate"
  | .improve => "improve"

/-- A link after a change. -/
def Change.apply (config : Config) : Change → Link → Link
  | .deteriorate, link => { link with current := config.deterioratedRatio, deteriorated := true }
  | .improve, link => { link with current := link.nominal, deteriorated := false }

/-- A change that was made to a link, with its ends in the order given. -/
structure Mutation where
  time : Int
  change : Change
  first : Int
  second : Int
  deriving DecidableEq, Repr

/-- The state of the radio medium. -/
structure Medium where
  links : Table Pair Link := ∅
  mutations : Array Mutation := #[]
  draws : Random.Draws

namespace Medium

/-- A medium without links whose draws come from a seed. -/
def ofSeed (seed : Int) : Except Failure Medium :=
  if seed < 0 then .error .negativeSeed
  else .ok { draws := .seeded (Random.Pcg64.ofSeed seed.toNat) }

/-- The link between two motes, if there is one. -/
def link? (m : Medium) (a b : Int) : Option Link := m.links.find? (Pair.of a b)

/-- Sets the link between two motes. -/
def setLink (m : Medium) (a b : Int) (link : Link) : Medium :=
  { m with links := m.links.put (Pair.of a b) link }

/-- Whether a number may be a reception ratio. -/
def isRatio (ratio : Binary64) : Bool := Binary64.zero.le ratio && ratio.le (Binary64.ofNat 1)

/-- Declares a link; without a ratio it gets the usual one. -/
def addLink (config : Config) (a b : Int) (ratio : Option Binary64) (m : Medium) :
    Except Failure (Link × Medium) :=
  let ratio := ratio.getD config.nominalRatio
  if isRatio ratio then
    let link : Link := ⟨ratio, ratio, false⟩
    .ok (link, m.setLink a b link)
  else .error (.ratioRange ratio)

/-- The link between two motes, declared with the usual ratio if it is missing. -/
def getLink (config : Config) (a b : Int) (m : Medium) : Except Failure (Link × Medium) :=
  match m.link? a b with
  | some link => .ok (link, m)
  | none => m.addLink config a b none

/-- Changes the link between two motes and notes the change. -/
def change (config : Config) (now : Int) (kind : Change) (a b : Int) (m : Medium) :
    Except Failure Medium := do
  let (link, m) ← m.getLink config a b
  let m := m.setLink a b (kind.apply config link)
  return { m with mutations := m.mutations.push ⟨now, kind, a, b⟩ }

/-- A draw as a number: a fraction of 2 ^ 53. -/
def drawValue (k : Fin (2 ^ 53)) : Binary64 := Binary64.ofScaled k.val 53

/-- The fate of one frame: lost without a link or on a dead one, otherwise received if the draw is
below the current ratio. -/
def transmit (a b : Int) (m : Medium) : Bool × Medium :=
  match m.link? a b with
  | none => (false, m)
  | some link =>
    if link.current.le Binary64.zero then (false, m)
    else
      let (k, draws) := m.draws.next
      ((drawValue k).lt link.current, { m with draws })

theorem link?_comm (m : Medium) (a b : Int) : m.link? a b = m.link? b a := by
  simp [link?, Pair.of_comm a b]

theorem transmit_comm (m : Medium) (a b : Int) : m.transmit a b = m.transmit b a := by
  simp [transmit, link?_comm m a b]

end Medium

end MoteTrial

import MoteTrial.Proofs.Network.Assembly

/-! # The reference networks

The networks of the two reference scenarios, and that the scenarios put just these together.
-/

namespace MoteTrial

open SimM Simulation Scenario

variable {κ μ : Type}

namespace Network

/-- The weak-link network: a server, a relay, and a client that reports its progress. -/
def weakLink (limit : Int) : Network where
  motes := [(1, .server), (2, .base), (3, .client ⟨1, some 2⟩ limit true)]
  wires := [⟨1, 3, _, _, .double Medium.isRatio_nominal⟩, ⟨1, 2, _, _, .double Medium.isRatio_relay⟩,
    ⟨2, 3, _, _, .double Medium.isRatio_relay⟩]
  distinct := by simp
  nonneg := by simp
  writable := by
    simp only [List.forall_mem_cons, List.not_mem_nil, false_implies, implies_true, and_true]
    decide +kernel

/-- The reception network: a server and a client on a link of a given ratio. -/
def reception (limit : Int) {amount : Option Amount} {ratio : Binary64}
    (declares : Declares amount ratio) : Network where
  motes := [(1, .server), (3, .client ⟨1, none⟩ limit false)]
  wires := [⟨1, 3, amount, ratio, declares⟩]
  distinct := by simp
  nonneg := by simp
  writable := by
    simp only [List.forall_mem_cons, List.not_mem_nil, false_implies, implies_true, and_true]
    decide +kernel

variable {w : World κ μ}

theorem buildWeakLink_eq (standard : w.config = Config.standard) (limit : Int) :
    buildWeakLink (some limit) w = (weakLink limit).assemble w := by
  unfold buildWeakLink
  rw [get_bind_apply]
  simp only [standard, Option.getD_some]
  unfold weakLinkNetwork
  rw [get_bind_apply]
  simp only [standard, assemble, weakLink, addMotes, addLinks, bind_assoc, pure_bind]
  rfl

theorem buildReception_eq (standard : w.config = Config.standard) (limit : Int)
    {amount : Option Amount} {ratio : Binary64} (declares : Declares amount ratio) :
    buildReception amount (some limit) w = (reception limit declares).assemble w := by
  unfold buildReception
  rw [get_bind_apply]
  simp only [standard, Option.getD_some]
  unfold receptionNetwork
  rw [get_bind_apply]
  simp only [standard, assemble, reception, addMotes, addLinks, bind_assoc, pure_bind]
  rfl

end Network

end MoteTrial

import MoteTrial.Replay

/-! # Reference scenarios

The two reference networks and the run of a script on a simulation. The weak-link network has a
server, a relay and a client on three links, the reception network a server and a client on one
link.
-/

namespace MoteTrial

open SimM Simulation

/-- The names of the built-in scripts. -/
inductive ScriptName where
  | linkFault
  | reception
  deriving DecidableEq, Repr

/-- The text of a script's name. -/
def ScriptName.text : ScriptName → String
  | .linkFault => "link-fault"
  | .reception => "reception"

/-- A built-in script, with its usual deadline unless another one is given. -/
def ScriptName.script {κ : Type} (config : Config) (timeout : Option Int) : ScriptName → Script κ
  | .linkFault => .linkFault (timeout.getD config.linkFaultTimeout) false {}
  | .reception => .reception (timeout.getD config.receptionTimeout) false none {}

/-- The script with the trace that it records receptions in. -/
def Script.recordIn {κ : Type} (trace : Option Nat) : Script κ → Script κ
  | .reception timeout attached _ state => .reception timeout attached trace state
  | script => script

namespace Scenario

variable {κ μ : Type}

/-- Declares a link. -/
def link (a b : Int) (ratio : Option Amount) : SimM κ μ Link := do
  let ratio ← ofExcept (ratio.mapM Amount.value)
  onMedium fun config m => m.addLink config a b ratio

/-- A client that sends to the usual server. -/
def client (config : Config) (limit : Int) (relay : Option Int) (reports : Bool) : Firmware :=
  .client { route := ⟨config.serverId, relay⟩, limit, reports }

/-- The weak-link network around a client. -/
def weakLinkNetwork (client : Firmware) : SimM κ μ Unit := do
  let config := (← get).config
  addMote config.serverId (some (.server 0))
  addMote config.relayId (some .base)
  addMote config.clientId (some client)
  let _ ← link config.serverId config.clientId (some (.double config.nominalRatio))
  let _ ← link config.serverId config.relayId (some (.double config.relayRatio))
  let _ ← link config.relayId config.clientId (some (.double config.relayRatio))
  bootAll

/-- Builds the weak-link network: the client reports its progress, and its frames may go by way of
the relay. -/
def buildWeakLink (limit : Option Int) : SimM κ μ Unit := do
  let config := (← get).config
  weakLinkNetwork
    (client config (limit.getD config.clientCounterLimit) (some config.relayId) true)

/-- The reception network around a client, on a link of a given ratio. -/
def receptionNetwork (client : Firmware) (ratio : Option Amount) : SimM κ μ Unit := do
  let config := (← get).config
  addMote config.serverId (some (.server 0))
  addMote config.clientId (some client)
  let _ ← link config.serverId config.clientId ratio
  bootAll

/-- Builds the reception network: the client sends a few counters over a link of a given ratio. -/
def buildReception (ratio : Option Amount) (limit : Option Int) : SimM κ μ Unit := do
  let config := (← get).config
  receptionNetwork (client config (limit.getD config.receptionCounterLimit) none false) ratio

/-- Notes in a trace how a run ended. -/
def closeTrace (h : Nat) (trace : Option Nat) : SimM κ μ Unit := do
  match trace with
  | none => return
  | some id =>
    let w ← get
    let verdict := w.hosts[h]?.bind (·.log.verdict)
    observe (·.modifyTrace id (·.close (verdict.map Verdict.name) w.now))

/-- Runs a script on a simulation to the end of the test and returns the number of its host. With a
trace, log lines, receptions and changes of links are recorded in it, and in the end the verdict and
the time, also if the run fails. -/
def runScript (act : Behaviour κ μ) (fuel : Nat) (script : Script κ) (trace : Option Nat)
    (echo : Bool) : SimM κ μ Nat := do
  if trace.isSome then modify fun w => { w with radioTrace := trace }
  let h ← Host.attach (script.recordIn trace) { echo, trace }
  fun w =>
    match Host.run act fuel h w with
    | .ok _ w => (do closeTrace h trace; return h) w
    | .error interrupt w => (do closeTrace h trace; throw interrupt) w

end Scenario

end MoteTrial

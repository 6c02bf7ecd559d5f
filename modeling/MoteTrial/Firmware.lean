import MoteTrial.Config

/-! # Firmware of motes

What runs on a mote: nothing but the boot report, a server that reports every counter it receives,
or a client that sends counters at intervals and reports its progress. The limit of a client may have
been left blank; such a client fails when its timer first expires.
-/

namespace MoteTrial

/-- What a client sends to: its server, by way of a relay if the direct path fails. -/
structure Route where
  server : Int
  relay : Option Int
  deriving DecidableEq, Repr, Inhabited

/-- The state of a client: `counter` is the last counter that it tried to send. -/
structure Client where
  route : Route
  limit : Int
  reports : Bool := true
  counter : Nat := 0
  sent : Nat := 0
  delivered : Nat := 0
  finished : Bool := false
  deriving DecidableEq, Repr, Inhabited

/-- The application of a mote. -/
inductive Firmware where
  | base
  | server (received : Nat)
  | client (client : Client)
  /-- A client with a blank limit. -/
  | blankClient
  deriving DecidableEq, Repr, Inhabited

/-- A mote with all applications that were ever installed on it, the one in use last. An application
that was replaced keeps its state, since its timer may still be running. -/
structure Mote where
  installed : Array Firmware := #[]
  deriving DecidableEq, Repr, Inhabited

/-- What a client reports of its progress. -/
inductive Milestone where
  /-- One third of its counters has been sent. -/
  | oneThird
  /-- Two thirds of its counters have been sent. -/
  | twoThirds
  deriving DecidableEq, Repr

/-- The line in which a milestone is reported. -/
def Milestone.line (config : Config) : Milestone → String
  | .oneThird => config.keywordDeteriorate
  | .twoThirds => config.keywordImprove

/-- A datagram. -/
inductive Payload where
  | number (n : Int)
  | text (s : String)
  deriving DecidableEq, Repr

namespace Client

/-- A third of the limit, rounded down. -/
def third (c : Client) : Int := c.limit / 3

/-- The milestone that a client reports before it sends its next counter. -/
def milestone? (c : Client) : Option Milestone :=
  if c.reports && 0 < c.third then
    if (c.counter : Int) = c.third then some .oneThird
    else if (c.counter : Int) = 2 * c.third then some .twoThirds
    else none
  else none

/-- What a client reports before it sends its next counter. -/
def progress? (config : Config) (c : Client) : Option String :=
  c.milestone?.map (Milestone.line config)

/-- Whether a client has sent all its counters. -/
def exhausted (c : Client) : Bool := (c.counter : Int) = c.limit

/-- The client with its next counter, on the way. -/
def advance (c : Client) : Client := { c with counter := c.counter + 1, sent := c.sent + 1 }

/-- Notes that the server received a counter. -/
def confirm (c : Client) : Client := { c with delivered := c.delivered + 1 }

/-- Notes that the client has reported its end. -/
def finish (c : Client) : Client := { c with finished := true }

end Client

namespace Mote

/-- The application in use. -/
def firmware? (m : Mote) : Option Firmware := m.installed.back?

/-- Installs an application and puts it to use. -/
def install (m : Mote) (firmware : Firmware) : Mote := ⟨m.installed.push firmware⟩

/-- The place of the application in use. -/
def currentSlot (m : Mote) : Nat := m.installed.size - 1

/-- The client at a place. -/
def client? (m : Mote) (slot : Nat) : Option Client :=
  match m.installed[slot]? with
  | some (.client c) => some c
  | _ => none

/-- Replaces the state of the application at a place. -/
def set (m : Mote) (slot : Nat) (firmware : Firmware) : Mote :=
  ⟨m.installed.setIfInBounds slot firmware⟩

end Mote

end MoteTrial

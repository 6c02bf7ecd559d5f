import MoteTrial.Binary64.Basic

/-! # Parameters of a run

Seeds, deadlines, keywords, roles of the motes, timing of the firmware, link qualities and the place
of the traces. `Config.standard` holds the usual values.
-/

namespace MoteTrial

/-- The parameters of a run; all times are in milliseconds. -/
structure Config where
  seed : Int := 1337
  run : Int := 0
  linkFaultTimeout : Int := 7200000
  receptionTimeout : Int := 1000000
  keywordDone : String := "done"
  keywordDeteriorate : String := "1 third"
  keywordImprove : String := "2 thirds"
  keywordStarted : String := "started"
  keywordReceived : String := "received"
  serverId : Int := 1
  relayId : Int := 2
  clientId : Int := 3
  bootInterval : Int := 1333
  clientStartDelay : Int := 600000
  clientSendInterval : Int := 10000
  clientSendJitter : Int := 500
  clientCounterLimit : Int := 300
  receptionCounterLimit : Int := 10
  nominalRatio : Binary64 := Binary64.ofNat 1
  deterioratedRatio : Binary64 := Binary64.zero
  relayRatio : Binary64 := Binary64.ofNat 1
  traceEnabled : Bool := true
  traceDirectory : String := "mote_script_traces"
  deriving Inhabited

/-- The usual parameters. -/
def Config.standard : Config := {}

end MoteTrial

import MoteTrial.World

/-! # Running a simulation

Operations on motes and on time. A line that a mote logs is handed to all listeners in the order in
which they were added; `step` fires the next event and `run` fires events until the simulation is
stopped, has no events left, or reaches a bound. Reactions of hosts and of users' code enter through
the parameter `hear`, which says what one listener does with one line.
-/

namespace MoteTrial

open SimM

/-- What a listener does with a line of a mote. -/
abbrev Hearing (κ μ : Type) := Listener κ → Int → String → SimM κ μ Unit

namespace Simulation

variable {κ μ : Type}

/-- Schedules an event after a delay. -/
def schedule (delay : Int) (event : Event κ) : SimM κ μ Unit :=
  onScheduler fun s => s.schedule delay event

/-- Schedules an event at a time, or now if that is past. -/
def scheduleAt (time : Int) (event : Event κ) : SimM κ μ Unit :=
  onScheduler fun s => s.scheduleAt time event

/-- Stops the simulation for good. -/
def stop : SimM κ μ Unit := modify fun w => { w with scheduler := w.scheduler.stop }

/-- Adds a listener after the others. -/
def addListener (listener : Listener κ) : SimM κ μ Unit :=
  modify fun w => { w with listeners := w.listeners ++ [listener] }

/-- Replaces the state of a mote. -/
def setMote (id : Int) (mote : Mote) : SimM κ μ Unit :=
  modify fun w => { w with motes := w.motes.put id mote }

/-- Adds a mote, whose identifier must be new. -/
def addMote (id : Int) (firmware : Option Firmware) : SimM κ μ Unit := do
  if (← get).motes.has id then fail (.moteExists id)
  match firmware with
  | none => setMote id {}
  | some firmware => setMote id (Mote.install {} firmware)

/-- The state of a mote, which is added if it is missing. -/
def getMote (id : Int) : SimM κ μ Mote := do
  match (← get).motes.find? id with
  | some mote => return mote
  | none =>
    setMote id {}
    return {}

/-- Installs an application on a mote. -/
def install (id : Int) (firmware : Firmware) : SimM κ μ Unit := do
  let mote ← getMote id
  setMote id (mote.install firmware)

/-- Changes the state of the client at a place of a mote. -/
def modifyClient (id : Int) (slot : Nat) (f : Client → Client) : SimM κ μ Unit :=
  modify fun w =>
    match w.motes.find? id with
    | none => w
    | some mote =>
      match mote.client? slot with
      | none => w
      | some c => { w with motes := w.motes.put id (mote.set slot (.client (f c))) }

/-- The state of the client at a place of a mote. -/
def client? (id : Int) (slot : Nat) : SimM κ μ (Option Client) :=
  return (← get).motes.find? id |>.bind (·.client? slot)

/-- Hands a line to listeners in order. -/
def tell (hear : Hearing κ μ) (mote : Int) (msg : String) : List (Listener κ) → SimM κ μ Unit
  | [] => pure ()
  | listener :: rest => do
    hear listener mote msg
    tell hear mote msg rest

/-- Logs a line of a mote: all that listen now hear it. -/
def emit (hear : Hearing κ μ) (mote : Int) (msg : String) : SimM κ μ Unit := do
  tell hear mote msg (← get).listeners

/-- Boots a mote: its application reports that it has started, and a client sets its timer. -/
def boot (hear : Hearing κ μ) (id : Int) : SimM κ μ Unit := do
  let w ← get
  match w.motes.find? id with
  | none => return
  | some mote =>
    match mote.firmware? with
    | none => return
    | some firmware =>
      emit hear id ((← ofExcept (writeInt id)) ++ " " ++ w.config.keywordStarted)
      match firmware with
      | .client _ | .blankClient =>
        schedule w.config.clientStartDelay (.tick id mote.currentSlot)
      | _ => return

/-- Schedules the boot of each mote that has an application, at a multiple of its identifier. -/
def bootEach (interval : Int) : List (Int × Mote) → SimM κ μ Unit
  | [] => pure ()
  | (id, mote) :: rest => do
    if mote.firmware?.isSome then schedule (interval * id) (.boot id)
    bootEach interval rest

/-- Schedules the boot of all motes in the order of their identifiers. -/
def bootAll : SimM κ μ Unit := do
  let w ← get
  bootEach w.config.bootInterval w.motes.entries

/-- The text of a payload. -/
def payloadText : Payload → Except Failure String
  | .number n => writeInt n
  | .text s => .ok s

/-- Hands a datagram to a mote: a server counts and reports it. -/
def receive (hear : Hearing κ μ) (id : Int) (payload : Payload) : SimM κ μ Unit := do
  let w ← get
  match w.motes.find? id with
  | none => return
  | some mote =>
    match mote.firmware? with
    | some (.server received) =>
      setMote id (mote.set mote.currentSlot (.server (received + 1)))
      emit hear id (w.config.keywordReceived ++ " " ++ (← ofExcept (payloadText payload)))
    | _ => return

/-- Sends one frame between two motes. -/
def transmit (source target : Int) : SimM κ μ Bool :=
  modifyGet fun w =>
    let (heard, medium) := w.medium.transmit source target
    (heard, { w with medium })

/-- Sends two frames by way of a relay, the second only if the first is received. -/
def transmitVia (source relay target : Int) : SimM κ μ Bool := do
  if ← transmit source relay then transmit relay target else return false

/-- Delivers a counter of a mote to a server, directly or by way of the relay; the answer tells
whether the server received it. The server receives it by the operation `hand`. -/
def deliverBy (hand : Int → Payload → SimM κ μ Unit) (id : Int) (route : Route) (counter : Nat) :
    SimM κ μ Bool := do
  if !(← get).motes.has route.server then return false
  if ← transmit id route.server then
    hand route.server (.number counter)
    return true
  match route.relay with
  | none => return false
  | some relay =>
    if !(← get).motes.has relay then return false
    if ← transmitVia id relay route.server then
      hand route.server (.number counter)
      return true
    return false

/-- Delivers a counter of a mote to a server that counts and reports it. -/
def deliver (hear : Hearing κ μ) : Int → Route → Nat → SimM κ μ Bool := deliverBy (receive hear)

/-- The time until a client sends again. -/
def nextInterval : SimM κ μ Int := do
  let w ← get
  let bound := w.config.clientSendJitter
  if bound < 0 then fail (.emptyRange bound)
  let (delay, jitter) := w.jitter.next bound.toNat
  modify fun w => { w with jitter }
  return w.config.clientSendInterval + delay

/-- Sends the next counter of a client, which is delivered by the operation `attempt`. -/
def sendNextBy (attempt : Int → Route → Nat → SimM κ μ Bool) (id : Int) (slot : Nat) :
    SimM κ μ Unit := do
  modifyClient id slot Client.advance
  match ← client? id slot with
  | none => return
  | some c =>
    if ← attempt id c.route c.counter then modifyClient id slot Client.confirm
    schedule (← nextInterval) (.tick id slot)

/-- Sends the next counter of a client. -/
def sendNext (hear : Hearing κ μ) : Int → Nat → SimM κ μ Unit := sendNextBy (deliver hear)

/-- The application at a place of a mote. -/
def firmware? (id : Int) (slot : Nat) : SimM κ μ (Option Firmware) :=
  return (← get).motes.find? id |>.bind (·.installed[slot]?)

/-- The timer of a client: reports the end once all counters are sent, otherwise reports progress,
sends the next counter and sets the timer again. Its lines are logged by the operation `log`, and its
counters delivered by the operation `attempt`. -/
def tickBy (log : Int → String → SimM κ μ Unit) (attempt : Int → Route → Nat → SimM κ μ Bool)
    (id : Int) (slot : Nat) : SimM κ μ Unit := do
  match ← firmware? id slot with
  | none | some .base | some (.server _) => return
  | some .blankClient => fail (.blank .limit)
  | some (.client c) =>
    if c.exhausted then
      log id (← get).config.keywordDone
      modifyClient id slot Client.finish
    else
      match c.progress? (← get).config with
      | none => sendNextBy attempt id slot
      | some report => do
        log id report
        sendNextBy attempt id slot

/-- The timer of a client. -/
def tick (hear : Hearing κ μ) : Int → Nat → SimM κ μ Unit := tickBy (emit hear) (deliver hear)

/-- Changes a link, tells of it on the console and records it. -/
def changeLink (change : Change) (a b : Int) : SimM κ μ Unit := do
  let now ← now
  onMedium fun config m => return ((), ← m.change config now change a b)
  let time ← ofExcept (writeInt now)
  let first ← ofExcept (writeInt a)
  let second ← ofExcept (writeInt b)
  print ("[radio] " ++ String.ofList (List.replicate (10 - time.length) ' ') ++ time ++ "ms " ++
    change.name ++ " link " ++ first ++ "<->" ++ second ++ "\n")
  match (← get).radioTrace with
  | none => return
  | some id => observe (·.recordLink id ⟨now, change.name, a, b⟩)

/-- Fires the next event; the answer is false if the simulation is stopped or has no events. -/
def step (fire : Event κ → SimM κ μ Unit) : SimM κ μ Bool := do
  let w ← get
  if w.scheduler.stopped then return false
  match w.scheduler.next? with
  | none => return false
  | some (appointment, scheduler) =>
    modify fun w => { w with scheduler }
    fire appointment.event
    modify fun w => { w with scheduler := w.scheduler.finishEvent }
    return true

/-- Fires events until the simulation is stopped or has no events, or until the next event is later
than the bound, which then becomes the time. The answer is the time at the end. -/
def run (fire : Event κ → SimM κ μ Unit) (bound : Option Int) : Nat → SimM κ μ Int
  | 0 => throw .exhausted
  | fuel + 1 => do
    let w ← get
    if w.scheduler.stopped then return w.now
    match w.scheduler.nextDue?, bound with
    | none, _ => return w.now
    | some due, some limit =>
      if limit < due then
        modify fun w => { w with scheduler := w.scheduler.setNow limit }
        return limit
      else
        let _ ← step fire
        run fire bound fuel
    | some _, none =>
      let _ ← step fire
      run fire bound fuel

end Simulation

end MoteTrial

import MoteTrial.Experiment.Command

/-! # Carrying out experiments

`exec` carries out one command, `act` is the behaviour of the experiment's code. The code of an
experiment may carry out commands that call code again; `act` takes a bound for the depth of such
calls, and `exec` a bound for the number of events that one run may fire.
-/

namespace MoteTrial.Experiment

open SimM Simulation

/-- An operation of an experiment. -/
abbrev ExpM := SimM Code Notebook

/-- The number of events that one run may fire. -/
def eventLimit : Nat := 2 ^ 60

/-- The depth to which code may call code. -/
def depthLimit : Nat := 2000

/-- Adds a note. -/
def note (n : Note) : ExpM Unit :=
  modify fun w => { w with memory := { w.memory with notes := w.memory.notes.push n } }

/-- The host of a name. -/
def hostNamed (name : String) : ExpM Nat := do
  match (← get).memory.hosts.lookup name with
  | some h => return h
  | none => SimM.fail (.raised "KeyError" name)

/-- The state of the simulation. -/
def snapshot (w : World Code Notebook) : Snapshot where
  seed := w.seed
  now := w.now
  pending := w.scheduler.pending.length
  processed := w.scheduler.processed
  stopped := w.scheduler.stopped
  listeners := w.listeners.length
  medium := w.medium
  motes := w.motes.entries

/-- The script of a specification. -/
def ScriptSpec.script (config : Config) : ScriptSpec → Script Code
  | .builtIn name timeout => name.script config timeout
  | .probe setup rules => .code (.probe setup rules)

/-- Logs lines of a mote in order; the mote is added with its first line if it is missing. -/
def logAll (act : Behaviour Code Notebook) (mote : Int) : List String → ExpM Unit
  | [] => pure ()
  | msg :: rest => do
    let _ ← getMote mote
    emit (hear act) mote msg
    logAll act mote rest

/-- Sends frames from one mote to another and shows their fates as ones and zeros. -/
def transmitAll (a b : Int) : Nat → ExpM (List Char)
  | 0 => pure []
  | frames + 1 => do
    let heard ← transmit a b
    return (if heard then '1' else '0') :: (← transmitAll a b frames)

/-- Carries out a command. -/
def exec (act : Behaviour Code Notebook) : Command → ExpM Reply
  | .addMote id firmware => do
    addMote id firmware
    return .number id
  | .getMote id => do
    let _ ← getMote id
    let text ← ofExcept (writeInt id)
    return .text ("Mote(" ++ text ++ ") Radio(" ++ text ++ ")")
  | .install id firmware => do
    install id firmware
    return .nothing
  | .boot id => do
    let _ ← getMote id
    boot (hear act) id
    return .nothing
  | .receive id source payload => do
    let _ ← getMote id
    let _ ← getMote source
    receive (hear act) id payload
    return .nothing
  | .log id msgs => do
    logAll act id msgs
    return .nothing
  | .schedule delay tag body => do
    schedule delay (.task (.task tag body))
    return .nothing
  | .scheduleAt time tag body => do
    scheduleAt time (.task (.task tag body))
    return .nothing
  | .listen tag pattern body => do
    addListener (.code (.tap tag pattern body))
    return .nothing
  | .bootAll => do
    bootAll
    return .nothing
  | .step => return .flag (← step (fire act))
  | .run bound => return .number (← run (fire act) bound eventLimit)
  | .stop => do
    stop
    return .nothing
  | .raise text => SimM.fail (.raised "RuntimeError" text)
  | .replay lines => do
    let records ← ofExcept (LogFile.readLines lines)
    Replay.schedule records
    return .number records.length
  | .state => return .state (snapshot (← get))
  | .traceTo runId folder => do
    let id ← modifyGet fun w =>
      let (id, observer) := w.observer.newTrace
      (id, { w with observer, memory := { w.memory with trace := some id } })
    match runId with
    | none => pure ()
    | some runId => onObserver (Observer.startFiles id runId folder)
    modify fun w => { w with radioTrace := some id }
    return .nothing
  | .showTrace => do
    let w ← get
    return .trace (w.memory.trace.map w.observer.trace)
  | .attach name spec echo ownLog => do
    let w ← get
    let trace := w.memory.trace
    let log : TestLog := if ownLog then {} else { echo, trace }
    let h ← Host.attach ((spec.script w.config).recordIn trace) log
    modify fun w => { w with memory := { w.memory with hosts := (name, h) :: w.memory.hosts } }
    return .nothing
  | .start name => do
    Host.start act (← hostNamed name)
    return .nothing
  | .runHost name => do
    let h ← hostNamed name
    Host.run act eventLimit h
    return .verdict ((← get).hosts[h]?.bind (·.log.verdict))
  | .registerDeadline name after tag body => do
    let action : Expiry Code := match tag with
      | none => .nothing
      | some tag => .code (.task (some tag) body)
    Host.registerDeadline (← hostNamed name) after action
    return .nothing
  | .showHost name => do
    let h ← hostNamed name
    let w ← get
    match w.hosts[h]? with
    | none => return .nothing
    | some host => return .host h host w.now
  | .addLink a b ratio => return .link (← Scenario.link a b ratio)
  | .getLink a b => return .link (← onMedium fun config m => m.getLink config a b)
  | .hasLink a b => return .flag ((← get).medium.link? a b).isSome
  | .linkQuality a b => do
    let link ← onMedium fun config m => m.getLink config a b
    return .ratio link.current
  | .change kind a b => do
    changeLink kind a b
    return .nothing
  | .transmit a b frames => return .text (String.ofList (← transmitAll a b frames))
  | .showMedium => return .medium (← get).medium

/-- Carries out commands in order and notes the answer of each. -/
def execAll (act : Behaviour Code Notebook) : List Command → ExpM Unit
  | [] => pure ()
  | command :: rest => do
    let reply ← exec act command
    note (.op command reply)
    execAll act rest

/-- The text of what may be missing. -/
def orNone : Option String → String
  | none => "None"
  | some text => text

/-- Carries out an action of a probe script. -/
def perform (act : Behaviour Code Notebook) (h : Nat) : Action → ExpM Unit
  | .pass => Host.pass h
  | .fail reason => Host.failTest h reason
  | .write text mote => Host.write h text mote
  | .stop => stop
  | .emit mote msg => do
    let _ ← getMote mote
    emit (hear act) mote msg
  | .deadline after actions =>
    Host.registerDeadline h after (match actions with
      | none => .nothing
      | some actions => .code (.actions actions))
  | .raise name text => SimM.fail (.raised name text)
  | .whereabouts => do
    let w ← get
    match w.hosts[h]? with
    | none => return
    | some host =>
      let time ← ofExcept (writeInt w.now)
      let mote ← match host.mote with
        | none => pure "None"
        | some id => do pure ("Mote(" ++ (← ofExcept (writeInt id)) ++ ")")
      Host.write h (time ++ " " ++ mote ++ " " ++ orNone host.msg ++ " True") (-1)

/-- Carries out actions in order. -/
def performAll (act : Behaviour Code Notebook) (h : Nat) : List Action → ExpM Unit
  | [] => pure ()
  | action :: rest => do
    perform act h action
    performAll act h rest

/-- Notes that a callback ran, if it has a tag. -/
def noteFire : Option String → ExpM Unit
  | none => pure ()
  | some tag => do note (.fire tag (← now))

/-- What code does on an occasion, given the behaviour of the code that it calls. -/
def react (act : Behaviour Code Notebook) (code : Code) (cue : Cue) : ExpM Bool := do
  match code, cue with
  | .task tag body, _ =>
    noteFire tag
    execAll act body
    return false
  | .tap tag pattern body, .heard mote msg =>
    match tag with
    | none => pure ()
    | some tag => note (.line tag (← now) mote msg)
    match pattern with
    | none => return false
    | some pattern =>
      if Text.contains msg pattern then execAll act body
      return false
  | .recorder, .heard mote msg =>
    let time ← now
    modify fun w =>
      { w with memory := { w.memory with emitted := w.memory.emitted.push (time, mote, msg) } }
    return false
  | .probe setup _, .setup h =>
    performAll act h setup
    return false
  | .probe _ rules, .line h _ msg =>
    match rules.find? fun rule => Text.contains msg rule.pattern with
    | none => return false
    | some rule =>
      performAll act h rule.actions
      return rule.answer
  | .actions actions, .expired h =>
    performAll act h actions
    return false
  | _, _ => return false

/-- The behaviour of an experiment's code, to a depth of calls. -/
def act : Nat → Behaviour Code Notebook
  | 0 => fun _ _ => throw .exhausted
  | depth + 1 => react (act depth)

/-- The behaviour of an experiment's code. -/
def behaviour : Behaviour Code Notebook := act depthLimit

end MoteTrial.Experiment

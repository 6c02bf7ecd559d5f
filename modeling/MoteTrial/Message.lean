import MoteTrial.Config
import MoteTrial.Failure
import MoteTrial.Text.Search

/-! # Meaning of log lines

Motes report progress in plain log lines. `Message.classify` tells what a line means to the
link-fault script, `Message.startedEndpoint?` which end of the link has started, and
`Message.parseReceived` reads the counter of a reception line.
-/

namespace MoteTrial

/-- What a line means to the link-fault script. -/
inductive Message.Kind where
  | done
  | deteriorate
  | improve
  | started
  | other
  deriving DecidableEq, Repr

/-- The two ends of the link that the link-fault script controls: motes 1 and 3. -/
inductive Endpoint where
  | first
  | third
  deriving DecidableEq, Repr

namespace Message

open Text

/-- The name of a kind. -/
def Kind.name : Kind → String
  | .done => "done"
  | .deteriorate => "deteriorate"
  | .improve => "improve"
  | .started => "started"
  | .other => "other"

/-- The keywords of the link-fault script in order of precedence. They are the usual ones: a run
that changes keywords changes what the firmware says, not what the script listens for. -/
def keywords : List (String × Kind) :=
  [(Config.standard.keywordDone, .done), (Config.standard.keywordDeteriorate, .deteriorate),
    (Config.standard.keywordImprove, .improve), (Config.standard.keywordStarted, .started)]

/-- The kind of the first keyword that occurs in a line. -/
def classify (msg : String) : Kind :=
  match keywords.find? fun entry => contains msg entry.1 with
  | some (_, kind) => kind
  | none => .other

/-- The end of the link that a line announces as started; the first one takes precedence. -/
def startedEndpoint? (config : Config) (msg : String) : Option Endpoint :=
  if contains msg ("1 " ++ config.keywordStarted) then some .first
  else if contains msg ("3 " ++ config.keywordStarted) then some .third
  else none

/-- Reads a reception line: the keyword at its start, the counter as its second word. Other lines
have no counter. -/
def parseReceived (config : Config) (msg : String) : Except Failure (Option Int) :=
  if !startsWith msg config.keywordReceived then .ok none
  else match (words msg.toList)[1]? with
    | none => .error (.missingCounter msg)
    | some token =>
      match Numeral.readInt token with
      | .ok counter => .ok (some counter)
      | .error _ => .error (.badCounter (String.ofList token) msg)

end Message

end MoteTrial

import MoteTrial.Scenario

/-! # Options of the command line

Reading an argument vector. `classify` says what each argument is by itself; an unambiguous
beginning of a long option stands for it, and a value may follow an equals sign. `collect` takes the
classified arguments in order and sets the options; the value `--` leaves an option blank. Arguments
that no option takes are refused in the end.
-/

namespace MoteTrial.Cli

open Text

/-- The options. -/
inductive Flag where
  | help
  | script
  | replay
  | seed
  | run
  | ratio
  | counters
  | timeout
  | output
  | noTrace
  deriving DecidableEq, Repr

/-- The spellings of the options, in the order in which they are listed. -/
def spellings : List (String × Flag) :=
  [("-h", .help), ("--help", .help), ("--script", .script), ("--replay", .replay),
    ("--seed", .seed), ("--run", .run), ("--prr", .ratio), ("--counters", .counters),
    ("--timeout", .timeout), ("--output", .output), ("--no-trace", .noTrace)]

/-- How diagnostics name an option. -/
def Flag.display : Flag → String
  | .help => "-h/--help"
  | .script => "--script"
  | .replay => "--replay"
  | .seed => "--seed"
  | .run => "--run"
  | .ratio => "--prr"
  | .counters => "--counters"
  | .timeout => "--timeout"
  | .output => "--output"
  | .noTrace => "--no-trace"

/-- Whether an option takes a value. -/
def Flag.takesValue : Flag → Bool
  | .help | .noTrace => false
  | _ => true

/-- Why an argument vector is refused. -/
inductive UsageError where
  | ambiguous (arg : String) (candidates : List String)
  | noValue (flag : Flag)
  | notInteger (flag : Flag) (text : String)
  | notNumber (flag : Flag) (text : String)
  | notScript (text : String)
  | unwantedValue (flag : Flag) (text : String)
  | unrecognized (args : List String)
  deriving DecidableEq, Repr

/-- What a diagnostic says about an option. -/
def UsageError.about (flag : Flag) (text : String) : String :=
  "argument " ++ flag.display ++ ": " ++ text

/-- The text of a refusal. -/
def UsageError.message : UsageError → String
  | .ambiguous arg candidates =>
    "ambiguous option: " ++ arg ++ " could match " ++ ", ".intercalate candidates
  | .noValue flag => about flag "expected one argument"
  | .notInteger flag text => about flag ("invalid int value: " ++ quoted text)
  | .notNumber flag text => about flag ("invalid float value: " ++ quoted text)
  | .notScript text =>
    about .script ("invalid choice: " ++ quoted text ++ " (choose from 'link-fault', 'reception')")
  | .unwantedValue flag text => about flag ("ignored explicit argument " ++ quoted text)
  | .unrecognized args => "unrecognized arguments: " ++ " ".intercalate args

/-- What an argument is. -/
inductive Argument where
  /-- An option, with the value that was joined to it. -/
  | option (flag : Flag) (value : Option String)
  /-- The short option `-h` with other letters or a value joined to it. -/
  | cluster (letters : List Char)
  /-- An argument that looks like an option and is none. -/
  | unknown (text : String)
  /-- Anything else. -/
  | plain (text : String)
  /-- The end of the options. -/
  | stop
  deriving DecidableEq, Repr

/-- The spellings that a long option may be completed to. -/
def completions (start : String) : List (String × Flag) :=
  spellings.filter fun entry => startsWith entry.1 start

/-- Splits an argument at its first equals sign. -/
def splitEquals (arg : List Char) : List Char × Option (List Char) :=
  match arg.dropWhile (· != '=') with
  | [] => (arg, none)
  | _ :: value => (arg.takeWhile (· != '='), some value)

/-- Whether a text is a negative number: digits with at most one point, which a digit follows. A line
feed may end it. -/
def isNegativeNumber : List Char → Bool
  | '-' :: body =>
    let body := if body.getLast? = some '\n' then body.dropLast else body
    match body.dropWhile isDecimalDigit with
    | [] => !body.isEmpty
    | '.' :: fraction => !fraction.isEmpty && fraction.all isDecimalDigit
    | _ => false
  | _ => false

/-- What an argument is that starts with a hyphen and is no option by itself. -/
def classifyOther (arg : String) : Argument :=
  if isNegativeNumber arg.toList || contains arg " " then .plain arg else .unknown arg

/-- An argument in which an option is completed, if there is only one way to do so. -/
def complete (arg : String) : Except UsageError Argument :=
  let (start, value) := splitEquals arg.toList
  match completions (String.ofList start) with
  | [] => .ok (classifyOther arg)
  | [(_, flag)] => .ok (.option flag (value.map String.ofList))
  | several => .error (.ambiguous arg (several.map (·.1)))

/-- What an argument before the end of the options is. -/
def classify (arg : String) : Except UsageError Argument :=
  match arg.toList with
  | '-' :: second :: more =>
    match spellings.lookup arg with
    | some flag => .ok (.option flag none)
    | none =>
      if second = '-' then
        match splitEquals arg.toList with
        | (name, some value) =>
          match spellings.lookup (String.ofList name) with
          | some flag => .ok (.option flag (some (String.ofList value)))
          | none => complete arg
        | (_, none) => complete arg
      else if second = 'h' then
        .ok (.cluster (match more with
          | '=' :: value => value
          | letters => letters))
      else .ok (classifyOther arg)
  | _ => .ok (.plain arg)

/-- Classifies an argument vector up to the end of the options. -/
def classifyAll : List String → Except UsageError (List Argument)
  | [] => .ok []
  | arg :: rest =>
    if arg = "--" then .ok (.stop :: rest.map .plain)
    else do
      let first ← classify arg
      return first :: (← classifyAll rest)

/-- What an option that takes a value is set to. -/
inductive Setting (α : Type) where
  | blank
  | value (a : α)
  deriving DecidableEq, Repr, Inhabited

/-- The value of an option that must not be blank. -/
def Setting.require {α : Type} (option : Blank) : Setting α → Except Failure α
  | .blank => .error (.blank option)
  | .value a => .ok a

/-- The options that hold for later runs as well. -/
structure Defaults where
  seed : Setting Int
  run : Setting Int
  output : Setting String
  traceEnabled : Bool

/-- The options that hold for the first run. -/
def Defaults.ofConfig (config : Config) : Defaults where
  seed := .value config.seed
  run := .value config.run
  output := .value config.traceDirectory
  traceEnabled := config.traceEnabled

/-- The values of the options. A blank file to be replayed is the same as none. -/
structure Options where
  script : Setting ScriptName := .value .linkFault
  replay : Option String := none
  seed : Setting Int
  run : Setting Int
  ratio : Setting Binary64
  counters : Option (Setting Int) := none
  timeout : Option (Setting Int) := none
  output : Setting String
  noTrace : Bool := false

/-- The options that hold without arguments. -/
def Options.ofDefaults (config : Config) (defaults : Defaults) : Options where
  seed := defaults.seed
  run := defaults.run
  ratio := .value config.nominalRatio
  output := defaults.output

/-- What ends the reading of arguments early. -/
inductive Exit where
  /-- The help text is wanted. -/
  | help
  | usage (error : UsageError)
  deriving DecidableEq, Repr

/-- Reads the value of an option that is an integer. -/
def intValue (flag : Flag) (text : String) : Except Exit Int :=
  match Numeral.readInt text.toList with
  | .ok n => .ok n
  | .error _ => .error (.usage (.notInteger flag text))

/-- Leaves an option blank. -/
def Options.setBlank (o : Options) (flag : Flag) : Options :=
  match flag with
  | .script => { o with script := .blank }
  | .replay => { o with replay := none }
  | .output => { o with output := .blank }
  | .ratio => { o with ratio := .blank }
  | .seed => { o with seed := .blank }
  | .run => { o with run := .blank }
  | .counters => { o with counters := some .blank }
  | .timeout => { o with timeout := some .blank }
  | .help | .noTrace => o

/-- Sets an option that takes a value. -/
def Options.set (o : Options) (flag : Flag) (text : String) : Except Exit Options :=
  if !flag.takesValue then .error (.usage (.unwantedValue flag text))
  else if text = "--" then .ok (o.setBlank flag)
  else match flag with
    | .script =>
      if text = ScriptName.linkFault.text then .ok { o with script := .value .linkFault }
      else if text = ScriptName.reception.text then .ok { o with script := .value .reception }
      else .error (.usage (.notScript text))
    | .replay => .ok { o with replay := some text }
    | .output => .ok { o with output := .value text }
    | .ratio =>
      match Numeral.readFloat? text.toList with
      | some ratio => .ok { o with ratio := .value ratio }
      | none => .error (.usage (.notNumber flag text))
    | .seed => return { o with seed := .value (← intValue flag text) }
    | .run => return { o with run := .value (← intValue flag text) }
    | .counters => return { o with counters := some (.value (← intValue flag text)) }
    | .timeout => return { o with timeout := some (.value (← intValue flag text)) }
    | .help | .noTrace => .ok o

/-- What is joined to `-h`: more of the same letter, and what begins with another character is
refused. -/
def cluster : List Char → Exit
  | ['h'] => .help
  | 'h' :: rest => cluster rest
  | rest => .usage (.unwantedValue .help (String.ofList rest))

/-- Takes classified arguments in order. The answer has the arguments that no option took. -/
def collect (o : Options) : List Argument → Except Exit (Options × List String)
  | [] => .ok (o, [])
  | .plain text :: rest => do
    let (o, extra) ← collect o rest
    return (o, text :: extra)
  | .unknown text :: rest => do
    let (o, extra) ← collect o rest
    return (o, text :: extra)
  | .stop :: rest => do
    let (o, extra) ← collect o rest
    return (o, "--" :: extra)
  | .cluster letters :: _ => .error (cluster letters)
  | .option flag (some value) :: rest => do collect (← o.set flag value) rest
  | .option .help none :: _ => .error .help
  | .option .noTrace none :: rest => collect { o with noTrace := true } rest
  | .option flag none :: .plain value :: rest => do collect (← o.set flag value) rest
  | .option flag none :: _ => .error (.usage (.noValue flag))

/-- Reads an argument vector. -/
def parse (config : Config) (defaults : Defaults) (args : List String) : Except Exit Options := do
  match classifyAll args with
  | .error e => .error (.usage e)
  | .ok arguments =>
    let (options, extra) ← collect (.ofDefaults config defaults) arguments
    if extra.isEmpty then return options else .error (.usage (.unrecognized extra))

end MoteTrial.Cli

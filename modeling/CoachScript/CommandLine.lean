import CoachScript.Engine
import CoachScript.Files
import CoachScript.Host.Fixture

/-!
# The command line

The program evaluates a question of a coach, or all its questions, with a host that a fixture file
furnishes, and prints the state that this leaves and the messages that scripts wrote.

* `Invocation.ofArguments`: what the arguments ask for. An option is given at most once; its value
  follows it, or stands in the same argument; the first argument that is wrong ends the reading.
* `Invocation.perform`: the evaluation. A refusal or faulted lines are an exit code of 1, and do not
  keep the state from being printed.
* `CommandLine.run`: both, with what the paths of files lead to.
-/

namespace CoachScript

/-- The options of the command line. -/
inductive Flag where
  | fixture
  | coach
  | question
  | config
  | verbose
  | help
  | version
deriving DecidableEq, Repr

namespace Flag

/-- Every option. -/
def all : List Flag := [.fixture, .coach, .question, .config, .verbose, .help, .version]

/-- The name of an option behind two dashes. -/
def name : Flag → String
  | .fixture => "fixture"
  | .coach => "coach"
  | .question => "question"
  | .config => "config"
  | .verbose => "verbose"
  | .help => "help"
  | .version => "version"

/-- The letter of an option behind one dash. -/
def letter? : Flag → Option Char
  | .fixture => some 'f'
  | .coach => some 'c'
  | .question => some 'q'
  | .config => none
  | .verbose => some 'v'
  | .help => some 'h'
  | .version => some 'V'

/-- The option has a value. -/
def hasValue : Flag → Bool
  | .fixture | .coach | .question | .config => true
  | .verbose | .help | .version => false

/-- The value of an option must not be empty. -/
def isPath : Flag → Bool
  | .fixture | .config => true
  | _ => false

end Flag

/-- Why arguments ask for nothing that can be done. -/
inductive UsageFault where
  | unknown (argument : String)
  | repeated (flag : Flag)
  | missingValue (flag : Flag)
  | needlessValue (flag : Flag)
  | missing (flag : Flag)
deriving DecidableEq, Repr

/-- The wording of a fault. -/
def UsageFault.message : UsageFault → String
  | .unknown argument => String.join ["unexpected argument '", argument, "' found"]
  | .repeated flag =>
    String.join ["the argument '--", flag.name, "' cannot be used multiple times"]
  | .missingValue flag =>
    String.join ["a value is required for '--", flag.name, "' but none was supplied"]
  | .needlessValue flag =>
    String.join ["unexpected value for '--", flag.name, "' found; no more were expected"]
  | .missing flag => String.join ["the required argument '--", flag.name, "' was not provided"]

/-- Why the reading of arguments stops before their end. -/
inductive Halt where
  | help
  | version
  | misuse (e : UsageFault)
deriving DecidableEq, Repr

/-! ### Reading the arguments -/

/-- How far the arguments were read: the options given, and one whose value has to follow. -/
structure ArgumentState where
  given : List (Flag × String)
  awaiting : Option Flag
deriving DecidableEq, Repr

namespace ArgumentState

/-- No argument was read. -/
def start : ArgumentState := ⟨[], none⟩

/-- The option was given. -/
def has (s : ArgumentState) (flag : Flag) : Bool := s.given.any (·.1 == flag)

/-- Takes an option with its value, which is empty for one that has none. -/
def take (s : ArgumentState) (flag : Flag) (value : String) : Except Halt ArgumentState :=
  match flag with
  | .help => .error .help
  | .version => .error .version
  | flag =>
    if s.has flag then .error (.misuse (.repeated flag))
    else if flag.isPath && value.isEmpty then .error (.misuse (.missingValue flag))
    else .ok ⟨(flag, value) :: s.given, none⟩

/-- Takes the letters of one argument. The letters behind an option with a value are its value, with
or without a sign of equality in front; if there are none, the value has to follow. -/
def takeLetters (s : ArgumentState) : List Char → Except Halt ArgumentState
  | [] => .ok s
  | c :: rest =>
    match Flag.all.find? (·.letter? == some c) with
    | none => .error (.misuse (.unknown (String.ofList ['-', c])))
    | some flag =>
      if flag.hasValue then
        match rest with
        | [] => .ok { s with awaiting := some flag }
        | '=' :: value => s.take flag (String.ofList value)
        | value => s.take flag (String.ofList value)
      else
        match s.take flag "" with
        | .ok s => s.takeLetters rest
        | .error halt => .error halt

/-- Takes an option by its name; its value may stand behind a sign of equality. -/
def takeName (s : ArgumentState) (text : List Char) : Except Halt ArgumentState :=
  let name := String.ofList (text.takeWhile (· != '='))
  match Flag.all.find? (·.name == name), text.dropWhile (· != '=') with
  | none, _ => .error (.misuse (.unknown ("--" ++ name)))
  | some flag, '=' :: value =>
    if flag.hasValue then s.take flag (String.ofList value)
    else .error (.misuse (.needlessValue flag))
  | some flag, _ => if flag.hasValue then .ok { s with awaiting := some flag } else s.take flag ""

/-- Takes one argument. -/
def takeArgument (s : ArgumentState) (argument : String) : Except Halt ArgumentState :=
  match s.awaiting, argument.toList with
  | some flag, '-' :: _ :: _ => .error (.misuse (.missingValue flag))
  | some flag, _ => s.take flag argument
  | none, '-' :: '-' :: name => s.takeName name
  | none, '-' :: c :: letters => s.takeLetters (c :: letters)
  | none, _ => .error (.misuse (.unknown argument))

/-- Takes all arguments. Two dashes alone end the options, and nothing may follow them. -/
def takeAll (s : ArgumentState) : List String → Except Halt ArgumentState
  | [] =>
    match s.awaiting with
    | some flag => .error (.misuse (.missingValue flag))
    | none => .ok s
  | argument :: more =>
    match s.awaiting, argument, more with
    | none, "--", [] => .ok s
    | none, "--", extra :: _ => .error (.misuse (.unknown extra))
    | _, _, _ =>
      match s.takeArgument argument with
      | .ok s => s.takeAll more
      | .error halt => .error halt

/-- The value of an option. -/
def value? (s : ArgumentState) (flag : Flag) : Option String := s.given.lookup flag

/-- The value of an option that has to be given. -/
def required (s : ArgumentState) (flag : Flag) : Except Halt String :=
  match s.value? flag with
  | some value => .ok value
  | none => .error (.misuse (.missing flag))

end ArgumentState

/-- What the arguments ask for. -/
structure Invocation where
  fixture : String
  coach : String
  /-- The question to evaluate; all of the coach's if there is none. -/
  question : Option String
  config : String
deriving DecidableEq, Repr

/-- What the arguments ask for, or why not that. -/
def Invocation.ofArguments (arguments : List String) : Except Halt Invocation := do
  let s ← ArgumentState.start.takeAll arguments
  let fixture ← s.required .fixture
  let coach ← s.required .coach
  pure ⟨fixture, coach, s.value? .question, (s.value? .config).getD "csl.json"⟩

/-! ### Doing what they ask for -/

/-- What the program leaves: its exit code and its two outputs. -/
structure Ending where
  code : Nat
  output : String
  errors : String
deriving DecidableEq, Repr

/-- A message of the program on a line. -/
def complaintLine (message : String) : String := String.join ["Error: ", message, "\n"]

/-- A message of a script on a line. -/
def LogRecord.line (r : LogRecord) : String :=
  String.join ["[", r.context, " ", r.question, "] ", r.message, "\n"]

/-- What the paths of files lead to. -/
abbrev Reading := String → Except FileFault String

namespace Invocation

/-- The settings: those of the file, if there is anything at its path. -/
def settings (i : Invocation) (files : Reading) : Except Refusal Config :=
  match files i.config with
  | .error e => if e.isFound then .error (.settings e.message) else .ok .standard
  | .ok text =>
    match Config.read? text with
    | some config => .ok config
    | none => .error (.settings "unreadable settings")

/-- The host of the fixture file. -/
def host (i : Invocation) (files : Reading) : Except HostFault Host :=
  match files i.fixture with
  | .error e => .error (.fixture (e.report i.fixture))
  | .ok text =>
    match Fixture.read? text with
    | some fixture => .ok fixture.host
    | none => .error (.fixture "unreadable fixture")

/-- Evaluates what was asked for. -/
def evaluate (i : Invocation) (engine : Engine) : Outcome × Engine :=
  match i.question with
  | some question => engine.evaluateQuestion i.coach question
  | none => engine.evaluateCoach i.coach

/-- Evaluates, and prints the state that this leaves and the messages. -/
def perform (i : Invocation) (config : Config) (host : Host) : Ending :=
  let (outcome, engine) := i.evaluate (.start config .builtin host)
  let complaint? := outcome.complaint?
  let complaint := complaint?.elim "" complaintLine
  let code := if complaint?.isSome then 1 else 0
  match engine.snapshot i.coach with
  | .ok state =>
    let messages := engine.world.log.toList.map LogRecord.line
    ⟨code, String.join (state.pretty :: "\n" :: messages), complaint⟩
  | .error e => ⟨code, "", complaintLine e.message ++ complaint⟩

end Invocation

namespace CommandLine

/-- The forms in which the program is called. -/
def usage : String := "Usage: csl [OPTIONS] --fixture <FIXTURE> --coach <COACH>"

/-- What the options mean. -/
def optionLines : List String :=
  ["  -f, --fixture <FIXTURE>    JSON fixture with coaches, answers, metadata and handlers",
    "  -c, --coach <COACH>        Coach to evaluate",
    "  -q, --question <QUESTION>  Question to evaluate; all questions in order when omitted",
    "      --config <CONFIG>      Path to config file [default: csl.json]",
    "  -v, --verbose              Enable debug mode",
    "  -h, --help                 Print help",
    "  -V, --version              Print version"]

/-- The text that explains the program. -/
def helpText : String :=
  "\n".intercalate
    (["Coach Script Language: rule engine for adaptive branching, scoring and gamification", "",
      usage, "", "Options:"] ++ optionLines ++ [""])

/-- The text that explains a misuse. -/
def misuseText (e : UsageFault) : String :=
  String.join ["error: ", e.message, "\n\n", usage, "\n\nFor more information, try '--help'.\n"]

/-- What the program prints where it evaluates nothing. -/
def halted : Halt → Ending
  | .help => ⟨0, helpText, ""⟩
  | .version => ⟨0, "csl 0.1.0\n", ""⟩
  | .misuse e => ⟨2, "", misuseText e⟩

/-- Runs the program on arguments. The settings are read before the fixture. -/
def run (files : Reading) (arguments : List String) : Ending :=
  match Invocation.ofArguments arguments with
  | .error halt => halted halt
  | .ok i =>
    match i.settings files with
    | .error e => ⟨1, "", complaintLine e.message⟩
    | .ok config =>
      match i.host files with
      | .error e => ⟨1, "", complaintLine e.message⟩
      | .ok host => i.perform config host

end CommandLine

end CoachScript

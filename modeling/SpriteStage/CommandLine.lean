import SpriteStage.Config.Document
import SpriteStage.Snapshot
import SpriteStage.Stage.Cast
import SpriteStage.Stage.Drive

/-!
# The command line

Arguments are parsed into an `Invocation`, unless they only ask for help or make no sense. Given the
configuration it names, an invocation has a `Reply`: the lines it prints and its exit code. Reading
the file and printing are left to the program around it, which also knows the name it is run by.
-/

namespace SpriteStage

/-- What the command line can be asked for. -/
inductive Request where
  | demo (ticks : Nat)
  | run (seconds : UInt64)
  | config
deriving DecidableEq

structure Invocation where
  file : Option String := none
  request : Request
deriving DecidableEq

structure Reply where
  lines : List String := []
  exit : Nat := 0

namespace Reply

def failure : Reply := { exit := 1 }

/-- The reply when the engine breaks down after some lines. -/
def broken (lines : List String) : Reply := { lines, exit := 101 }

end Reply

namespace CommandLine

inductive Verb where
  | demo
  | run
  | config
deriving DecidableEq

namespace Verb

def ofName? : String → Option Verb
  | "demo" => some .demo
  | "run" => some .run
  | "config" => some .config
  | _ => none

/-- The names of the option that takes a number: a long one and a letter. -/
def option? : Verb → Option (String × Char)
  | .demo => some ("ticks", 't')
  | .run => some ("seconds", 's')
  | .config => none

def request (value : Option UInt64) : Verb → Request
  | .demo => .demo (value.getD 100).toNat
  | .run => .run (value.getD 60)
  | .config => .config

def help (program : String) : Verb → List String
  | .demo =>
    ["Step the default cast and print a snapshot after every tick",
     "",
     "Usage: " ++ program ++ " demo [OPTIONS]",
     "",
     "Options:",
     "  -t, --ticks <TICKS>  Maximum number of ticks to run [default: 100]",
     "  -h, --help           Print help"]
  | .run =>
    ["Play the default cast in real time",
     "",
     "Usage: " ++ program ++ " run [OPTIONS]",
     "",
     "Options:",
     "  -s, --seconds <SECONDS>  Give up after this many seconds [default: 60]",
     "  -h, --help               Print help"]
  | .config =>
    ["Print the effective configuration",
     "",
     "Usage: " ++ program ++ " config",
     "",
     "Options:",
     "  -h, --help  Print help"]

end Verb

def generalHelp (program : String) : List String :=
  ["Tick-driven sprite animation runtime",
   "",
   "Usage: " ++ program ++ " [OPTIONS] <COMMAND>",
   "",
   "Commands:",
   "  demo    Step the default cast and print a snapshot after every tick",
   "  run     Play the default cast in real time",
   "  config  Print the effective configuration",
   "  help    Print this message or the help of the given subcommand(s)",
   "",
   "Options:",
   "  -c, --config <CONFIG>  JSON stage configuration (defaults apply when omitted)",
   "  -h, --help             Print help"]

/-- What arguments amount to that make no request. -/
inductive NoRequest where
  /-- They ask for help, on one command or on all. -/
  | help (topic : Option Verb)
  | misuse
deriving DecidableEq

def NoRequest.reply (program : String) : NoRequest → Reply
  | .help (some verb) => { lines := verb.help program }
  | .help none => { lines := generalHelp program }
  | .misuse => { exit := 2 }

/-- A natural number in decimal, with a plus sign at most, that fits 64 bits. -/
def number? (text : String) : Option UInt64 :=
  let digits := match text.toList with
    | '+' :: rest => rest
    | chars => chars
  let value := digitsValue digits
  if digits ≠ [] ∧ digits.all Char.isDigit ∧ value < UInt64.size then some (UInt64.ofNat value) else none

/-- Splits an option with a value off the arguments: `--name value`, `--name=value`, `-n value`,
`-n=value` or `-nvalue`. A value in an argument of its own does not start with a dash. -/
def takeOption? (long : String) (letter : Char) : List String → Option (String × List String)
  | [] => none
  | argument :: rest =>
    let separate := match rest with
      | value :: rest => if value.startsWith "-" && value ≠ "-" then none else some (value, rest)
      | [] => none
    if argument = "--" ++ long then separate
    else match argument.toList with
      | ['-', c] => if c = letter then separate else none
      | '-' :: '-' :: chars =>
        let name := long.toList ++ ['=']
        if name.isPrefixOf chars then some (String.ofList (chars.drop name.length), rest) else none
      | '-' :: c :: '=' :: value => if c = letter then some (String.ofList value, rest) else none
      | '-' :: c :: value => if c = letter then some (String.ofList value, rest) else none
      | _ => none

/-- Whether an argument asks for help: the long option, or the letter with anything behind it. -/
def asksForHelp (argument : String) : Bool := argument = "--help" || argument.startsWith "-h"

/-- Parses the arguments behind a command: its option, once at most. -/
def parseVerb (verb : Verb) (arguments : List String) : Except NoRequest Request :=
  match arguments with
  | [] => .ok (verb.request none)
  | argument :: rest =>
    if asksForHelp argument then .error (.help (some verb))
    else
      match verb.option?.bind fun (long, letter) => takeOption? long letter (argument :: rest) with
      | none => .error .misuse
      | some (text, rest) =>
        match number? text, rest with
        | some value, [] => .ok (verb.request (some value))
        | some _, next :: _ =>
          if asksForHelp next then .error (.help (some verb)) else .error .misuse
        | none, _ => .error .misuse

def parseCommand (file : Option String) : List String → Except NoRequest Invocation
  | ["help"] => .error (.help none)
  | ["help", "help"] => .error (.help none)
  | ["help", name] =>
    match Verb.ofName? name with
    | some verb => .error (.help (some verb))
    | none => .error .misuse
  | name :: arguments =>
    match Verb.ofName? name with
    | some verb => (parseVerb verb arguments).map fun request => { file, request }
    | none => .error .misuse
  | [] => .error .misuse

/-- Parses the arguments of the program. The configuration file comes in front of the command. -/
def parse (arguments : List String) : Except NoRequest Invocation :=
  match arguments with
  | [] => .error .misuse
  | argument :: _ =>
    if asksForHelp argument then .error (.help none)
    else match takeOption? "config" 'c' arguments with
      | some (file, next :: rest) =>
        if asksForHelp next then .error (.help none)
        else parseCommand (some file) (next :: rest)
      | some (_, []) => .error .misuse
      | none => parseCommand none arguments

def snapshotLine (stage : Stage) : String := stage.snapshot.toJson.compact

/-- The default cast on its stage, about to play. -/
def openingStage (config : Config) : Except Fault Stage := do
  let stage ← (Stage.unchecked config).placeAll defaultCast
  return (← stage.play).stage

/-- The lines of a demonstration after the opening one, tick by tick while playback runs. -/
def demoLines (period : Duration) : Nat → Stage → List String → Reply
  | 0, _, printed => { lines := printed.reverse }
  | ticks + 1, stage, printed =>
    if stage.isRunning then
      match stage.advanceTime period with
      | .error _ => .broken printed.reverse
      | .ok moved => demoLines period ticks moved.stage (snapshotLine moved.stage :: printed)
    else { lines := printed.reverse }

def openingDrive (config : Config) (seconds : UInt64) : Except Fault Drive := do
  return { stage := ← openingStage config, limit := some (Duration.ofSeconds seconds) }

def closingLines (drive : Drive) : List String := drive.stage.snapshot.toJson.prettyLines

/-- The reply to a request, with time running as fast as it can. A drive with a limit is over after
the frames that fit the limit and the one that reaches it. -/
def respond (config : Config) : Request → Reply
  | .config => { lines := config.toJson.prettyLines }
  | .demo ticks =>
    match openingStage config with
    | .error _ => .broken []
    | .ok stage => demoLines config.tickPeriod ticks stage [snapshotLine stage]
  | .run seconds =>
    let frame := Drive.defaultFrame
    let budget := (Duration.ofSeconds seconds).nanos / frame.nanos + 2
    match openingDrive config seconds >>= Drive.run frame budget with
    | .error _ => .broken []
    | .ok (drive, _) => { lines := closingLines drive }

/-- The configuration of an invocation: the usual one without a file. -/
def Invocation.config (invocation : Invocation) (contents : Option ByteArray) :
    Except ConfigError Config :=
  match invocation.file with
  | none => .ok {}
  | some _ => Config.load contents

/-- The reply to the arguments of a program, given the contents of the files they may name. -/
def reply (program : String) (arguments : List String) (contents : String → Option ByteArray) : Reply :=
  match parse arguments with
  | .error noRequest => noRequest.reply program
  | .ok invocation =>
    match Invocation.config invocation (invocation.file.bind contents) with
    | .error _ => .failure
    | .ok config => respond config invocation.request

end CommandLine

end SpriteStage

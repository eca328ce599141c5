import StackScript.Console.Arguments
import StackScript.Console.Conversation
import StackScript.Console.Directory
import StackScript.Settings.Toml

set_option autoImplicit false

namespace StackScript.Console

def version : Text :=
  "comscript-console 0.1.0\n".toList

def help : Text :=
  ("Stack-based script runner\n\n" ++
    "Usage: comscript [OPTIONS] [SCRIPT]\n\n" ++
    "Arguments:\n" ++
    "  [SCRIPT]  Script file, `-` for stdin. Starts a REPL when neither this nor `--eval` is given\n" ++
    "\nOptions:\n" ++
    "  -e, --eval <EVAL>                Script text to run instead of a file\n" ++
    "  -c, --config <CONFIG>            Settings file (.toml)\n" ++
    "      --capacity <CAPACITY>        Data stack capacity\n" ++
    "      --max-nesting <MAX_NESTING>  How deep quotations may invoke quotations\n" ++
    "  -s, --print-stack                Print the data stack when the script ends\n" ++
    "  -h, --help                       Print help information\n" ++
    "  -V, --version                    Print version information\n").toList

abbrev Files := Text → Option Bytes

def settingsPaths (path : Text) : List Text :=
  path :: (withEnding? ".toml".toList path).toList

def loadSettings (files : Files) : Option Text → Except Ending Settings
  | none => .ok .default
  | some path =>
    let content := (settingsPaths path).findSome? files
    match (content.bind Text.ofBytes?).bind Toml.parse? with
    | none => .error (Obstacle.unreadableFile path).ending
    | some root =>
      if Settings.overreaches root then .error .crash
      else
        match Settings.ofToml? root with
        | none => .error (Obstacle.invalidSettings path).ending
        | some settings => .ok settings

def Arguments.override (arguments : Arguments) (settings : Settings) : Settings :=
  { stackCapacity := arguments.capacity.getD settings.stackCapacity
    maxNesting := arguments.maxNesting.getD settings.maxNesting }

def isInput (path : Text) : Bool :=
  (path.splitOn '/').reverse.dropWhile isHere == [['-']]

def loadScript (files : Files) (input : Bytes) (path : Text) : Except Obstacle Text :=
  if isInput path then
    match Text.ofBytes? input with
    | some script => .ok script
    | none => .error .unreadableInput
  else
    match (files path).bind Text.ofBytes? with
    | some script => .ok script
    | none => .error (.unreadableFile path)

inductive Task where
  | runScript (engine : Engine) (state : State) (script : Text) (printStack : Bool)
  | converse (engine : Engine) (state : State)
  | finish (ending : Ending)

namespace Task

def start (arguments : Arguments) (files : Files) (input : Bytes) (settings : Settings) : Task :=
  let engine : Engine := { dictionary := .standard, settings := arguments.override settings }
  match engine.start? .unlimited with
  | none => finish .crash
  | some state =>
    match arguments.eval, arguments.script with
    | some script, _ => runScript engine state script arguments.printStack
    | none, some path =>
      match loadScript files input path with
      | .ok script => runScript engine state script arguments.printStack
      | .error obstacle => finish obstacle.ending
    | none, none => converse engine state

def ofRequest (files : Files) (input : Bytes) : Request → Task
  | .showHelp => finish (.exit 0 help [])
  | .showVersion => finish (.exit 0 version [])
  | .run arguments =>
    match loadSettings files arguments.config with
    | .ok settings => start arguments files input settings
    | .error ending => finish ending

def ending (input : Bytes) : Task → Ending
  | runScript engine state script printStack =>
    let output (after : State) := after.output ++ if printStack then stackLine after else []
    match engine.run script state with
    | .done () after => .exit 0 (output after) []
    | .fault cause after => .exit cause.code (output after) [report cause]
    | .crash _ | .endless => .crash
  | converse engine state => Console.converse engine state (linesOf input)
  | finish ending => ending

end Task

def run (arguments : List Text) (files : Files) (input : Bytes) : Ending :=
  match Request.ofArguments? arguments with
  | none => .misuse
  | some request => (Task.ofRequest files input request).ending input

end StackScript.Console

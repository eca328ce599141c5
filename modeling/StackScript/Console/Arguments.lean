import StackScript.MachineWord

set_option autoImplicit false

namespace StackScript.Console

structure Arguments where
  script : Option Text := none
  eval : Option Text := none
  config : Option Text := none
  capacity : Option Nat := none
  maxNesting : Option Nat := none
  printStack : Bool := false
deriving DecidableEq, Repr

inductive Request where
  | run (arguments : Arguments)
  | showHelp
  | showVersion
deriving DecidableEq, Repr

inductive Parameter where
  | eval
  | config
  | capacity
  | maxNesting
deriving DecidableEq, Repr

inductive Flag where
  | printStack
  | help
  | version
deriving DecidableEq, Repr

def Parameter.ofName? (name : Text) : Option Parameter :=
  if name == "eval".toList then some eval
  else if name == "config".toList then some config
  else if name == "capacity".toList then some capacity
  else if name == "max-nesting".toList then some maxNesting
  else none

def Parameter.ofLetter? : Char → Option Parameter
  | 'e' => some eval
  | 'c' => some config
  | _ => none

def Flag.ofName? (name : Text) : Option Flag :=
  if name == "print-stack".toList then some printStack
  else if name == "help".toList then some help
  else if name == "version".toList then some version
  else none

def Flag.ofLetter? : Char → Option Flag
  | 's' => some printStack
  | 'h' => some help
  | 'V' => some version
  | _ => none

def path? (value : Text) : Option Text :=
  if value.isEmpty then none else some value

def once? {α : Type} (given : Option α) (value : Option α) : Option α :=
  if given.isSome then none else value

namespace Arguments

def give? (arguments : Arguments) (parameter : Parameter) (value : Text) : Option Arguments :=
  match parameter with
  | .eval => (once? arguments.eval (some value)).map fun eval =>
    { arguments with eval := some eval }
  | .config => (once? arguments.config (path? value)).map fun config =>
    { arguments with config := some config }
  | .capacity => (once? arguments.capacity (readMachineWord? value)).map fun capacity =>
    { arguments with capacity := some capacity }
  | .maxNesting => (once? arguments.maxNesting (readMachineWord? value)).map fun levels =>
    { arguments with maxNesting := some levels }

def giveScript? (arguments : Arguments) (path : Text) : Option Arguments :=
  (once? arguments.script (path? path)).map fun script => { arguments with script := some script }

def finish? (arguments : Arguments) : Option Request :=
  if arguments.eval.isSome && arguments.script.isSome then none else some (.run arguments)

end Arguments

inductive Progress where
  | go (arguments : Arguments)
  | await (arguments : Arguments) (parameter : Parameter)
  | stop (request : Request)

def raise? (arguments : Arguments) : Flag → Option Progress
  | .printStack =>
    if arguments.printStack then none else some (.go { arguments with printStack := true })
  | .help => some (.stop .showHelp)
  | .version => some (.stop .showVersion)

def long? (arguments : Arguments) (option : Text) : Option Progress :=
  let name := option.takeWhile (· != '=')
  match option.dropWhile (· != '=') with
  | [] =>
    match Flag.ofName? name with
    | some flag => raise? arguments flag
    | none => (Parameter.ofName? name).map (.await arguments)
  | _ :: value => do
    let parameter ← Parameter.ofName? name
    return .go (← arguments.give? parameter value)

def short? (arguments : Arguments) : Text → Option Progress
  | [] => some (.go arguments)
  | letter :: rest =>
    match Flag.ofLetter? letter with
    | some flag => do
      match ← raise? arguments flag with
      | .go arguments => short? arguments rest
      | progress => return progress
    | none => do
      let parameter ← Parameter.ofLetter? letter
      match rest with
      | [] => return .await arguments parameter
      | '=' :: value => return .go (← arguments.give? parameter value)
      | value => return .go (← arguments.give? parameter value)

def progress? (arguments : Arguments) : Text → Option Progress
  | '-' :: '-' :: option => long? arguments option
  | '-' :: letter :: rest => short? arguments (letter :: rest)
  | script => (arguments.giveScript? script).map .go

def isValue : Text → Bool
  | '-' :: _ :: _ => false
  | _ => true

def scripts? (arguments : Arguments) : List Text → Option Request
  | [] => arguments.finish?
  | path :: rest => do scripts? (← arguments.giveScript? path) rest

def readFrom? (arguments : Arguments) (awaited : Option Parameter) : List Text → Option Request
  | [] => if awaited.isSome then none else arguments.finish?
  | argument :: rest =>
    match awaited with
    | some parameter =>
      if isValue argument then do
        readFrom? (← arguments.give? parameter argument) none rest
      else none
    | none =>
      if argument == ['-', '-'] then scripts? arguments rest
      else do
        match ← progress? arguments argument with
        | .go arguments => readFrom? arguments none rest
        | .await arguments parameter => readFrom? arguments (some parameter) rest
        | .stop request => return request

def Request.ofArguments? (arguments : List Text) : Option Request :=
  readFrom? {} none arguments

end StackScript.Console

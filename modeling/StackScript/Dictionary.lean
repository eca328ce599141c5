import StackScript.Action
import StackScript.Text.Blank
import StackScript.Text.Quoted

set_option autoImplicit false

namespace StackScript

inductive Builtin where
  | add
  | subtract
  | multiply
  | divide
  | remainder
  | drop
  | duplicate
  | swap
  | copySecond
  | dropSecond
  | rotate
  | quote
  | call
  | print
  | halt
deriving DecidableEq, Repr

inductive Operation where
  | builtin (builtin : Builtin)
  | program (program : Program)

def Operation.body (instructions : List Instruction) : Operation :=
  .program (.ofInstructions 0 0 instructions)

structure Word extends Signature where
  operation : Operation

namespace Word

def growth (word : Word) : Nat :=
  word.outputs - word.inputs

def describe (word : Word) : String :=
  "Word \x7b name: " ++ String.ofList word.name.quoted ++ ", inputs: " ++
    String.ofList (decimal word.inputs) ++ ", outputs: " ++
    String.ofList (decimal word.outputs) ++ ", .. \x7d"

end Word

/-- Names must not be taken for numerals nor fall apart into several words. -/
def isWordName (name : Text) : Bool :=
  !name.isEmpty && !isNumeral name && !name.any isBlank

structure InvalidName where
  name : Text
deriving DecidableEq, Repr

def InvalidName.message (invalid : InvalidName) : String :=
  "Invalid word name: " ++ String.ofList invalid.name.quoted

structure Dictionary where
  words : List Word

namespace Dictionary

def empty : Dictionary := { words := [] }

def builtin (name : String) (inputs outputs : Nat) (meaning : Builtin) : Word :=
  { name := name.toList, inputs := inputs, outputs := outputs, operation := .builtin meaning }

def standard : Dictionary where
  words := [
    builtin "+" 2 1 .add,
    builtin "-" 2 1 .subtract,
    builtin "*" 2 1 .multiply,
    builtin "/" 2 1 .divide,
    builtin "mod" 2 1 .remainder,
    builtin "drop" 1 0 .drop,
    builtin "dup" 1 2 .duplicate,
    builtin "swap" 2 2 .swap,
    builtin "over" 2 3 .copySecond,
    builtin "nip" 2 1 .dropSecond,
    builtin "rot" 3 3 .rotate,
    builtin "[" 0 1 .quote,
    builtin "do" 1 0 .call,
    builtin "out" 1 0 .print,
    builtin "." 1 0 .print,
    builtin "bye" 0 0 .halt]

def register (dictionary : Dictionary) (word : Word) : Except InvalidName Dictionary :=
  if isWordName word.name then .ok { words := dictionary.words ++ [word] }
  else .error { name := word.name }

def registerAll (dictionary : Dictionary) : List Word → Dictionary × List (Except InvalidName Unit)
  | [] => (dictionary, [])
  | word :: rest =>
    match dictionary.register word with
    | .ok extended =>
      let (final, answers) := extended.registerAll rest
      (final, .ok () :: answers)
    | .error invalid =>
      let (final, answers) := dictionary.registerAll rest
      (final, .error invalid :: answers)

def find? (dictionary : Dictionary) (name : Text) : Option Word :=
  dictionary.words.find? fun word => word.name == name

theorem isWordName_standard : standard.words.all (fun word => isWordName word.name) = true := by
  decide

theorem find?_register {dictionary extended : Dictionary} {word found : Word} {name : Text}
    (registered : dictionary.register word = .ok extended)
    (known : dictionary.find? name = some found) : extended.find? name = some found := by
  unfold register at registered
  split at registered
  · cases registered
    simp_all [find?, List.find?_append]
  · cases registered

theorem registerAll_eq (dictionary : Dictionary) (words : List Word) :
    dictionary.registerAll words =
      ({ words := dictionary.words ++ words.filter fun word => isWordName word.name },
        words.map fun word =>
          if isWordName word.name then .ok () else .error { name := word.name }) := by
  induction words generalizing dictionary with
  | nil => simp [registerAll]
  | cons word rest ih =>
    cases valid : isWordName word.name <;> simp [registerAll, register, valid, ih]

theorem find?_registerAll {dictionary : Dictionary} {word : Word} {name : Text}
    (known : dictionary.find? name = some word) (words : List Word) :
    (dictionary.registerAll words).1.find? name = some word := by
  rw [registerAll_eq, find?, List.find?_append]
  rw [find?] at known
  rw [known]
  rfl

theorem isWordName_registerAll {dictionary : Dictionary} (words : List Word)
    (valid : dictionary.words.all (fun word => isWordName word.name) = true) :
    (dictionary.registerAll words).1.words.all (fun word => isWordName word.name) = true := by
  simp [registerAll_eq, valid]

end Dictionary

end StackScript

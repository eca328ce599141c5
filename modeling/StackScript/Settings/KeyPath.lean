import StackScript.Toml.Number

set_option autoImplicit false

namespace StackScript

inductive KeyStep where
  | field (name : Text)
  -- Negative indices count from the end.
  | item (index : Int)
deriving DecidableEq, Repr

structure KeyPath where
  name : Text
  steps : List KeyStep
deriving DecidableEq, Repr

-- How many items a list can have before its size in bytes is out of reach, at 96 bytes an item.
def itemLimit : Nat := (Nat.pow 2 63 - 1) / 96

-- A list that a path makes has no items before, so that there is no end to count from.
def KeyStep.overreaches : KeyStep → Bool
  | field _ => false
  | item index => index < 0 || (itemLimit : Int) ≤ index

namespace KeyPath

def isNameChar (char : Char) : Bool :=
  Toml.isBare char || char == ' '

def name? (text : Text) : Option (Text × Text) :=
  let name := text.takeWhile isNameChar
  if name.isEmpty then none else some (name, text.dropWhile isNameChar)

def index? (text : Text) : Option (Int × Text) := do
  let (negative, text) := Toml.minus (Toml.skipBlank text)
  let digits := text.takeWhile Char.isDigit
  let index := Toml.signed negative (digitsValue digits)
  guard (!digits.isEmpty && fitsSigned index)
  return (index, Toml.skipBlank (text.dropWhile Char.isDigit))

def step? : Text → Option (KeyStep × Text)
  | '.' :: rest => (name? rest).map fun (name, left) => (.field name, left)
  | '[' :: rest => do
    let (index, rest) ← index? rest
    return (.item index, ← Toml.symbol? ']' rest)
  | _ => none

def steps? : Nat → Text → Option (List KeyStep)
  | _, [] => some []
  | 0, _ => none
  | count + 1, text => do
    let (step, rest) ← step? text
    return step :: (← steps? count rest)

def parse? (key : Text) : Option KeyPath := do
  let (name, rest) ← name? key
  return { name := name, steps := ← steps? rest.length rest }

def ofKey (key : Text) : KeyPath :=
  (parse? key).getD { name := key, steps := [] }

def overreaches (path : KeyPath) : Bool :=
  path.steps.any KeyStep.overreaches

end KeyPath

end StackScript

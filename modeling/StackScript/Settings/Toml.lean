import StackScript.Settings
import StackScript.Settings.KeyPath
import StackScript.Toml.Document

set_option autoImplicit false

namespace StackScript.Settings

def wordOfText? (text : Text) : Option Nat :=
  let lower := text.map Char.toLower
  if ["true", "on", "yes"].any (·.toList == lower) then some 1
  else if ["false", "off", "no"].any (·.toList == lower) then some 0
  else readMachineWord? text

-- The nearest machine word, a half going away from zero.
def wordOfFloat (value : Float) : Nat :=
  value.round.toUInt64.toNat

def wordOfValue? : Toml.Value → Option Nat
  | .integer value => if 0 ≤ value then some value.toNat else none
  | .text value => wordOfText? value
  | .boolean value => some value.toNat
  | .float value => some (wordOfFloat value)
  | .moment _ | .array _ | .table _ _ => none

def tomlSetting? (root : List (Text × Toml.Node)) (name : String) (default : Nat) : Option Nat :=
  match root.filter fun field => (KeyPath.ofKey field.1).name == name.toList with
  | [] => some default
  | [(key, .value value)] => if key == name.toList then wordOfValue? value else none
  | _ => none

def overreaches (root : List (Text × Toml.Node)) : Bool :=
  root.any fun field => (KeyPath.ofKey field.1).overreaches

def ofToml? (root : List (Text × Toml.Node)) : Option Settings := do
  let capacity ← tomlSetting? root "stack_capacity" default.stackCapacity
  let nesting ← tomlSetting? root "max_nesting" default.maxNesting
  return { stackCapacity := capacity, maxNesting := nesting }

end StackScript.Settings

import StackScript.Json.Reader
import StackScript.MachineWord
import StackScript.Settings

set_option autoImplicit false

namespace StackScript

namespace Settings

def wordOfJson? : Json → Option Nat
  | .number literal => machineWord? literal
  | _ => none

def jsonSetting? (fields : List (Text × Json)) (name : String) (default : Nat) : Option Nat :=
  match fields.filter fun field => field.1 == name.toList with
  | [] => some default
  | [(_, value)] => wordOfJson? value
  | _ => none

def ofJson? : Json → Option Settings
  | .object fields => do
    let capacity ← jsonSetting? fields "stack_capacity" default.stackCapacity
    let nesting ← jsonSetting? fields "max_nesting" default.maxNesting
    return { stackCapacity := capacity, maxNesting := nesting }
  | .array [] => some default
  | .array [capacity] => do
    return { default with stackCapacity := ← wordOfJson? capacity }
  | .array [capacity, nesting] => do
    return { stackCapacity := ← wordOfJson? capacity, maxNesting := ← wordOfJson? nesting }
  | _ => none

def parseJson? (text : Text) : Option Settings :=
  (Json.parse? text).bind ofJson?

end Settings

end StackScript

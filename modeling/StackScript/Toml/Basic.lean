import StackScript.Text.Basic

set_option autoImplicit false

namespace StackScript.Toml

inductive Value where
  | text (value : Text)
  | integer (value : Int)
  | float (value : Float)
  | boolean (value : Bool)
  -- A date, a time of day or both.
  | moment (written : Text)
  | array (items : List Value)
  -- A table that dotted keys made can be added to by further dotted keys.
  | table (dotted : Bool) (fields : List (Text × Value))

abbrev Fields := List (Text × Value)

def Fields.insert? (value : Value) : List Text → Fields → Option Fields
  | [], _ => none
  | [key], fields => some (fields ++ [(key, value)])
  | key :: next :: rest, fields => do
    let isOther (field : Text × Value) : Bool := field.1 != key
    let (inner, after) ← match fields.dropWhile isOther with
      | [] => some ([], [])
      | (_, .table true inner) :: after => some (inner, after)
      | _ => none
    let inner ← Fields.insert? value (next :: rest) inner
    return fields.takeWhile isOther ++ (key, .table true inner) :: after

end StackScript.Toml

import StackScript.Text.Basic

set_option autoImplicit false

namespace StackScript

inductive Json where
  | null
  | bool (value : Bool)
  | number (literal : Text)
  -- There is no text when an escape stands for one half of a character alone.
  | string (text : Option Text)
  | array (items : List Json)
  | object (fields : List (Text × Json))

namespace Json

def fields : Json → List (Text × Json)
  | object fields => fields
  | _ => []

def items : Json → List Json
  | array items => items
  | _ => []

def field? (json : Json) (name : String) : Option Json :=
  (json.fields.reverse.find? fun field => field.1 == name.toList).map (·.2)

end Json

end StackScript

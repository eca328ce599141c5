import StackScript.Toml.Number

set_option autoImplicit false

namespace StackScript.Toml

def dateKey : Text :=
  "$__toml_private_datetime".toList

def dateField? : Fields → Option Value
  | (key, value) :: _ => if key == dateKey then some value else none
  | [] => none

def isDate : Value → Bool
  | .text written => isMoment written
  | _ => false

mutual

def Value.isSound : Value → Bool
  | .moment written => isMoment written
  | .array items => areSound items
  | .table _ fields =>
    match dateField? fields with
    | some date => isDate date
    | none => fieldsAreSound fields
  | .text _ | .integer _ | .float _ | .boolean _ => true

def areSound : List Value → Bool
  | [] => true
  | item :: rest => item.isSound && areSound rest

def fieldsAreSound : List (Text × Value) → Bool
  | [] => true
  | (key, value) :: rest =>
    !rest.any (·.1 == key) && value.isSound && fieldsAreSound rest

end

inductive Node where
  | value (value : Value)
  -- A table is defined once it had a header of its own.
  | table (defined : Bool) (fields : List (Text × Node))
  -- The tables of a list, the last one first.
  | tables (elements : List Node)

namespace Node

def replace (key : Text) (node : Node) (fields : List (Text × Node)) : List (Text × Node) :=
  fields.map fun field => if field.1 == key then (key, node) else field

-- The path through a list of tables leads to the last of them.
def changeLast? (change : Node → Option Node) : Node → Option Node
  | tables (last :: earlier) => (change last).map fun last => tables (last :: earlier)
  | node => change node

end Node

structure Section where
  path : List Text
  isElement : Bool
  fields : Fields

namespace Section

def nodes (part : Section) : List (Text × Node) :=
  part.fields.map fun (key, value) => (key, .value value)

def node? (part : Section) : Option Node :=
  match dateField? part.fields with
  | some date => if isDate date then some (.value date) else none
  | none => if fieldsAreSound part.fields then some (.table true part.nodes) else none

def define? (part : Section) (fields : List (Text × Node)) : Option Node :=
  if fields.isEmpty then part.node?
  else if fieldsAreSound part.fields &&
      !part.fields.any fun field => fields.any (·.1 == field.1) then
    some (.table true (fields ++ part.nodes))
  else none

def append? (part : Section) : Node → Option Node
  | .tables elements => part.node?.map fun node => .tables (node :: elements)
  | _ => none

def place? (part : Section) : List Text → Node → Option Node
  | [], .table false fields => part.define? fields
  | key :: rest, .table defined fields => do
    let isLast := rest.isEmpty && part.isElement
    match fields.lookup key with
    | none =>
      guard (!fields.isEmpty || key != dateKey)
      let node ← if isLast then part.append? (.tables []) else part.place? rest (.table false [])
      return .table defined (fields ++ [(key, node)])
    | some node =>
      let node ← if isLast then part.append? node else node.changeLast? (part.place? rest)
      return .table defined (Node.replace key node fields)
  | _, _ => none

end Section

-- The root table of a document, from its sections in order. The first has no header. A document
-- that is a date has no fields, whatever the sections after it hold.
def rootOf? : List Section → Option (List (Text × Node))
  | [] => some []
  | root :: parts => do
    match ← root.node? with
    | .value _ => return []
    | table =>
      match ← parts.foldlM (fun node part => part.place? part.path node) table with
      | .table _ fields => return fields
      | _ => none

end StackScript.Toml

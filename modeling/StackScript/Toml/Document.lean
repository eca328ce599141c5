import StackScript.Toml.Table

set_option autoImplicit false

namespace StackScript.Toml

def items? (value? : Text → Option (Value × Text)) : Nat → Text → Option (List Value × Text)
  | 0, _ => none
  | count + 1, text => do
    match ← skipLines? text.length text with
    | ']' :: rest => return ([], rest)
    | rest =>
      let (item, rest) ← value? rest
      match ← skipLines? rest.length rest with
      | ',' :: rest =>
        let (items, left) ← items? value? count rest
        return (item :: items, left)
      | ']' :: rest => return ([item], rest)
      | _ => none

def field? (value? : Text → Option (Value × Text)) (text : Text) :
    Option ((List Text × Value) × Text) := do
  let (path, rest) ← dottedKey? (text.length + 1) text
  let rest ← symbol? '=' rest
  let (value, left) ← value? (skipBlank rest)
  return ((path, value), left)

def inlineFields? (value? : Text → Option (Value × Text)) (fields : Fields) :
    Nat → Text → Option (Fields × Text)
  | 0, _ => none
  | count + 1, text => do
    let ((path, value), rest) ← field? value? text
    let fields ← fields.insert? value path
    match skipBlank rest with
    | '}' :: rest => return (fields, rest)
    | ',' :: rest => inlineFields? value? fields count (skipBlank rest)
    | _ => none

def value? : (depth : Nat) → Text → Option (Value × Text)
  | 0, _ => none
  | depth + 1, text =>
    match text with
    | [] => none
    | '[' :: rest =>
      (items? (value? depth) (rest.length + 1) rest).map fun (items, left) => (.array items, left)
    | '{' :: rest =>
      match skipBlank rest with
      | '}' :: rest => some (.table false [], rest)
      | rest =>
        (inlineFields? (value? depth) [] (rest.length + 1) rest).map fun (fields, left) =>
          (.table false fields, left)
    | '+' :: rest => do
      let (word, rest) ← bare? rest
      number? word rest
    | '\x22' :: _ | '\x27' :: _ =>
      (string? text).map fun ((value, _), left) => (.text value, left)
    | text => do
      let (word, rest) ← bare? text
      bareValue? word rest

inductive Line where
  | header (path : List Text) (isElement : Bool)
  | field (path : List Text) (value : Value)

def header? (text : Text) : Option (Line × Text) := do
  let (isElement, rest) := match text with
    | '[' :: rest => (true, rest)
    | rest => (false, rest)
  let (path, rest) ← dottedKey? (rest.length + 1) (skipBlank rest)
  let rest ← symbol? ']' rest
  let rest ← if isElement then symbol? ']' rest else some rest
  return (.header path isElement, ← lineEnd? rest)

def line? (text : Text) : Option (Line × Text) :=
  match text with
  | '[' :: rest => header? rest
  | text => do
    let ((path, value), rest) ← field? (value? (text.length + 1)) text
    return (.field path value, ← lineEnd? rest)

def lines? : Nat → Text → Option (List Line)
  | 0, _ => none
  | count + 1, text => do
    match ← skipLines? text.length text with
    | [] => return []
    | rest =>
      let (line, rest) ← line? rest
      return line :: (← lines? count rest)

def sections? (part : Section) : List Line → Option (List Section)
  | [] => some [part]
  | .header path isElement :: rest => do
    return part :: (← sections? { path := path, isElement := isElement, fields := [] } rest)
  | .field path value :: rest => do
    sections? { part with fields := ← part.fields.insert? value path } rest

def foldLineEnds : Text → Text
  | '\r' :: '\n' :: rest => '\n' :: foldLineEnds rest
  | char :: rest => char :: foldLineEnds rest
  | [] => []

def parse? (text : Text) : Option (List (Text × Node)) := do
  let text := foldLineEnds (match text with
    | '\uFEFF' :: rest => rest
    | text => text)
  let lines ← lines? (text.length + 1) text
  rootOf? (← sections? { path := [], isElement := false, fields := [] } lines)

end StackScript.Toml

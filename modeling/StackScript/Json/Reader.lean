import StackScript.Json.Basic
import StackScript.Text.Hexadecimal

set_option autoImplicit false

namespace StackScript.Json

def skipBlank (text : Text) : Text :=
  text.dropWhile fun char => char == ' ' || char == '\t' || char == '\n' || char == '\r'

def shortEscape? : Char → Option Char
  | '\x22' => some '\x22'
  | '\\' => some '\\'
  | '/' => some '/'
  | 'b' => some '\x08'
  | 'f' => some '\x0c'
  | 'n' => some '\n'
  | 'r' => some '\r'
  | 't' => some '\t'
  | _ => none

def codePoints? : Text → Option (List Nat × Text)
  | [] => none
  | '\x22' :: rest => some ([], rest)
  | '\\' :: 'u' :: a :: b :: c :: d :: rest => do
    let code ← hexNumber? [a, b, c, d]
    let (codes, left) ← codePoints? rest
    return (code :: codes, left)
  | '\\' :: escape :: rest => do
    let char ← shortEscape? escape
    let (codes, left) ← codePoints? rest
    return (char.toNat :: codes, left)
  | char :: rest => do
    guard (' ' ≤ char)
    let (codes, left) ← codePoints? rest
    return (char.toNat :: codes, left)

def isHighHalf (code : Nat) : Bool :=
  0xD800 ≤ code && code < 0xDC00

def isLowHalf (code : Nat) : Bool :=
  0xDC00 ≤ code && code < 0xE000

def joinHalves? : List Nat → Option Text
  | [] => some []
  | code :: rest =>
    if isHighHalf code then
      match rest with
      | low :: rest =>
        if isLowHalf low then
          (joinHalves? rest).map
            (Char.ofNat (0x10000 + (code - 0xD800) * 0x400 + (low - 0xDC00)) :: ·)
        else none
      | [] => none
    else if isLowHalf code then none
    else (joinHalves? rest).map (Char.ofNat code :: ·)

def digits? (text : Text) : Option (Text × Text) :=
  let digits := text.takeWhile Char.isDigit
  if digits.isEmpty then none else some (digits, text.dropWhile Char.isDigit)

def integer? : Text → Option (Text × Text)
  | '0' :: rest => some (['0'], rest)
  | text => digits? text

def fraction? : Text → Option (Text × Text)
  | '.' :: rest => (digits? rest).map fun (digits, left) => ('.' :: digits, left)
  | text => some ([], text)

def exponent? : Text → Option (Text × Text)
  | mark :: rest =>
    if mark == 'e' || mark == 'E' then
      match rest with
      | '+' :: rest => (digits? rest).map fun (digits, left) => (mark :: '+' :: digits, left)
      | '-' :: rest => (digits? rest).map fun (digits, left) => (mark :: '-' :: digits, left)
      | rest => (digits? rest).map fun (digits, left) => (mark :: digits, left)
    else some ([], mark :: rest)
  | [] => some ([], [])

def unsigned? (text : Text) : Option (Text × Text) := do
  let (whole, rest) ← integer? text
  let (fraction, rest) ← fraction? rest
  let (exponent, rest) ← exponent? rest
  return (whole ++ fraction ++ exponent, rest)

def number? : Text → Option (Text × Text)
  | '-' :: rest => (unsigned? rest).map fun (literal, left) => ('-' :: literal, left)
  | text => unsigned? text

def list? {α : Type} (item? : Text → Option (α × Text)) (close : Char) :
    Nat → Text → Option (List α × Text)
  | 0, _ => none
  | count + 1, text => do
    let (item, rest) ← item? (skipBlank text)
    match skipBlank rest with
    | ',' :: rest =>
      let (items, left) ← list? item? close count rest
      return (item :: items, left)
    | char :: rest => if char == close then some ([item], rest) else none
    | [] => none

def listOrEmpty? {α : Type} (item? : Text → Option (α × Text)) (close : Char) (text : Text) :
    Option (List α × Text) :=
  match skipBlank text with
  | char :: rest => if char == close then some ([], rest) else list? item? close text.length text
  | [] => none

def fieldOf? (value? : Text → Option (Json × Text)) : Text → Option ((Text × Json) × Text)
  | '\x22' :: rest => do
    let (codes, rest) ← codePoints? rest
    let name ← joinHalves? codes
    match skipBlank rest with
    | ':' :: rest =>
      let (value, left) ← value? (skipBlank rest)
      return ((name, value), left)
    | _ => none
  | _ => none

def value? : (depth : Nat) → Text → Option (Json × Text)
  | 0, _ => none
  | depth + 1, text =>
    match text with
    | 'n' :: 'u' :: 'l' :: 'l' :: rest => some (null, rest)
    | 't' :: 'r' :: 'u' :: 'e' :: rest => some (bool true, rest)
    | 'f' :: 'a' :: 'l' :: 's' :: 'e' :: rest => some (bool false, rest)
    | '\x22' :: rest =>
      (codePoints? rest).map fun (codes, left) => (string (joinHalves? codes), left)
    | '[' :: rest =>
      (listOrEmpty? (value? depth) ']' rest).map fun (items, left) => (array items, left)
    | '{' :: rest =>
      (listOrEmpty? (fieldOf? (value? depth)) '}' rest).map fun (fields, left) =>
        (object fields, left)
    | text => (number? text).map fun (literal, left) => (number literal, left)

def parse? (text : Text) : Option Json := do
  let (value, rest) ← value? (text.length + 1) (skipBlank text)
  if (skipBlank rest).isEmpty then some value else none

end StackScript.Json

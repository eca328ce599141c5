import StackScript.Text.Hexadecimal
import StackScript.Toml.Basic

set_option autoImplicit false

namespace StackScript.Toml

def skipBlank (text : Text) : Text :=
  text.dropWhile fun char => char == ' ' || char == '\t'

def lineEnd? (text : Text) : Option Text :=
  let rest := match skipBlank text with
    | '#' :: rest => rest.dropWhile fun char => char == '\t' || ' ' ≤ char
    | rest => rest
  match rest with
  | [] => some []
  | '\n' :: rest => some rest
  | _ => none

def skipLines? : Nat → Text → Option Text
  | 0, text => some text
  | count + 1, text =>
    match skipBlank text with
    | '\n' :: rest => skipLines? count rest
    | '#' :: rest => (lineEnd? ('#' :: rest)).bind (skipLines? count)
    | rest => some rest

def isBare (char : Char) : Bool :=
  char.isAlphanum || char == '-' || char == '_'

def bare? (text : Text) : Option (Text × Text) :=
  let word := text.takeWhile isBare
  if word.isEmpty then none else some (word, text.dropWhile isBare)

def isStringChar (char : Char) : Bool :=
  char == '\t' || (' ' ≤ char && char != '\x7f')

def codeEscape? (count : Nat) (text : Text) : Option (Text × Text) := do
  let digits := text.take count
  guard (digits.length == count)
  let char ← charOf? (← hexNumber? digits)
  return ([char], text.drop count)

def lineJoin? (text : Text) : Option (Text × Text) :=
  match skipBlank text with
  | [] => some ([], [])
  | '\n' :: rest =>
    some ([], rest.dropWhile fun char => char == ' ' || char == '\t' || char == '\n')
  | _ => none

def escape? (multiline : Bool) : Text → Option (Text × Text)
  | '\x22' :: rest => some (['\x22'], rest)
  | '\\' :: rest => some (['\\'], rest)
  | 'b' :: rest => some (['\x08'], rest)
  | 'f' :: rest => some (['\x0c'], rest)
  | 'n' :: rest => some (['\n'], rest)
  | 'r' :: rest => some (['\r'], rest)
  | 't' :: rest => some (['\t'], rest)
  | 'u' :: rest => codeEscape? 4 rest
  | 'U' :: rest => codeEscape? 8 rest
  | [] => none
  | text => if multiline then lineJoin? text else none

-- A string up to and with its closing quotes. In a long string up to two quotes can stand right
-- before the three that close it.
def stringBody? (quote : Char) (multiline : Bool) : Nat → Text → Option (Text × Text)
  | 0, _ => none
  | count + 1, text => do
    let more (front : Text) (rest : Text) : Option (Text × Text) := do
      let (body, left) ← stringBody? quote multiline count rest
      return (front ++ body, left)
    match text with
    | [] => none
    | char :: rest =>
      if char == quote then
        if multiline then
          let quotes := (text.takeWhile (· == quote)).length
          if quotes < 3 then more [char] rest
          else
            let inner := min (quotes - 3) 2
            return (List.replicate inner quote, text.drop (3 + inner))
        else return ([], rest)
      else if char == '\\' && quote == '\x22' then
        let (front, rest) ← escape? multiline rest
        more front rest
      else if isStringChar char || (multiline && char == '\n') then more [char] rest
      else none

def string? : Text → Option ((Text × Bool) × Text)
  | [] => none
  | quote :: rest => do
    guard (quote == '\x22' || quote == '\x27')
    if rest.take 2 == [quote, quote] then
      let rest := match rest.drop 2 with
        | '\n' :: rest => rest
        | rest => rest
      let (body, left) ← stringBody? quote true (rest.length + 1) rest
      return ((body, true), left)
    else
      let (body, left) ← stringBody? quote false (rest.length + 1) rest
      return ((body, false), left)

def key? (text : Text) : Option (Text × Text) :=
  match bare? text with
  | some found => some found
  | none =>
    match string? text with
    | some ((key, false), rest) => some (key, rest)
    | _ => none

def dottedKey? : Nat → Text → Option (List Text × Text)
  | 0, _ => none
  | count + 1, text => do
    let (key, rest) ← key? text
    match skipBlank rest with
    | '.' :: rest =>
      let (keys, left) ← dottedKey? count (skipBlank rest)
      return (key :: keys, left)
    | rest => return ([key], rest)

end StackScript.Toml

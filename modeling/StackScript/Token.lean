import StackScript.Span
import StackScript.Text.Blank

set_option autoImplicit false

namespace StackScript

structure Token where
  span : Span
  name : Text
deriving DecidableEq, Repr

namespace Token

def scan (start : Nat) (rest : Text) : Token :=
  let name := (rest.dropWhile isBlank).takeWhile fun char => !isBlank char
  { span := { start := start + Text.size (rest.takeWhile isBlank), length := Text.size name }
    name := name }

def isEmpty (token : Token) : Bool :=
  token.name.isEmpty

def next? (text : Text) (cursor : Nat) : Option Token :=
  let start := min cursor text.size
  (text.dropBytes? start).map (scan start)

def takeWords? (text : Text) : Nat → Nat → Option (List Token)
  | 0, _ => some []
  | count + 1, cursor =>
    match next? text cursor with
    | none => none
    | some token =>
      if token.isEmpty then some []
      else (takeWords? text count token.span.stop).map (token :: ·)

def wordsFrom? (text : Text) (cursor : Nat) : Option (List Token) :=
  takeWords? text text.length cursor

end Token

structure Words where
  text : Text
  cursor : Nat
deriving DecidableEq, Repr

/-- The next word, if there is one, and the words behind it. There is no answer where a word would
start inside a character. -/
def Words.next? (words : Words) : Option (Option Token × Words) :=
  (Token.next? words.text words.cursor).map fun token =>
    if token.isEmpty then (none, { words with cursor := words.text.size })
    else (some token, { words with cursor := token.span.stop })

end StackScript

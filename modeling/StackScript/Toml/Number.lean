import StackScript.MachineWord
import StackScript.Toml.Lexeme

set_option autoImplicit false

namespace StackScript.Toml

def isDigitOf (radix : Nat) (char : Char) : Bool :=
  match hexValue? char with
  | some value => value < radix
  | none => false

def isGrouped : (afterDigit : Bool) → Text → Bool
  | afterDigit, [] => afterDigit
  | afterDigit, '_' :: rest => afterDigit && isGrouped false rest
  | _, _ :: rest => isGrouped true rest

def digits? (radix : Nat) (leadingZeros : Bool) (text : Text) : Option (Text × Text) := do
  let isPart (char : Char) : Bool := isDigitOf radix char || char == '_'
  let part := text.takeWhile isPart
  let digits := part.filter (· != '_')
  guard (isGrouped false part)
  guard (leadingZeros || digits.length == 1 || digits.head? != some '0')
  return (digits, text.dropWhile isPart)

def minus : Text → Bool × Text
  | '-' :: rest => (true, rest)
  | text => (false, text)

def signed (negative : Bool) (magnitude : Nat) : Int :=
  if negative then -(magnitude : Int) else magnitude

def integer? (radix : Nat) (negative : Bool) (text : Text) : Option Value := do
  let (digits, rest) ← digits? radix (radix != 10) text
  guard rest.isEmpty
  let magnitude ← digits.foldlM
    (fun value digit => (hexValue? digit).map (value * radix + ·)) 0
  let value := signed negative magnitude
  guard (fitsSigned value)
  return .integer value

-- The nearest float to `mantissa * 10 ^ exponent`, if it is finite. Exponents that are out of reach
-- for all mantissas of that many digits are not computed with.
def scientific? (negative : Bool) (digits : Text) (exponent : Int) : Option Float := do
  let mantissa := digitsValue digits
  let size := (digits.dropWhile (· == '0')).length + exponent
  let magnitude : Float :=
    if mantissa = 0 ∨ size < -400 then 0.0
    else if 400 < size then 1.0 / 0.0
    else if exponent < 0 then Float.ofScientific mantissa true exponent.natAbs
    else Float.ofScientific mantissa false exponent.natAbs
  guard magnitude.isFinite
  return if negative then -magnitude else magnitude

def exponent? (text rest : Text) : Option (Int × Text) := do
  match text, rest with
  | [], '+' :: rest =>
    let (word, rest) ← bare? rest
    let (digits, left) ← digits? 10 true word
    guard left.isEmpty
    return (digitsValue digits, rest)
  | text, rest =>
    let (negative, text) := minus text
    let (digits, left) ← digits? 10 true text
    guard left.isEmpty
    return (signed negative (digitsValue digits), rest)

def floatOf? (negative : Bool) (whole fraction : Text) (left rest : Text) :
    Option (Value × Text) := do
  let (exponent, rest) ← match left with
    | [] => some (0, rest)
    | mark :: left => if mark == 'e' || mark == 'E' then exponent? left rest else none
  let value ← scientific? negative (whole ++ fraction) (exponent - fraction.length)
  return (.float value, rest)

def float? (word rest : Text) : Option (Value × Text) := do
  let (negative, digits) := minus word
  let (whole, left) ← digits? 10 false digits
  floatOf? negative whole [] left rest

def fractional? (word rest : Text) : Option (Value × Text) := do
  let (negative, digits) := minus word
  let (whole, left) ← digits? 10 false digits
  guard left.isEmpty
  let (word, rest) ← bare? rest
  let (fraction, left) ← digits? 10 true word
  floatOf? negative whole fraction left rest

def number? (word rest : Text) : Option (Value × Text) :=
  match word with
  | '0' :: 'x' :: digits => (integer? 16 false digits).map (·, rest)
  | '0' :: 'o' :: digits => (integer? 8 false digits).map (·, rest)
  | '0' :: 'b' :: digits => (integer? 2 false digits).map (·, rest)
  | word =>
    if word.contains 'e' || word.contains 'E' then float? word rest
    else
      match rest with
      | '.' :: rest => fractional? word rest
      | rest =>
        let (negative, digits) := minus word
        if digits == ['i', 'n', 'f'] then
          some (.float (if negative then -1.0 / 0.0 else 1.0 / 0.0), rest)
        else if digits == ['n', 'a', 'n'] then some (.float (0.0 / 0.0), rest)
        else (integer? 10 negative digits).map (·, rest)

def twoDigits? (least most : Nat) : Text → Option Text
  | tens :: ones :: rest =>
    if [tens, ones].all Char.isDigit && least ≤ digitsValue [tens, ones] &&
        digitsValue [tens, ones] ≤ most then some rest
    else none
  | _ => none

def symbol? (symbol : Char) : Text → Option Text
  | char :: rest => if char == symbol then some rest else none
  | [] => none

def date? (text : Text) : Option Text := do
  let rest ← symbol? '-' (← twoDigits? 0 99 (← twoDigits? 0 99 text))
  let rest ← symbol? '-' (← twoDigits? 1 12 rest)
  twoDigits? 1 31 rest

def time? (text : Text) : Option Text := do
  let rest ← symbol? ':' (← twoDigits? 0 24 text)
  let rest ← symbol? ':' (← twoDigits? 0 59 rest)
  match ← twoDigits? 0 59 rest with
  | '.' :: rest =>
    guard ((rest.head?.map Char.isDigit) == some true)
    return rest.dropWhile Char.isDigit
  | rest => return rest

def isOffset : Text → Bool
  | [] | ['Z'] | ['z'] => true
  | sign :: rest =>
    let hours := do
      let rest ← symbol? ':' (← twoDigits? 0 99 rest)
      twoDigits? 0 99 rest
    (sign == '+' || sign == '-') && hours == some []

def isMoment (text : Text) : Bool :=
  if text[2]? == some ':' then time? text == some []
  else
    match date? text with
    | none => false
    | some [] => true
    | some (mark :: rest) =>
      (mark == 'T' || mark == 't' || mark == ' ') && ((time? rest).map isOffset).getD false

def suffix? (symbol : Char) : Text → Option (Text × Text)
  | char :: rest =>
    if char == symbol then (bare? rest).map fun (word, left) => (char :: word, left)
    else some ([], char :: rest)
  | [] => some ([], [])

def clock? (text : Text) : Option (Text × Text) := do
  let (minutes, rest) ← bare? text
  let rest ← symbol? ':' rest
  let (seconds, rest) ← bare? rest
  let (fraction, rest) ← suffix? '.' rest
  let (offset, rest) ← suffix? '+' rest
  let (minute, rest) ← suffix? ':' rest
  return (minutes ++ ':' :: seconds ++ fraction ++ offset ++ minute, rest)

def dated? (word rest : Text) : Option (Value × Text) := do
  let (hour, rest) := match rest with
    | ' ' :: after => ((bare? after).map fun (hour, left) => (' ' :: hour, left)).getD ([], rest)
    | rest => ([], rest)
  match rest with
  | ':' :: rest =>
    let (clock, rest) ← clock? rest
    return (.moment (word ++ hour ++ ':' :: clock), rest)
  | rest => return (.moment (word ++ hour), rest)

def hasPair (first second : Char) (text : Text) : Bool :=
  (text.zip (text.drop 1)).contains (first, second)

def looksDated (word : Text) : Bool :=
  word.contains 'T' || word.contains 't' ||
    ((word.drop 1).contains '-' && !hasPair 'e' '-' word && !hasPair 'E' '-' word)

def bareValue? (word rest : Text) : Option (Value × Text) :=
  if word == "true".toList then some (.boolean true, rest)
  else if word == "false".toList then some (.boolean false, rest)
  else if word == "inf".toList || word == "nan".toList then number? word rest
  else if !((word.head?.map fun char => char == '-' || char.isDigit).getD false) then none
  else if looksDated word then dated? word rest
  else
    match rest with
    | ':' :: rest => do
      let (clock, rest) ← clock? rest
      return (.moment (word ++ ':' :: clock), rest)
    | rest => number? word rest

end StackScript.Toml

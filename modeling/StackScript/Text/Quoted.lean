import StackScript.Text.Printable

set_option autoImplicit false

namespace StackScript

def codeEscape (char : Char) : Text :=
  ['\\', 'u', '{'] ++ Nat.toDigits 16 char.toNat ++ ['}']

def escaped (char : Char) : Text :=
  match char with
  | '\x22' => ['\\', '\x22']
  | '\\' => ['\\', '\\']
  | '\n' => ['\\', 'n']
  | '\r' => ['\\', 'r']
  | '\t' => ['\\', 't']
  | '\x00' => ['\\', '0']
  | other => if isHidden other then codeEscape other else [other]

namespace Text

def quoted (text : Text) : Text :=
  '\x22' :: text.flatMap escaped ++ ['\x22']

end Text

end StackScript

import StackScript.Text.Basic

set_option autoImplicit false

namespace StackScript

def decimal : Int → Text
  | .ofNat value => Nat.toDigits 10 value
  | .negSucc value => '-' :: Nat.toDigits 10 (value + 1)

def listing (cells : List Int32) : Text :=
  '[' :: ((cells.map fun cell => decimal cell.toInt).intersperse [',', ' ']).flatten ++ [']']

def digitValue (digit : Char) : Nat :=
  digit.toNat - '0'.toNat

-- A word that starts with a digit stands for a number, whatever follows.
def isNumeral (word : Text) : Bool :=
  word.head?.any Char.isDigit

def numeralValue (word : Text) : Int32 :=
  (word.takeWhile Char.isDigit).foldl
    (fun value digit => value * 10 + Int32.ofNat (digitValue digit)) 0

end StackScript

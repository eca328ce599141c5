import StackScript.Text.Decimal

set_option autoImplicit false

namespace StackScript

def wordLimit : Nat := Nat.pow 2 64

def fitsSigned (value : Int) : Bool :=
  -Int.pow 2 63 ≤ value && value < Int.pow 2 63

def digitsValue (digits : Text) : Nat :=
  Nat.ofDigitChars 10 digits 0

def machineWord? (digits : Text) : Option Nat :=
  if !digits.isEmpty && digits.all Char.isDigit && digitsValue digits < wordLimit then
    some (digitsValue digits)
  else none

def readMachineWord? : Text → Option Nat
  | '+' :: digits => machineWord? digits
  | digits => machineWord? digits

end StackScript

import StackScript.Text.Decimal

set_option autoImplicit false

namespace StackScript

def hexValue? (digit : Char) : Option Nat :=
  if digit.isDigit then some (digitValue digit)
  else if 'a' ≤ digit ∧ digit ≤ 'f' then some (digit.toNat - 'a'.toNat + 10)
  else if 'A' ≤ digit ∧ digit ≤ 'F' then some (digit.toNat - 'A'.toNat + 10)
  else none

def hexNumber? (digits : Text) : Option Nat :=
  digits.foldl (fun value digit => do return (← value) * 16 + (← hexValue? digit)) (some 0)

def charOf? (code : Nat) : Option Char :=
  if valid : code.isValidChar then some (Char.ofNatAux code valid) else none

end StackScript

import StackScript.Text.Decimal

set_option autoImplicit false

namespace StackScript

inductive Fault where
  | stackUnderflow
  | stackOverflow
  | unknownWord (name : Text)
  | unterminatedQuotation
  | divisionByZero
  | nestingTooDeep (limit : Nat)
  | outputFailed
deriving DecidableEq, Repr

inductive Status where
  | success
  | stackUnderflow
  | stackOverflow
  | unknownWord
  | unterminatedQuotation
  | divisionByZero
  | nestingTooDeep
  | outputFailed
deriving DecidableEq, Repr

namespace Status

-- Codes 0 to 3 are fixed for hosts, the others come after them.
def code : Status → Nat
  | success => 0
  | stackUnderflow => 1
  | stackOverflow => 2
  | unknownWord => 3
  | unterminatedQuotation => 4
  | divisionByZero => 5
  | nestingTooDeep => 6
  | outputFailed => 7

def message : Status → String
  | success => "success"
  | stackUnderflow => "stack underflow"
  | stackOverflow => "stack overflow"
  | unknownWord => "unknown word name"
  | unterminatedQuotation => "unterminated quotation"
  | divisionByZero => "division by zero"
  | nestingTooDeep => "quotations nested too deep"
  | outputFailed => "output failed"

def label : Status → String
  | success => "Success"
  | stackUnderflow => "StackUnderflow"
  | stackOverflow => "StackOverflow"
  | unknownWord => "UnknownWord"
  | unterminatedQuotation => "UnterminatedQuotation"
  | divisionByZero => "DivisionByZero"
  | nestingTooDeep => "NestingTooDeep"
  | outputFailed => "Output"

end Status

namespace Fault

def status : Fault → Status
  | stackUnderflow => .stackUnderflow
  | stackOverflow => .stackOverflow
  | unknownWord _ => .unknownWord
  | unterminatedQuotation => .unterminatedQuotation
  | divisionByZero => .divisionByZero
  | nestingTooDeep _ => .nestingTooDeep
  | outputFailed => .outputFailed

def code (fault : Fault) : Nat :=
  fault.status.code

def message : Fault → String
  | stackUnderflow => "Stack underflow"
  | stackOverflow => "Stack overflow"
  | unknownWord name => "Unknown word: " ++ String.ofList name
  | unterminatedQuotation => "Unterminated quotation: missing `]`"
  | divisionByZero => "Division by zero"
  | nestingTooDeep limit =>
    "Quotations nested deeper than " ++ String.ofList (decimal limit) ++ " levels"
  | outputFailed => "Output failed"

end Fault

def Status.of : Except Fault Unit → Status
  | .ok () => success
  | .error fault => fault.status

theorem Status.of_code_eq_zero_iff (result : Except Fault Unit) :
    (Status.of result).code = 0 ↔ result = .ok () := by
  rcases result with fault | ⟨⟩
  · cases fault <;> simp [Status.of, Fault.status, Status.code]
  · simp [Status.of, Status.code]

end StackScript

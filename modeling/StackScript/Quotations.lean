import StackScript.Span

set_option autoImplicit false

namespace StackScript

structure Quotations where
  bodies : Array Span
deriving DecidableEq, Repr

namespace Quotations

def empty : Quotations := { bodies := #[] }

def size (quotations : Quotations) : Nat :=
  quotations.bodies.size

def isEmpty (quotations : Quotations) : Bool :=
  quotations.bodies.isEmpty

def capture (quotations : Quotations) (body : Span) : Int32 × Quotations :=
  (Int32.ofNat quotations.size, { bodies := quotations.bodies.push body })

def get? (quotations : Quotations) (handle : Int32) : Option Span :=
  if handle < 0 then none else quotations.bodies[handle.toInt.toNat]?

end Quotations

end StackScript

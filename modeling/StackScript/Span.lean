import StackScript.MachineWord

set_option autoImplicit false

namespace StackScript

structure Span where
  start : Nat
  length : Nat
deriving DecidableEq, Repr

namespace Span

def stop (span : Span) : Nat :=
  span.start + span.length

def isEmpty (span : Span) : Bool :=
  span.length == 0

def fits (span : Span) : Bool :=
  span.stop < wordLimit

theorem fits_iff {span : Span} : span.fits = true ↔ span.start + span.length < wordLimit :=
  decide_eq_true_iff

def cut? (span : Span) (text : Text) : Option Text :=
  if span.fits then text.slice? span.start span.stop else none

end Span

end StackScript

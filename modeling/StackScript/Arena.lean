import StackScript.Token

set_option autoImplicit false

namespace StackScript

structure Arena where
  text : Text
deriving DecidableEq, Repr

namespace Arena

def empty : Arena := { text := [] }

def size (arena : Arena) : Nat :=
  arena.text.size

def separator (arena : Arena) : Text :=
  if arena.text.isEmpty then [] else ['\n']

def append (arena : Arena) (script : Text) : Span × Arena :=
  ({ start := arena.size + arena.separator.size, length := script.size },
    { text := arena.text ++ arena.separator ++ script })

def slice? (arena : Arena) (span : Span) : Option Text :=
  span.cut? arena.text

theorem slice?_eq_some_iff {arena : Arena} {span : Span} {inner : Text} :
    arena.slice? span = some inner ↔
      span.fits = true ∧ arena.text.slice? span.start span.stop = some inner := by
  rw [slice?, Span.cut?]
  split <;> simp_all

end Arena

end StackScript

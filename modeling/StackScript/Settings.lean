import StackScript.Text.Decimal

set_option autoImplicit false

namespace StackScript

structure Settings where
  stackCapacity : Nat := 100
  maxNesting : Nat := 64
deriving DecidableEq, Repr

namespace Settings

def default : Settings := {}

def describe (settings : Settings) : String :=
  "Config \x7b stack_capacity: " ++ String.ofList (decimal settings.stackCapacity) ++
    ", max_nesting: " ++ String.ofList (decimal settings.maxNesting) ++ " \x7d"

end Settings

end StackScript

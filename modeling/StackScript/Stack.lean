import StackScript.Fault

set_option autoImplicit false

namespace StackScript

-- The cells are stored with the top first.
structure Stack where
  cells : List Int32
  capacity : Nat
deriving DecidableEq, Repr

namespace Stack

-- A capacity from here on asks for more memory than there can be.
def capacityLimit : Nat := Nat.pow 2 61

def empty? (capacity : Nat) : Option Stack :=
  if capacity < capacityLimit then some { cells := [], capacity := capacity } else none

def depth (stack : Stack) : Nat :=
  stack.cells.length

def room (stack : Stack) : Nat :=
  stack.capacity - stack.depth

def toList (stack : Stack) : List Int32 :=
  stack.cells.reverse

def push (stack : Stack) (cell : Int32) : Except Fault Stack :=
  if stack.depth < stack.capacity then .ok { stack with cells := cell :: stack.cells }
  else .error .stackOverflow

def pop (stack : Stack) : Except Fault (Int32 × Stack) :=
  match stack.cells with
  | [] => .error .stackUnderflow
  | top :: rest => .ok (top, { stack with cells := rest })

def peek (stack : Stack) (below : Nat) : Except Fault Int32 :=
  match stack.cells[below]? with
  | some cell => .ok cell
  | none => .error .stackUnderflow

def clear (stack : Stack) : Stack :=
  { stack with cells := [] }

def describe (stack : Stack) : String :=
  "Stack \x7b cells: " ++ String.ofList (listing stack.toList) ++ ", capacity: " ++
    String.ofList (decimal stack.capacity) ++ " \x7d"

theorem toList_push {stack after : Stack} {cell : Int32} (pushed : stack.push cell = .ok after) :
    after.toList = stack.toList ++ [cell] := by
  unfold push at pushed
  split at pushed
  · cases pushed
    simp [toList]
  · cases pushed

theorem toList_pop {stack after : Stack} {cell : Int32} (popped : stack.pop = .ok (cell, after)) :
    stack.toList = after.toList ++ [cell] := by
  unfold pop at popped
  split at popped
  · cases popped
  · next nonempty =>
    cases popped
    simp [toList, nonempty]

end Stack

end StackScript

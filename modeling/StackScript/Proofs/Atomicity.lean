import Mathlib.Data.List.Basic
import StackScript.Proofs.StackBounds

set_option autoImplicit false

namespace StackScript

open Step

def Dictionary.ordinary : List Text :=
  ["+", "-", "*", "/", "mod", "drop", "dup", "swap", "over", "nip", "rot", "[", "out", ".",
    "bye"].map String.toList

/-- `Effect name taken left before after`: the built-in word of the name takes these cells, leaves
those in their place, and changes the rest of the state like that. The last cell is the top. -/
inductive Dictionary.Effect : (name : Text) → (taken left : List Int32) → State → State → Prop where
  | add (left right : Int32) (state : State) :
      Effect "+".toList [left, right] [.ofInt (left.toInt + right.toInt)] state state
  | subtract (left right : Int32) (state : State) :
      Effect "-".toList [left, right] [.ofInt (left.toInt - right.toInt)] state state
  | multiply (left right : Int32) (state : State) :
      Effect "*".toList [left, right] [.ofInt (left.toInt * right.toInt)] state state
  | divide (left : Int32) {right : Int32} (nonzero : right ≠ 0) (state : State) :
      Effect "/".toList [left, right] [.ofInt (left.toInt.tdiv right.toInt)] state state
  | remainder (left : Int32) {right : Int32} (nonzero : right ≠ 0) (state : State) :
      Effect "mod".toList [left, right] [.ofInt (left.toInt.tmod right.toInt)] state state
  | drop (top : Int32) (state : State) : Effect "drop".toList [top] [] state state
  | duplicate (top : Int32) (state : State) : Effect "dup".toList [top] [top, top] state state
  | swap (second top : Int32) (state : State) :
      Effect "swap".toList [second, top] [top, second] state state
  | copySecond (second top : Int32) (state : State) :
      Effect "over".toList [second, top] [second, top, second] state state
  | dropSecond (second top : Int32) (state : State) :
      Effect "nip".toList [second, top] [top] state state
  | rotate (third second top : Int32) (state : State) :
      Effect "rot".toList [third, second, top] [second, top, third] state state
  | quote {body rest : Text} {state : State} (closed : ']' ∉ body)
      (left : state.frameRest? = some (body ++ ']' :: rest)) :
      Effect "[".toList [] [Int32.ofNat state.quotations.size] state
        { state with
          frame := { state.frame with cursor := state.frame.cursor + body.size + 1 }
          quotations :=
            { bodies := state.quotations.bodies.push ⟨state.frame.cursor, body.size⟩ } }
  | print {name : Text} (prints : name = "out".toList ∨ name = ".".toList) {cell : Int32}
      {state : State} {sink : Sink}
      (written : state.sink.write (decimal cell.toInt ++ ['\n']).toBytes = (.ok (), sink)) :
      Effect name [cell] [] state { state with sink := sink }
  | halt (state : State) : Effect "bye".toList [] [] state { state with halted := true }

def Word.Succeeds (word : Word) (before after : State) : Prop :=
  ∃ deeper taken left other, Dictionary.Effect word.name taken left before other ∧
    before.stack.toList = deeper ++ taken ∧ taken.length = word.inputs ∧
    after.stack.toList = deeper ++ left ∧ left.length = word.outputs ∧
    after.stack.capacity = before.stack.capacity ∧
    after = { other with stack := after.stack, events := after.events }

inductive Word.Fails (word : Word) (state : State) : Fault → Prop where
  | underflow (few : state.stack.depth < word.inputs) : Fails word state .stackUnderflow
  | overflow (inputs : word.inputs ≤ state.stack.depth) (full : state.stack.room < word.growth) :
      Fails word state .stackOverflow
  | divide (divides : word.name = "/".toList ∨ word.name = "mod".toList)
      (zero : state.stack.toList.getLast? = some 0) : Fails word state .divisionByZero
  | quote (quotes : word.name = "[".toList) {rest : Text}
      (left : state.frameRest? = some rest) (opened : ']' ∉ rest) :
      Fails word state .unterminatedQuotation
  | print (prints : word.name = "out".toList ∨ word.name = ".".toList) {cell : Int32} {sink : Sink}
      (top : state.stack.toList.getLast? = some cell)
      (written : state.sink.write (decimal cell.toInt ++ ['\n']).toBytes = (.error (), sink)) :
      Fails word state .outputFailed

def State.Untouched (before : State) (cause : Fault) (after : State) : Prop :=
  after = { before with stack := after.stack, sink := after.sink, events := after.events } ∧
    (cause ≠ .outputFailed → after.stack = before.stack ∧ after.sink = before.sink)

def Builtin.names : Builtin → List Text
  | add => ["+".toList]
  | subtract => ["-".toList]
  | multiply => ["*".toList]
  | divide => ["/".toList]
  | remainder => ["mod".toList]
  | drop => ["drop".toList]
  | duplicate => ["dup".toList]
  | swap => ["swap".toList]
  | copySecond => ["over".toList]
  | dropSecond => ["nip".toList]
  | rotate => ["rot".toList]
  | quote => ["[".toList]
  | call => ["do".toList]
  | print => ["out".toList, ".".toList]
  | halt => ["bye".toList]

/-- The word went through as a whole, or it failed for a reason and left all as it was, unless it
was cut off in a write. -/
def Word.Atomic (word : Word) (before : State) (outcome : Outcome Unit) : Prop :=
  (∃ after, outcome = .done () after ∧ word.Succeeds before after) ∨
    ∃ cause after, outcome = .fault cause after ∧ word.Fails before cause ∧
      before.Untouched cause after

section Words

variable {name : Text} {state : State} {word : Word} {builtin : Builtin}
  {reads : Span → Step Unit}

namespace Dictionary

end Dictionary

namespace Builtin

theorem divide_eq_ofInt (left right : Int32) :
    left / right = .ofInt (left.toInt.tdiv right.toInt) := by
  apply Int32.toInt_inj.1
  rw [Int32.toInt_div, Int32.toInt_ofInt]

theorem remainder_eq_ofInt (left right : Int32) :
    left % right = .ofInt (left.toInt.tmod right.toInt) := by
  rw [← Int32.toInt_mod, Int32.ofInt_toInt]

end Builtin

namespace Word

theorem Atomic.fails {outcome : Outcome Unit} {cause : Fault} {after : State}
    (atomic : word.Atomic state outcome) (failed : outcome = .fault cause after) :
    word.Fails state cause := by
  rcases atomic with ⟨_, done, _⟩ | ⟨_, _, failed', fails, _⟩
  · cases done.symm.trans failed
  · cases failed'.symm.trans failed
    exact fails

end Word

section Dispatch

variable {engine : Engine} {asks : Action → Prop} {callers : List Caller} {behind : State}

namespace Engine

theorem Reaches.fits_behind (reached : engine.Reaches asks ⟨.read, callers, state⟩)
    (named : nextName? state = .done (some name) behind) :
    behind.frame.Fits behind.arena.text := by
  obtain ⟨running, ⟨rest, left, nonempty⟩, _⟩ := nextName?_some named
  simp only [nextName?_apply, running, left, nonempty, Bool.false_eq_true, if_false] at named
  cases named
  have split := Token.scan_split state.frame.cursor rest
  have stop := Token.scan_stop state.frame.cursor rest
  have ready := reached.sound.ready.2
  have starts : state.frame.start ≤ state.frame.cursor ∧
      state.arena.text.isBoundary state.frame.start = true := by
    rcases ready with opened | fits
    · have starts := (Text.isBoundary_of_slice? left).1
      have opened : state.frame.start = state.frame.cursor := opened
      exact ⟨Nat.le_of_eq opened, opened ▸ starts⟩
    · exact ⟨fits.start_le, fits.start⟩
  have fits := Frame.Fits.moveTo left starts.1 starts.2 split
  rw [← stop] at fits
  exact fits

end Engine

end Dispatch

end Words

end StackScript

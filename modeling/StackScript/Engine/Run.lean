import StackScript.Engine.Body
import StackScript.Engine.Builtin

set_option autoImplicit false

namespace StackScript

-- A numeral always stands for its value: no word can have its name.
inductive Meaning where
  | word (word : Word)
  | number (value : Int32)
  | unknown

def Dictionary.meaning (dictionary : Dictionary) (name : Text) : Meaning :=
  match dictionary.find? name with
  | some word => .word word
  | none => if isNumeral name then .number (numeralValue name) else .unknown

theorem Dictionary.find?_of_meaning {dictionary : Dictionary} {name : Text} {word : Word}
    (meaning : dictionary.meaning name = .word word) : dictionary.find? name = some word := by
  unfold Dictionary.meaning at meaning
  split at meaning
  · next found =>
    cases meaning
    exact found
  · split at meaning <;> cases meaning

namespace Engine

open Step

def invoke (engine : Engine) (read : Span → Step Unit) : Operation → Step Unit
  | .builtin builtin => builtin.invoke read
  | .program program => engine.perform read program

def checkArity (word : Word) : Step Unit := do
  let stack := (← get).stack
  if stack.depth < word.inputs then fail .stackUnderflow
  else if stack.room < word.growth then fail .stackOverflow
  else note (.invoking word.name stack)

def dispatch (engine : Engine) (read : Span → Step Unit) (word : Word) : Step Unit := do
  checkArity word
  engine.invoke read word.operation

def obey (engine : Engine) (read : Span → Step Unit) (name : Text) : Step Unit :=
  match engine.dictionary.meaning name with
  | .word word => engine.dispatch read word
  | .number value => do
    note (.pushing value)
    push value
  | .unknown => fail (.unknownWord name)

def moveTo (cursor : Nat) : Step Unit :=
  modify fun state => { state with frame := { state.frame with cursor := cursor } }

def nextName? : Step (Option Text) := do
  if ← isHalted then return none
  else
    let rest ← frameRest
    let token := Token.scan (← cursor) rest
    if token.isEmpty then
      moveTo (← get).frame.stop
      return none
    else
      moveTo token.span.stop
      return some token.name

def advance (engine : Engine) (read : Span → Step Unit) : Step Bool := do
  match ← nextName? with
  | none => return false
  | some name =>
    engine.obey read name
    return true

/-- Reads while the unread part shrinks, for at most `count` words. After a rewind it goes on with
`again`. -/
def sweep (engine : Engine) (read : Span → Step Unit) (again : Step Unit) :
    Nat → State → Outcome Unit
  | 0, state => again state
  | count + 1, state =>
    match engine.advance read state with
    | .done true after =>
      if after.frame.unread < state.frame.unread then engine.sweep read again count after
      else again after
    | .done false after => .done () after
    | .fault cause after => .fault cause after
    | .crash after => .crash after
    | .endless => .endless

def scan (engine : Engine) (read : Span → Step Unit) : (rewinds : Nat) → State → Outcome Unit
  | 0, _ => .endless
  | rewinds + 1, state =>
    engine.sweep read (engine.scan read rewinds) (state.frame.unread + 1) state

-- A frame that is rewound so often will not come to an end.
def rewindLimit : Nat := Nat.pow 2 62

def readFrame (engine : Engine) (read : Span → Step Unit) (span : Span) : Step Unit := fun state =>
  if span.fits then
    (engine.scan read rewindLimit (state.openFrame span)).mapReturn (·.closeFrame state.frame)
  else .crash state

def readAt (engine : Engine) : (levels : Nat) → Span → Step Unit
  | 0, _ => fail (.nestingTooDeep engine.settings.maxNesting)
  | levels + 1, span => engine.readFrame (engine.readAt levels) span

def levels (engine : Engine) : Nat :=
  engine.settings.maxNesting + 1

def runSpan (engine : Engine) : Span → Step Unit :=
  engine.readAt engine.levels

def run (engine : Engine) (script : Text) : Step Unit :=
  Step.run engine.runSpan script

def act (engine : Engine) (action : Action) : Step Answer := do
  let (answer, _) ← engine.answer engine.runSpan 0 action
  return answer

end Engine

end StackScript

import StackScript.Engine.Control

set_option autoImplicit false

namespace StackScript

open Step

def Span.numbers (span : Span) : List Int :=
  [span.start, span.length]

def Engine.prepare (engine : Engine) (accumulator : Int) : Action → Step (Due (Answer × Int))
  | .run script => do
    return .reading (← load script) (.nothing, accumulator)
  | .runSpan span => return .reading span (.nothing, accumulator)
  | .runQuotation handle => do
    match ← quotation? (Int32.ofInt (handle.getD accumulator)) with
    | some body => return .reading body (.flag true, accumulator)
    | none => return .now (.flag false, accumulator)
  | .push cell => do
    push (Int32.ofInt (cell.getD accumulator))
    return .now (.nothing, accumulator)
  | .pop => do
    let cell ← pop
    return .now (.number cell.toInt, cell.toInt)
  | .peek below => do
    let cell ← peek (below.getD accumulator).toNat
    return .now (.number cell.toInt, cell.toInt)
  | .depth => do
    let depth := (← get).stack.depth
    return .now (.number depth, depth)
  | .stack => do
    return .now (.numbers ((← get).stack.toList.map Int32.toInt), accumulator)
  | .cursor => do
    let cursor ← cursor
    return .now (.number cursor, cursor)
  | .setCursor position => do
    setCursor (position.getD accumulator).toNat
    return .now (.number (← cursor), accumulator)
  | .frameRest => do
    return .now (.text (← frameRest), accumulator)
  | .source => do
    return .now (.text (← get).arena.text, accumulator)
  | .slice span => do
    return .now (.text (← slice span), accumulator)
  | .quotationText handle => do
    match ← quotation? (Int32.ofInt (handle.getD accumulator)) with
    | some body => return .now (.text (← slice body), accumulator)
    | none => return .now (.nothing, accumulator)
  | .quotationSpan handle => do
    match ← quotation? (Int32.ofInt (handle.getD accumulator)) with
    | some body => return .now (.numbers body.numbers, accumulator)
    | none => return .now (.nothing, accumulator)
  | .capture body => do
    let handle ← capture body
    return .now (.number handle.toInt, handle.toInt)
  | .countQuotations => do
    let count := (← get).quotations.size
    return .now (.number count, count)
  | .clearQuotations => do
    modify fun state => { state with quotations := .empty }
    return .now (.flag (← get).quotations.isEmpty, accumulator)
  | .write text => do
    write text
    return .now (.nothing, accumulator)
  | .halt => do
    halt
    return .now (.flag (← isHalted), accumulator)
  | .isHalted => do
    return .now (.flag (← isHalted), accumulator)
  | .reset => do
    reset
    return .now (.flag (← isHalted), accumulator)
  | .find name => do
    match engine.dictionary.find? name with
    | some word => return .now (.word word, accumulator)
    | none => return .now (.nothing, accumulator)
  | .settings => do
    return .now (.numbers [engine.settings.stackCapacity, engine.settings.maxNesting], accumulator)
  | .add amount => do
    return .now (.number (accumulator + amount), accumulator + amount)
  | .give result => do
    ofResult result
    return .now (.nothing, accumulator)

def Engine.answer (engine : Engine) (read : Span → Step Unit) (accumulator : Int)
    (action : Action) : Step (Answer × Int) := do
  (← engine.prepare accumulator action).settle read

def State.enter (state : State) (entry : Entry) : State :=
  { state with journal := entry :: state.journal }

def Answer.told : Answer × Int → Reply Signature × Int
  | (answer, accumulator) => (answer.map Word.toSignature, accumulator)

def Engine.perform (engine : Engine) (read : Span → Step Unit) : Program → Step Unit
  | .finish result => ofResult result
  | .ask accumulator action next => do
    let result ← attempt (engine.answer read accumulator action)
    modify (·.enter { action := action, result := result.map Prod.fst })
    engine.perform read (next (result.map Answer.told))

end StackScript

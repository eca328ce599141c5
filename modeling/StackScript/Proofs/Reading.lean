import StackScript.Proofs.Effects
import StackScript.Proofs.Words

set_option autoImplicit false

namespace StackScript

@[ext] structure Memory where
  stack : Stack
  quotations : Quotations
  sink : Sink
  halted : Bool

def State.memory (state : State) : Memory :=
  { stack := state.stack
    quotations := state.quotations
    sink := state.sink
    halted := state.halted }

structure Point where
  offset : Nat
  rest : Text
  memory : Memory

inductive Move where
  | stop
  | fail (cause : Fault) (last : Point)
  | go (next : Point)
  -- The body is read first, then it goes on with the next point.
  | enter (body : Span) (next : Point)
  | foreign

def Move.point? : Move → Option Point
  | fail _ next | go next | enter _ next => some next
  | stop | foreign => none

namespace Point

def replace (point : Point) (builtin : Builtin) : Move :=
  let memory := point.memory
  let cells := memory.stack.cells.take builtin.inputs
  if builtin.refuses cells then .fail .divisionByZero point
  else
    let (result, sink) := memory.sink.write (builtin.printed cells).toBytes
    let changed := { memory with
      stack := { memory.stack with
        cells := builtin.effect cells ++ memory.stack.cells.drop builtin.inputs }
      sink := sink
      halted := memory.halted || builtin == .halt }
    let next := { point with memory := changed }
    match result with
    | .ok () => .go next
    | .error () => .fail .outputFailed next

def push (point : Point) (cell : Int32) : Move :=
  match point.memory.stack.push cell with
  | .ok stack => .go { point with memory := { point.memory with stack := stack } }
  | .error cause => .fail cause point

def quote (point : Point) : Move :=
  match Builtin.bodyOf? point.rest with
  | none => .fail .unterminatedQuotation point
  | some body =>
    let span : Span := { start := point.offset, length := body.size }
    let (handle, quotations) := point.memory.quotations.capture span
    let behind : Point :=
      { offset := span.stop + 1
        rest := point.rest.drop (body.length + 1)
        memory := { point.memory with quotations := quotations } }
    behind.push handle

def call (point : Point) : Move :=
  match point.memory.stack.pop with
  | .error cause => .fail cause point
  | .ok (handle, stack) =>
    let next := { point with memory := { point.memory with stack := stack } }
    match point.memory.quotations.get? handle with
    | some body => .enter body next
    | none => .go next

def invoke (point : Point) : Builtin → Move
  | .quote => point.quote
  | .call => point.call
  | builtin => point.replace builtin

def dispatch (point : Point) (word : Word) : Move :=
  if point.memory.stack.depth < word.inputs then .fail .stackUnderflow point
  else if point.memory.stack.room < word.growth then .fail .stackOverflow point
  else
    match word.declared? with
    | some builtin => point.invoke builtin
    | none => .foreign

def obey (point : Point) (name : Text) : Meaning → Move
  | .word word => point.dispatch word
  | .number value => point.push value
  | .unknown => .fail (.unknownWord name) point

def behind (point : Point) : Point :=
  { point with
    offset := (Token.scan point.offset point.rest).span.stop
    rest := point.rest.afterWord }

end Point

def Engine.step (engine : Engine) (point : Point) : Move :=
  if point.memory.halted then .stop
  else
    let token := Token.scan point.offset point.rest
    if token.isEmpty then .stop
    else point.behind.obey token.name (engine.dictionary.meaning token.name)

theorem Engine.step_word (engine : Engine) {point : Point} {name : Text}
    (running : point.memory.halted = false)
    (named : (Token.scan point.offset point.rest).name = name) (nonempty : name ≠ []) :
    engine.step point = point.behind.obey name (engine.dictionary.meaning name) := by
  have word : (Token.scan point.offset point.rest).isEmpty = false := by
    simp [Token.isEmpty, named, nonempty]
  simp [step, running, word, named]

theorem Engine.step_blank {engine : Engine} {point : Point}
    (empty : (Token.scan point.offset point.rest).name = []) : engine.step point = .stop := by
  simp [step, Token.isEmpty, empty]

theorem Point.invoke_eq_replace {builtin : Builtin} (quote : builtin ≠ .quote)
    (call : builtin ≠ .call) (point : Point) : point.invoke builtin = point.replace builtin := by
  cases builtin with
  | quote => exact absurd rfl quote
  | call => exact absurd rfl call
  | _ => rfl

abbrev Upshot := Option (Except Fault Unit)

/-- `Reads engine arena levels point upshot memory`: a frame in which reading stands at `point`
comes out with `upshot` and leaves `memory`, where `levels` more frames may be opened in it. -/
inductive Reads (engine : Engine) (arena : Arena) : Nat → Point → Upshot → Memory → Prop where
  | stop {levels : Nat} {point : Point} (move : engine.step point = .stop) :
      Reads engine arena levels point (some (.ok ())) point.memory
  | fail {levels : Nat} {point last : Point} {cause : Fault}
      (move : engine.step point = .fail cause last) :
      Reads engine arena levels point (some (.error cause)) last.memory
  | go {levels : Nat} {point next : Point} {upshot : Upshot} {final : Memory}
      (move : engine.step point = .go next)
      (later : Reads engine arena levels next upshot final) :
      Reads engine arena levels point upshot final
  | tooDeep {point next : Point} {body : Span} (move : engine.step point = .enter body next) :
      Reads engine arena 0 point (some (.error (.nestingTooDeep engine.settings.maxNesting)))
        next.memory
  | crash {levels : Nat} {point next : Point} {body : Span}
      (move : engine.step point = .enter body next) (unreadable : arena.slice? body = none) :
      Reads engine arena (levels + 1) point none next.memory
  | enter {levels : Nat} {point next : Point} {body : Span} {inner : Text} {memory final : Memory}
      {upshot : Upshot} (move : engine.step point = .enter body next)
      (readable : arena.slice? body = some inner)
      (nested : Reads engine arena levels ⟨body.start, inner, next.memory⟩ (some (.ok ())) memory)
      (later : Reads engine arena (levels + 1) { next with memory := memory } upshot final) :
      Reads engine arena (levels + 1) point upshot final
  | leave {levels : Nat} {point next : Point} {body : Span} {inner : Text} {final : Memory}
      {upshot : Upshot} (move : engine.step point = .enter body next)
      (readable : arena.slice? body = some inner)
      (nested : Reads engine arena levels ⟨body.start, inner, next.memory⟩ upshot final)
      (stopped : upshot ≠ some (.ok ())) :
      Reads engine arena (levels + 1) point upshot final

theorem Reads.of_no_words {engine : Engine} {arena : Arena} {levels : Nat} {point : Point}
    (blank : point.rest.words = []) :
    Reads engine arena levels point (some (.ok ())) point.memory := by
  refine .stop (Engine.step_blank ?_)
  rw [Token.scan_name, blank]
  rfl

theorem Reads.of_stop {engine : Engine} {arena : Arena} {levels : Nat} {point : Point}
    {upshot : Upshot} {final : Memory} (move : engine.step point = .stop)
    (reads : Reads engine arena levels point upshot final) :
    upshot = some (.ok ()) ∧ final = point.memory := by
  cases reads with
  | stop => exact ⟨rfl, rfl⟩
  | fail other | go other | tooDeep other | crash other | enter other | leave other =>
    cases move.symm.trans other

namespace Builtin

variable {rest body : Text}

theorem bodyOf?_eq_none_iff : bodyOf? rest = none ↔ ']' ∉ rest := by
  simp [bodyOf?]

theorem bodyOf?_append (absent : ']' ∉ body) (back : Text) :
    bodyOf? (body ++ ']' :: back) = some body := by
  have stop : ∀ char ∈ body, (char != ']') = true := by
    intro char inside
    have other : char ≠ ']' := fun same => absent (same ▸ inside)
    simpa using other
  simp [bodyOf?, List.takeWhile_append_of_pos stop]

theorem split_of_bodyOf? (found : bodyOf? rest = some body) :
    ']' ∉ body ∧ rest = body ++ ']' :: rest.drop (body.length + 1) := by
  have member : ']' ∈ rest := by
    by_contra absent
    rw [bodyOf?_eq_none_iff.2 absent] at found
    cases found
  obtain ⟨front, back, rfl, absent⟩ := List.eq_append_cons_of_mem member
  obtain rfl : front = body := Option.some_inj.1 ((bodyOf?_append absent back).symm.trans found)
  exact ⟨absent, by simp⟩

end Builtin

inductive Point.Leads (point : Point) : Point → Prop where
  | on {memory : Memory} (same : memory.quotations = point.memory.quotations) :
      point.Leads { point with memory := memory }
  | past {body : Text} {memory : Memory} (found : Builtin.bodyOf? point.rest = some body)
      (captured : memory.quotations =
        (point.memory.quotations.capture { start := point.offset, length := body.size }).2) :
      point.Leads
        { offset := point.offset + body.size + 1
          rest := point.rest.drop (body.length + 1)
          memory := memory }

namespace Point

variable {point next : Point}

theorem leads_self (point : Point) : point.Leads point :=
  .on rfl

theorem leads_of_push {cell : Int32} (move : (point.push cell).point? = some next) :
    next.offset = point.offset ∧ next.rest = point.rest ∧
      next.memory.quotations = point.memory.quotations := by
  unfold push at move
  split at move <;> cases move <;> exact ⟨rfl, rfl, rfl⟩

theorem leads_of_replace {builtin : Builtin} (move : (point.replace builtin).point? = some next) :
    point.Leads next := by
  unfold replace at move
  dsimp only at move
  split at move
  · cases move
    exact point.leads_self
  · split at move <;> cases move <;> exact .on rfl

theorem leads_of_call (move : point.call.point? = some next) : point.Leads next := by
  unfold call at move
  split at move
  · cases move
    exact point.leads_self
  · dsimp only at move
    split at move <;> cases move <;> exact .on rfl

theorem leads_of_quote (move : point.quote.point? = some next) : point.Leads next := by
  unfold quote at move
  split at move
  · cases move
    exact point.leads_self
  · next body found =>
    obtain ⟨offset, rest, quotations⟩ := leads_of_push move
    obtain ⟨_, _, memory⟩ := next
    dsimp only at offset rest quotations
    subst offset rest
    exact .past found quotations

theorem leads_of_obey {name : Text} {meaning : Meaning}
    (move : (point.obey name meaning).point? = some next) : point.Leads next := by
  unfold obey at move
  split at move
  · unfold dispatch at move
    split at move
    · cases move
      exact point.leads_self
    · split at move
      · cases move
        exact point.leads_self
      · split at move
        · unfold invoke at move
          split at move
          · exact leads_of_quote move
          · exact leads_of_call move
          · exact leads_of_replace move
        · cases move
  · obtain ⟨offset, rest, quotations⟩ := leads_of_push move
    obtain ⟨_, _, memory⟩ := next
    dsimp only at offset rest quotations
    subst offset rest
    exact .on quotations
  · cases move
    exact point.leads_self

theorem Leads.advances (leads : point.Leads next) :
    ∃ front, point.rest = front ++ next.rest ∧ next.offset = point.offset + front.size := by
  cases leads with
  | on => exact ⟨[], rfl, rfl⟩
  | @past body _ found _ =>
    obtain ⟨_, split⟩ := Builtin.split_of_bodyOf? found
    refine ⟨body ++ [']'], ?_, ?_⟩
    · rw [List.append_assoc]
      exact split
    · rw [Text.size_append, ← Nat.add_assoc]
      rfl

end Point

theorem Engine.step_of_go {engine : Engine} {point next : Point}
    (move : (engine.step point).point? = some next) :
    point.memory.halted = false ∧ (Token.scan point.offset point.rest).name ≠ [] ∧
      point.behind.Leads next := by
  unfold step at move
  split at move
  · cases move
  · dsimp only at move
    split at move
    · cases move
    · next running nonempty =>
      exact ⟨by simpa using running, by simpa [Token.isEmpty] using nonempty,
        Point.leads_of_obey move⟩

theorem Engine.step_advances {engine : Engine} {point next : Point}
    (move : (engine.step point).point? = some next) :
    ∃ front, front ≠ [] ∧ point.rest = front ++ next.rest ∧
      next.offset = point.offset + Text.size front := by
  obtain ⟨_, nonempty, leads⟩ := Engine.step_of_go move
  obtain ⟨front, split, offset⟩ := leads.advances
  refine ⟨point.rest.takeWhile isBlank ++ (Token.scan point.offset point.rest).name ++ front,
    by simp [nonempty], ?_, ?_⟩
  · rw [List.append_assoc, ← split]
    exact Token.scan_split point.offset point.rest
  · rw [offset, Text.size_append, ← Nat.add_assoc, ← Token.scan_stop]
    rfl

namespace Point

variable {point next : Point} {body : Span}

theorem push_ne_enter (point : Point) (cell : Int32) (body : Span) (next : Point) :
    point.push cell ≠ .enter body next := by
  unfold push
  split <;> simp

theorem call_of_obey {name : Text} {meaning : Meaning}
    (move : point.obey name meaning = .enter body next) : point.call = .enter body next := by
  unfold obey at move
  split at move
  · unfold dispatch at move
    split at move
    · cases move
    · split at move
      · cases move
      · split at move
        · unfold invoke at move
          split at move
          · unfold quote at move
            split at move
            · cases move
            · exact absurd move (push_ne_enter _ _ _ _)
          · exact move
          · unfold replace at move
            dsimp only at move
            split at move
            · cases move
            · split at move <;> cases move
        · cases move
  · exact absurd move (push_ne_enter _ _ _ _)
  · cases move

theorem call_eq_enter (move : point.call = .enter body next) :
    ∃ handle stack, point.memory.stack.pop = .ok (handle, stack) ∧
      point.memory.quotations.get? handle = some body ∧
      next = { point with memory := { point.memory with stack := stack } } := by
  unfold call at move
  split at move
  · cases move
  · next handle stack popped =>
    dsimp only at move
    split at move
    · next found =>
      cases move
      exact ⟨handle, stack, popped, found, rfl⟩
    · cases move

end Point

theorem Quotations.mem_of_get? {quotations : Quotations} {handle : Int32} {body : Span}
    (found : quotations.get? handle = some body) : body ∈ quotations.bodies := by
  unfold Quotations.get? at found
  split at found
  · cases found
  · exact Array.mem_of_getElem? found

theorem Engine.step_of_enter {engine : Engine} {point next : Point} {body : Span}
    (move : engine.step point = .enter body next) :
    body ∈ point.memory.quotations.bodies ∧ next.memory.quotations = point.memory.quotations ∧
      next.memory.halted = false := by
  unfold step at move
  split at move
  · cases move
  · next running =>
    dsimp only at move
    split at move
    · cases move
    · obtain ⟨handle, stack, _, found, rfl⟩ := Point.call_eq_enter (Point.call_of_obey move)
      exact ⟨Quotations.mem_of_get? found, rfl, Bool.eq_false_iff.2 running⟩

theorem Point.push_isSome (point : Point) (cell : Int32) :
    (point.push cell).point?.isSome = true := by
  rw [push]
  split <;> rfl

theorem Point.invoke_isSome (point : Point) (builtin : Builtin) :
    (point.invoke builtin).point?.isSome = true := by
  unfold invoke
  split
  · rw [quote]
    split
    · rfl
    · apply push_isSome
  · rw [call]
    split
    · rfl
    · dsimp only
      split <;> rfl
  · rw [replace]
    dsimp only
    split
    · rfl
    · split <;> rfl

theorem Engine.step_isSome {engine : Engine} (standard : engine.dictionary = .standard)
    {point : Point} (running : point.memory.halted = false)
    (nonempty : (Token.scan point.offset point.rest).name ≠ []) :
    (engine.step point).point?.isSome = true := by
  rw [engine.step_word running rfl nonempty, standard]
  unfold Point.obey
  split
  · next word meaning =>
    rw [Point.dispatch]
    split
    · rfl
    · split
      · rfl
      · have declared : word.declared?.isSome = true :=
          Dictionary.declared?_standard (Dictionary.find?_of_meaning meaning)
        obtain ⟨builtin, known⟩ := Option.isSome_iff_exists.1 declared
        rw [known]
        apply Point.invoke_isSome
  · apply Point.push_isSome
  · rfl

theorem Engine.step_ne_foreign {engine : Engine} (standard : engine.dictionary = .standard)
    (point : Point) : engine.step point ≠ .foreign := by
  intro foreign
  by_cases running : point.memory.halted = false
  · by_cases empty : (Token.scan point.offset point.rest).name = []
    · cases (step_blank empty).symm.trans foreign
    · have leads := step_isSome standard running empty
      rw [foreign] at leads
      cases leads
  · simp [step, running] at foreign

theorem Reads.exists_of_enter {engine : Engine} {arena : Arena} {levels : Nat}
    (standard : engine.dictionary = .standard)
    (opens : ∀ {point next : Point} {body : Span}, engine.step point = .enter body next →
      (∀ memory, ∃ upshot final,
        Reads engine arena levels { next with memory := memory } upshot final) →
      ∃ upshot final, Reads engine arena levels point upshot final)
    (point : Point) : ∃ upshot final, Reads engine arena levels point upshot final := by
  induction measured : point.rest.length using Nat.strongRecOn generalizing point with
  | ind length ih =>
    have shorter : ∀ {next : Point}, (engine.step point).point? = some next →
        ∀ memory, ∃ upshot final,
          Reads engine arena levels { next with memory := memory } upshot final := by
      intro next move memory
      obtain ⟨front, nonempty, split, _⟩ := Engine.step_advances move
      have positive := List.length_pos_iff.2 nonempty
      have lengths := congrArg List.length split
      rw [List.length_append] at lengths
      exact ih next.rest.length (by omega) { next with memory := memory } rfl
    cases move : engine.step point with
    | stop => exact ⟨_, _, .stop move⟩
    | fail cause last => exact ⟨_, _, .fail move⟩
    | foreign => exact absurd move (Engine.step_ne_foreign standard point)
    | enter body next => exact opens move (shorter (by rw [move]; rfl))
    | go next =>
      obtain ⟨upshot, final, later⟩ := shorter (by rw [move]; rfl) next.memory
      exact ⟨upshot, final, .go move later⟩

theorem Reads.exists {engine : Engine} (standard : engine.dictionary = .standard) (arena : Arena)
    (levels : Nat) (point : Point) :
    ∃ upshot final, Reads engine arena levels point upshot final := by
  -- Each word shortens what is left of its frame, and a frame that it opens has one level less.
  induction levels generalizing point with
  | zero => exact Reads.exists_of_enter standard (fun move _ => ⟨_, _, .tooDeep move⟩) point
  | succ levels ih =>
    apply Reads.exists_of_enter standard
    intro point next body move later
    cases readable : arena.slice? body with
    | none => exact ⟨_, _, .crash move readable⟩
    | some inner =>
      obtain ⟨upshot, memory, nested⟩ := ih ⟨body.start, inner, next.memory⟩
      by_cases stopped : upshot = some (.ok ())
      · subst stopped
        obtain ⟨upshot, final, later⟩ := later memory
        exact ⟨upshot, final, .enter move readable nested later⟩
      · exact ⟨upshot, memory, .leave move readable nested stopped⟩

end StackScript

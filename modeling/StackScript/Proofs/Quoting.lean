import StackScript.Proofs.Captures
import StackScript.Proofs.Numerals

set_option autoImplicit false

namespace StackScript

def bracketed (body : Text) : Text :=
  '[' :: (body ++ [']'])

def State.handle (state : State) : Int32 :=
  Int32.ofNat state.quotations.size

structure State.Quoted (state : State) (body : Text) (after : State) : Prop where
  atRest : after.AtRest
  stack : after.stack = { state.stack with cells := state.handle :: state.stack.cells }
  sink : after.sink = state.sink
  size : after.quotations.size = state.quotations.size + 1
  text : after.quotationText? state.handle = some body

/-- It was captured, and when the rest is run the other quotations have the texts there that they
have where the rest follows the brackets. -/
structure State.Resumes (state : State) (body rest : Text) (other : State) : Prop extends
    state.Quoted body other where
  texts : ∀ handle, handle ≠ state.handle → (other.load rest).quotationText? handle =
    (state.load (bracketed body ++ rest)).quotationText? handle

structure State.Looks (state other : State) : Prop where
  stack : state.stack = other.stack
  sink : state.sink = other.sink
  halted : state.halted = other.halted
  size : state.quotations.size = other.quotations.size
  texts : ∀ handle, state.quotationText? handle = other.quotationText? handle

theorem State.Looks.of_memory {state other : State} (arena : state.arena = other.arena)
    (memory : state.memory = other.memory) : state.Looks other := by
  have quotations : state.quotations = other.quotations := congrArg Memory.quotations memory
  refine ⟨congrArg Memory.stack memory, congrArg Memory.sink memory, congrArg Memory.halted memory,
    congrArg Quotations.size quotations, fun handle => ?_⟩
  rw [quotationText?, quotationText?, quotations, arena]

def Outcome.Matches (outcome other : Outcome Unit) : Prop :=
  (∃ after after', outcome = .crash after ∧ other = .crash after') ∨
    ∃ result after after', outcome = .returned result after ∧ other = .returned result after' ∧
      after.Looks after'

section Steps

variable {engine : Engine} {memory : Memory} {body rest : Text} {offset : Nat}

def Memory.quote (memory : Memory) (body : Span) : Memory :=
  { memory with
    stack := { memory.stack with
      cells := Int32.ofNat memory.quotations.size :: memory.stack.cells }
    quotations := (memory.quotations.capture body).2 }

theorem endsWord_of_blank (blank : body.head?.any isBlank = true) (back : Text) :
    Text.EndsWord (body ++ back) := by
  cases body with
  | nil => cases blank
  | cons char body =>
    rintro first ⟨⟩
    exact blank

theorem Token.scan_bracketed (offset : Nat) (blank : body.head?.any isBlank = true) (rest : Text) :
    scan offset (bracketed body ++ rest) = ⟨⟨offset, 1⟩, ['[']⟩ ∧
      Text.afterWord (bracketed body ++ rest) = body ++ ']' :: rest := by
  have whole := @scan_word (body ++ ']' :: rest) [] offset ['['] (by simp) (by simp)
    (List.forall_mem_singleton.2 rfl) (endsWord_of_blank blank _)
  have split : bracketed body ++ rest = [] ++ (['['] ++ (body ++ ']' :: rest)) := by
    simp [bracketed]
  rw [split]
  exact whole

theorem Engine.step_bracketed (standard : engine.dictionary = .standard)
    (running : memory.halted = false) (room : memory.stack.depth < memory.stack.capacity)
    (blank : body.head?.any isBlank = true) (bare : ']' ∉ body) :
    engine.step ⟨offset, bracketed body ++ rest, memory⟩ =
      .go ⟨offset + 1 + body.size + 1, rest, memory.quote ⟨offset + 1, body.size⟩⟩ := by
  obtain ⟨scanned, left⟩ := Token.scan_bracketed offset blank rest
  have name : (Token.scan offset (bracketed body ++ rest)).name = ['['] := by rw [scanned]
  have behind : (Point.mk offset (bracketed body ++ rest) memory).behind =
      ⟨offset + 1, body ++ ']' :: rest, memory⟩ := by
    rw [Point.behind, scanned, left]
    rfl
  have inputs : ¬ memory.stack.depth < (Dictionary.builtin "[" 0 1 .quote).inputs :=
    Nat.not_lt_zero _
  have outputs : ¬ memory.stack.room < (Dictionary.builtin "[" 0 1 .quote).growth := by
    simp only [Stack.room, Word.growth, Dictionary.builtin]
    omega
  have meaning : Dictionary.standard.meaning ['['] =
      .word (Dictionary.builtin "[" 0 1 .quote) := rfl
  have quotes : (Point.mk (offset + 1) (body ++ ']' :: rest) memory).dispatch
      (Dictionary.builtin "[" 0 1 .quote) =
      (Point.mk (offset + 1) (body ++ ']' :: rest) memory).quote := by
    dsimp only [Point.dispatch]
    rw [if_neg inputs, if_neg outputs]
    rfl
  have dropped : (body ++ ']' :: rest).drop (body.length + 1) = rest := by
    simp
  have pushed : memory.stack.push (Int32.ofNat memory.quotations.size) =
      .ok (memory.quote ⟨offset + 1, body.size⟩).stack := if_pos room
  rw [engine.step_word running name (by simp), standard, behind, meaning, Point.obey, quotes,
    Point.quote, Builtin.bodyOf?_append bare rest]
  simp only [Point.push, Quotations.capture, dropped, pushed]
  rfl

end Steps

section Texts

variable {arena arena' : Arena} {sink : Sink}

def Layout.ofTexts (arena arena' : Arena) : Layout arena arena' where
  place := fun offset rest offset' rest' =>
    arena.Stands offset rest ∧ arena'.Stands offset' rest' ∧ rest = rest'
  body := fun span span' => arena.slice? span = arena'.slice? span'
  words := by
    rintro _ _ rest _ ⟨_, _, rfl⟩
    rfl
  behind := by
    rintro _ _ rest _ ⟨stands, stands', rfl⟩
    exact ⟨stands.afterWord, stands'.afterWord, rfl⟩
  quote := by
    rintro _ _ rest _ inner inner' ⟨stands, stands', rfl⟩ found found'
    obtain rfl : inner = inner' := Option.some_inj.1 (found.symm.trans found')
    obtain ⟨_, split⟩ := Builtin.split_of_bodyOf? found
    rw [split] at stands stands'
    exact ⟨stands.split.1.trans stands'.split.1.symm, stands.bracket, stands'.bracket, rfl⟩
  opens := by
    intro span span' inner same readable
    have readable' := same.symm.trans readable
    exact ⟨inner, readable', Arena.stands_of_slice? readable, Arena.stands_of_slice? readable', rfl⟩

def Comparison.ofTexts (arena arena' : Arena) (sink : Sink) : Comparison arena arena' :=
  { Layout.ofTexts arena arena' with
    below := []
    excepted := fun _ => False
    sink := sink
    sink' := sink }

namespace Comparison

theorem Memories.stack_same {memory memory' : Memory}
    (memories : (ofTexts arena arena' sink).Memories memory memory') :
    memory'.stack = memory.stack :=
  memories.stack.eq_or_excepted.resolve_right fun excepted => excepted.1

theorem Points.swap {point point' : Point}
    (points : (ofTexts arena arena' sink).Points point point') :
    (ofTexts arena' arena sink).Points point' point := by
  obtain ⟨⟨stands, stands', same⟩, memories⟩ := points
  have stack := memories.stack_same
  refine ⟨⟨stands', stands, same.symm⟩, ?_, ?_, ?_, memories.halted.symm⟩
  · exact ⟨by simp [stack, ofTexts], by simp [stack, ofTexts], .inl ⟨rfl, by rw [stack]⟩⟩
  · exact ⟨memories.quotations.size.symm, fun found found' =>
      (memories.quotations.bodies found' found).symm⟩
  · obtain ⟨written, received, received'⟩ := memories.sink.received
    exact ⟨memories.sink.room.symm, written, received', received⟩

theorem Memories.looks {state other : State}
    (memories : (ofTexts state.arena other.arena sink).Memories state.memory other.memory) :
    state.Looks other where
  stack := memories.stack_same.symm
  sink := memories.sink.eq
  halted := memories.halted
  size := memories.quotations.size
  texts := by
    intro handle
    have pairs : (state.quotations.get? handle = none ∧ other.quotations.get? handle = none) ∨
        ∃ body body', state.quotations.get? handle = some body ∧
          other.quotations.get? handle = some body' ∧
            state.arena.slice? body = other.arena.slice? body' := memories.quotations.get? handle
    rw [State.quotationText?, State.quotationText?]
    rcases pairs with ⟨absent, absent'⟩ | ⟨body, body', found, found', same⟩
    · rw [absent, absent']
      rfl
    · rw [found, found']
      exact same

end Comparison

namespace Engine

variable {engine : Engine} {state other : State} {script text : Text} {point : Point}

theorem matches_of_points (sink : Sink) (standard : engine.dictionary = .standard)
    (rest : other.AtRest) (holds : other.arena.Holds text)
    (runs : ∀ {upshot : Upshot} {final : Memory},
      Reads engine (state.arena.append script).2 engine.settings.maxNesting point upshot final →
        upshot.Shows (fun after => after.AtRest ∧ after.arena = (state.arena.append script).2 ∧
          after.memory = final) (engine.run script state))
    (points : (Comparison.ofTexts (state.arena.append script).2 (other.arena.append text).2
      sink).Points point (other.entry text)) :
    (engine.run script state).Matches (engine.run text other) := by
  obtain ⟨upshot, final, reads⟩ := Reads.exists standard (state.arena.append script).2
    engine.settings.maxNesting point
  have shows := runs reads
  cases upshot with
  | some result =>
    obtain ⟨after, returned, _, arena, rfl⟩ := shows
    obtain ⟨after', returned', arena', memories⟩ := points.run engine reads rfl (Nat.add_zero _)
      (.inl ⟨rfl, rfl⟩) (fun _ _ => id) rest holds
    rw [← arena, ← arena'] at memories
    exact .inr ⟨result, after, after', returned, returned', memories.looks⟩
  | none =>
    obtain ⟨after, crashed⟩ := shows
    obtain ⟨upshot', final', reads'⟩ := Reads.exists standard (other.arena.append text).2
      engine.settings.maxNesting (other.entry text)
    have shows' := run_shows rest holds reads'
    cases upshot' with
    | none =>
      obtain ⟨after', crashed'⟩ := shows'
      exact .inl ⟨after, after', crashed, crashed'⟩
    | some result =>
      -- Then the first run would have come to this result too.
      obtain ⟨_, back, _⟩ := Comparison.reads rfl (.inl ⟨rfl, rfl⟩) reads' nofun (fun _ _ => id)
        points.swap
      obtain ⟨after', returned, _⟩ := runs back
      exact absurd (returned.symm.trans crashed) returned_ne_crash

end Engine

end Texts

section Bracketed

variable {engine : Engine} {state other : State} {body rest script : Text} {index : Nat}
  {span : Span}

theorem ofNat_ne_handle (few : state.quotations.size < 2 ^ 31)
    (earlier : index < state.quotations.size) : Int32.ofNat index ≠ state.handle := by
  intro same
  have number := congrArg Int32.toInt same
  rw [State.handle, Int32.toInt_ofNat_of_lt (Nat.lt_trans earlier few),
    Int32.toInt_ofNat_of_lt few] at number
  omega

theorem State.quotationText?_ofNat (small : index < 2 ^ 31)
    (found : state.quotations.bodies[index]? = some span) :
    state.quotationText? (Int32.ofNat index) = state.arena.slice? span := by
  rw [quotationText?, Quotations.get?_ofNat _ small, found]
  rfl

def State.bodySpan (state : State) (body : Text) : Span :=
  { start := state.arena.size + state.arena.separator.size + 1, length := body.size }

def State.quoting (state : State) (script body : Text) : State :=
  { state.load script with
    stack := { state.stack with cells := state.handle :: state.stack.cells }
    quotations := (state.quotations.capture (state.bodySpan body)).2 }

def State.behindBrackets (state : State) (body rest : Text) : Point :=
  { offset := (state.bodySpan body).stop + 1
    rest := rest
    memory := Memory.quote { state.memory with halted := false } (state.bodySpan body) }

namespace State

theorem stands_brackets (holds : state.arena.Holds (bracketed body ++ rest)) :
    (state.arena.append (bracketed body ++ rest)).2.slice? (state.bodySpan body) = some body ∧
    (state.arena.append (bracketed body ++ rest)).2.Stands ((state.bodySpan body).stop + 1)
      rest := by
  have stands : (state.arena.append (bracketed body ++ rest)).2.Stands
      (state.arena.size + state.arena.separator.size) (['['] ++ (body ++ ']' :: rest)) := by
    have whole := Engine.entry_stands holds
    have parts : bracketed body ++ rest = ['['] ++ (body ++ ']' :: rest) := by simp [bracketed]
    rw [← parts]
    exact whole
  have inner := stands.split.2
  exact ⟨inner.split.1, inner.bracket⟩

theorem quote_quotationText? {after : State} (few : state.quotations.size < 2 ^ 31)
    (quotations : after.quotations = (state.quotations.capture span).2) :
    after.quotationText? state.handle = after.arena.slice? span := by
  apply quotationText?_ofNat few
  rw [quotations]
  exact Array.getElem?_push_size

end State

theorem Quotations.get?_capture_of_ne {quotations : Quotations} {handle : Int32}
    (other : handle ≠ Int32.ofNat quotations.size) (span : Span) :
    (quotations.capture span).2.get? handle = quotations.get? handle := by
  rw [Quotations.get?, Quotations.get?]
  split
  · rfl
  · next nonnegative =>
    have apart : handle.toInt.toNat ≠ quotations.bodies.size := by
      intro same
      rw [Int32.lt_iff_toInt_lt, Int32.toInt_zero, Int.not_lt] at nonnegative
      have number : handle.toInt = quotations.size := by
        rw [← Int.toNat_of_nonneg nonnegative, same]
        rfl
      exact other (by rw [← Int32.ofInt_toInt handle, number]; rfl)
    rw [Quotations.capture, Array.getElem?_push, if_neg apart]

theorem State.Quoted.resumes {after : State} (quoted : state.Quoted body after)
    (arena : after.arena = (state.arena.append (bracketed body)).2)
    (quotations : after.quotations = (state.quotations.capture (state.bodySpan body)).2)
    (readable : state.quotations.Within state.arena fun _ => True) (rest : Text) :
    state.Resumes body rest after := by
  refine ⟨quoted, fun handle other => ?_⟩
  have known : (after.load rest).quotations.get? handle =
      (state.load (bracketed body ++ rest)).quotations.get? handle := by
    rw [State.load, quotations]
    exact Quotations.get?_capture_of_ne other _
  rw [State.quotationText?, State.quotationText?, known]
  cases found : (state.load (bracketed body ++ rest)).quotations.get? handle with
  | none => rfl
  | some span =>
    obtain ⟨inner, cut, _⟩ := readable span (Quotations.mem_of_get? found)
    have first : (after.load rest).arena.slice? span = some inner := by
      rw [State.load, arena]
      exact Arena.slice?_append (Arena.slice?_append cut _) _
    exact first.trans (Arena.slice?_append cut _).symm

theorem State.Resumes.paired (few : state.quotations.size < 2 ^ 31)
    (holds : state.arena.Holds (bracketed body ++ rest)) (resumes : state.Resumes body rest other) :
    (state.quotations.capture (state.bodySpan body)).2.Paired
      (fun span span' => (state.arena.append (bracketed body ++ rest)).2.slice? span =
        (other.arena.append rest).2.slice? span') other.quotations where
  size := by
    rw [resumes.size]
    exact Array.size_push _
  bodies := by
    intro index span span' found found'
    by_cases last : index = state.quotations.size
    · subst last
      have same : some (state.bodySpan body) = some span :=
        Array.getElem?_push_size.symm.trans found
      cases same
      have text := resumes.text
      rw [State.handle, State.quotationText?_ofNat few found'] at text
      rw [(State.stands_brackets holds).1, Arena.slice?_append text rest]
    · have known : state.quotations.bodies[index]? = some span := by
        rw [Quotations.capture, Array.getElem?_push] at found
        exact (if_neg last).symm.trans found
      have earlier : index < state.quotations.size := by
        obtain ⟨inside, _⟩ := Array.getElem?_eq_some_iff.1 known
        exact inside
      have small := Nat.lt_trans earlier few
      have text : (state.load (bracketed body ++ rest)).quotationText? (Int32.ofNat index) =
          (state.arena.append (bracketed body ++ rest)).2.slice? span :=
        State.quotationText?_ofNat small known
      have text' : (other.load rest).quotationText? (Int32.ofNat index) =
          (other.arena.append rest).2.slice? span' := State.quotationText?_ofNat small found'
      rw [← text, ← text']
      exact (resumes.texts _ (ofNat_ne_handle few earlier)).symm

def Invariant.knows (engine : Engine) (arena : Arena) (handle : Int32) (body : Span) :
    Invariant engine arena where
  place := fun _ _ => True
  memory := fun memory => memory.quotations.get? handle = some body
  step := by
    intro point next _ known move
    refine ⟨trivial, ?_⟩
    rcases Engine.step_captures move with same | ⟨_, _, _, _, captured⟩
    · rw [same]
      exact known
    · rw [captured, Quotations.capture, Array.push_eq_append]
      exact Quotations.get?_append known _
  enter := fun _ _ _ => trivial

namespace Engine

variable (standard : engine.dictionary = .standard) (atRest : state.AtRest)
  (room : state.stack.depth < state.stack.capacity) (blank : body.head?.any isBlank = true)
  (bare : ']' ∉ body)

include standard atRest room blank bare

theorem run_brackets_shows (holds : state.arena.Holds (bracketed body ++ rest)) {upshot : Upshot}
    {final : Memory}
    (reads : Reads engine (state.arena.append (bracketed body ++ rest)).2
      engine.settings.maxNesting (state.behindBrackets body rest) upshot final) :
    upshot.Shows (fun after => after.AtRest ∧
      after.arena = (state.arena.append (bracketed body ++ rest)).2 ∧ after.memory = final)
      (engine.run (bracketed body ++ rest) state) := by
  have quotes := @step_bracketed engine { state.memory with halted := false } body rest
    (state.arena.size + state.arena.separator.size) standard rfl room blank bare
  exact run_shows atRest holds (.go quotes reads)

theorem run_bracketed (few : state.quotations.size < 2 ^ 31)
    (holds : state.arena.Holds (bracketed body)) :
    ∃ after, engine.run (bracketed body) state = .done () after ∧ state.Quoted body after ∧
      after.halted = false ∧ after.arena = (state.arena.append (bracketed body)).2 ∧
      after.quotations = (state.quotations.capture (state.bodySpan body)).2 := by
  rw [← List.append_nil (bracketed body)] at holds ⊢
  have reads : Reads engine (state.arena.append (bracketed body ++ [])).2
      engine.settings.maxNesting (state.behindBrackets body []) (some (.ok ()))
      (state.behindBrackets body []).memory := .stop (step_blank rfl)
  obtain ⟨after, returned, rest, arena, memory⟩ :=
    run_brackets_shows standard atRest room blank bare holds reads
  have stack : after.stack = _ := congrArg Memory.stack memory
  have quotations : after.quotations = (state.quotations.capture (state.bodySpan body)).2 :=
    congrArg Memory.quotations memory
  have sink : after.sink = state.sink := congrArg Memory.sink memory
  have halted : after.halted = false := congrArg Memory.halted memory
  refine ⟨after, returned, ⟨rest, stack, sink, ?_, ?_⟩, halted, arena, quotations⟩
  · rw [quotations]
    exact Array.size_push _
  · rw [State.quote_quotationText? few quotations, arena]
    exact (State.stands_brackets holds).1

theorem run_bracketed_span (holds : state.arena.Holds (bracketed body ++ rest)) :
    (engine.run (bracketed body ++ rest) state).Matches
      (engine.runSpan ⟨(state.bodySpan body).stop + 1, rest.size⟩
        (state.quoting (bracketed body ++ rest) body)) := by
  obtain ⟨upshot, final, reads⟩ := Reads.exists standard
    (state.arena.append (bracketed body ++ rest)).2 engine.settings.maxNesting
    (state.behindBrackets body rest)
  have shows := run_brackets_shows standard atRest room blank bare holds reads
  have inside : (state.quoting (bracketed body ++ rest) body).AtRest :=
    ⟨atRest.nesting, atRest.frame, atRest.resetPending, room⟩
  have shows' := runSpan_shows inside (State.stands_brackets holds).2 reads
  cases upshot with
  | none =>
    obtain ⟨after, crashed⟩ := shows
    obtain ⟨after', crashed'⟩ := shows'
    exact .inl ⟨after, after', crashed, crashed'⟩
  | some result =>
    obtain ⟨after, returned, _, arena, memory⟩ := shows
    obtain ⟨after', returned', _, arena', memory'⟩ := shows'
    exact .inr ⟨result, after, after', returned, returned',
      .of_memory (arena.trans arena'.symm) (memory.trans memory'.symm)⟩

theorem run_bracketed_append (few : state.quotations.size < 2 ^ 31)
    (holds : state.arena.Holds (bracketed body ++ rest)) (resumes : state.Resumes body rest other)
    (holds' : other.arena.Holds rest) :
    (engine.run (bracketed body ++ rest) state).Matches (engine.run rest other) := by
  apply matches_of_points state.sink standard resumes.atRest holds'
    (fun reads => run_brackets_shows standard atRest room blank bare holds reads)
  have stack : (state.behindBrackets body rest).memory.stack = (other.entry rest).memory.stack :=
    resumes.stack.symm
  have sink : (other.entry rest).memory.sink = state.sink := resumes.sink
  refine ⟨⟨(State.stands_brackets holds).2, entry_stands holds', rfl⟩, ?_, ?_, ?_, rfl⟩
  · exact ⟨by simp [stack, Comparison.ofTexts], by simp [stack, Comparison.ofTexts],
      .inl ⟨rfl, by rw [stack]⟩⟩
  · exact resumes.paired few holds
  · rw [sink]
    exact ⟨rfl, [], (List.append_nil _).symm, (List.append_nil _).symm⟩

theorem run_bracketed_keeps (few : state.quotations.size < 2 ^ 31) {after : State}
    {result : Except Fault Unit}
    (returned : engine.run (bracketed body ++ rest) state = .returned result after) :
    after.quotationText? state.handle = some body := by
  obtain ⟨holds, _, arena, _⟩ := run_reads standard atRest returned
  obtain ⟨upshot, final, reads⟩ := Reads.exists standard
    (state.arena.append (bracketed body ++ rest)).2 engine.settings.maxNesting
    (state.behindBrackets body rest)
  have shows := run_brackets_shows standard atRest room blank bare holds reads
  have known : (state.behindBrackets body rest).memory.quotations.get? state.handle =
      some (state.bodySpan body) := by
    rw [State.handle, Quotations.get?_ofNat _ few]
    exact Array.getElem?_push_size
  have found : final.quotations.get? state.handle = some (state.bodySpan body) :=
    (Invariant.knows engine _ _ _).reads reads trivial known
  cases upshot with
  | none =>
    obtain ⟨_, crashed⟩ := shows
    exact absurd (returned.symm.trans crashed) returned_ne_crash
  | some result' =>
    obtain ⟨after', ended, _, _, rfl⟩ := shows
    obtain ⟨rfl, rfl⟩ := returned_inj (returned.symm.trans ended)
    have found : after.quotations.get? state.handle = some (state.bodySpan body) := found
    rw [State.quotationText?, found, arena]
    exact (State.stands_brackets holds).1

end Engine

end Bracketed

end StackScript

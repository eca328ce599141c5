import StackScript.Proofs.Frames
import StackScript.Proofs.Inline
import StackScript.Proofs.Numerals

set_option autoImplicit false

namespace StackScript

-- The words of a quotation of a chain: the first one puts a 7, and the others call the one before
-- them.
def link : Nat → List Text
  | 0 => ["7".toList]
  | index + 1 => [decimal index, "do".toList]

def State.Chained (state : State) (count : Nat) : Prop :=
  ∀ index < count, ∃ text, state.quotationText? (Int32.ofNat index) = some text ∧
    Token.names? text = some (link index)

def Memory.withCells (memory : Memory) (cells : List Int32) : Memory :=
  { memory with stack := { memory.stack with cells := cells } }

section Chains

variable {engine : Engine} {arena : Arena} {memory : Memory} {state : State} {text : Text}
  {index levels offset count value : Nat}

theorem words_script (index : Nat) :
    Text.words (decimal index ++ " do".toList) = link (index + 1) := by
  have apart := Text.words_append_blank (show isBlank ' ' = true from rfl) (decimal index)
    "do".toList
  rw [words_decimal] at apart
  exact apart

theorem Engine.step_decimal (standard : engine.dictionary = .standard)
    (running : memory.halted = false) (cells : List Int32)
    (room : cells.length < memory.stack.capacity)
    (first : (Token.scan offset text).name = decimal value) :
    ∃ behind, engine.step ⟨offset, text, memory.withCells cells⟩ =
      .go ⟨behind, text.afterWord, memory.withCells (Int32.ofNat value :: cells)⟩ := by
  have pushed : (memory.withCells cells).stack.push (numeralValue (decimal value)) =
      .ok (memory.withCells (Int32.ofNat value :: cells)).stack := by
    rw [numeralValue_decimal]
    exact if_pos room
  have valid : engine.dictionary.words.all (fun word => isWordName word.name) = true := by
    rw [standard]
    exact Dictionary.isWordName_standard
  exact ⟨_, engine.step_numeral valid running first (isNumeral_decimal value) pushed⟩

theorem Engine.step_callee (standard : engine.dictionary = .standard)
    (running : memory.halted = false) {handle : Int32} {cells : List Int32} {body : Span}
    (first : (Token.scan offset text).name = "do".toList)
    (known : memory.quotations.get? handle = some body) :
    ∃ behind, engine.step ⟨offset, text, memory.withCells (handle :: cells)⟩ =
      .enter body ⟨behind, text.afterWord, memory.withCells cells⟩ := by
  have popped : (memory.withCells (handle :: cells)).stack.pop =
      .ok (handle, (memory.withCells cells).stack) := rfl
  have found : (memory.withCells (handle :: cells)).quotations.get? handle = some body := known
  have deep : 0 < (memory.withCells (handle :: cells)).stack.depth := Nat.succ_pos _
  refine ⟨(Token.scan offset text).span.stop, ?_⟩
  rw [engine.step_call standard running first deep, Point.call]
  dsimp only [Point.behind]
  rw [popped]
  dsimp only
  rw [found]
  rfl

theorem State.Chained.append (chained : state.Chained count) (script : Text) :
    ∀ index < count, ∃ body text, state.quotations.get? (Int32.ofNat index) = some body ∧
      (state.arena.append script).2.slice? body = some text ∧ text.words = link index := by
  intro index within
  obtain ⟨text, found, words⟩ := chained index within
  obtain ⟨body, known, readable⟩ := Option.bind_eq_some_iff.1 found
  rw [Token.names?_eq_words] at words
  exact ⟨body, text, known, Arena.slice?_append readable script, Option.some_inj.1 words⟩

section Links

variable (standard : engine.dictionary = .standard) (running : memory.halted = false)
  (room : 0 < memory.stack.capacity)
  (chained : ∀ index < count, ∃ body text,
    memory.quotations.get? (Int32.ofNat index) = some body ∧ arena.slice? body = some text ∧
      text.words = link index)

include standard running room chained

theorem Engine.link_enters (offset : Nat) (within : index < count)
    (words : text.words = link (index + 1)) :
    ∃ between body behind rest inner,
      engine.step ⟨offset, text, memory.withCells []⟩ = .go between ∧
      engine.step between = .enter body ⟨behind, rest, memory.withCells []⟩ ∧ rest.words = [] ∧
      arena.slice? body = some inner ∧ inner.words = link index := by
  obtain ⟨first, later⟩ := Token.scan_of_words offset words
  obtain ⟨between, pushes⟩ := Engine.step_decimal standard running [] room first
  obtain ⟨second, last⟩ := Token.scan_of_words between later
  obtain ⟨body, inner, known, readable, words⟩ := chained index within
  obtain ⟨behind, enters⟩ := Engine.step_callee standard running second known
  exact ⟨⟨between, text.afterWord, memory.withCells [Int32.ofNat index]⟩, body, behind,
    text.afterWord.afterWord, inner, pushes, enters, last, readable, words⟩

theorem Reads.of_link (offset : Nat) (within : index ≤ count) (words : text.words = link index)
    (shallow : index ≤ levels) :
    Reads engine arena levels ⟨offset, text, memory.withCells []⟩ (some (.ok ()))
      (memory.withCells [7]) := by
  induction index generalizing levels offset text with
  | zero =>
    have numeral : text.words = [decimal (7 : Nat)] := words
    obtain ⟨first, last⟩ := Token.scan_of_words offset numeral
    obtain ⟨behind, pushes⟩ := Engine.step_decimal standard running [] room first
    exact .go pushes (.of_no_words last)
  | succ index ih =>
    obtain ⟨levels, rfl⟩ : ∃ fewer, levels = fewer + 1 := ⟨levels - 1, by omega⟩
    obtain ⟨between, body, behind, rest, inner, pushes, enters, last, readable, words⟩ :=
      Engine.link_enters standard running room chained offset within words
    have nested := ih body.start (Nat.le_of_lt within) words (Nat.le_of_succ_le_succ shallow)
    exact .go pushes (.enter enters readable nested (.of_no_words last))

theorem Reads.of_deep_link (offset : Nat) (within : index ≤ count) (words : text.words = link index)
    (deep : levels < index) :
    Reads engine arena levels ⟨offset, text, memory.withCells []⟩
      (some (.error (.nestingTooDeep engine.settings.maxNesting))) (memory.withCells []) := by
  induction index generalizing levels offset text with
  | zero => exact absurd deep (Nat.not_lt_zero levels)
  | succ index ih =>
    obtain ⟨between, body, behind, rest, inner, pushes, enters, last, readable, words⟩ :=
      Engine.link_enters standard running room chained offset within words
    refine .go pushes ?_
    cases levels with
    | zero => exact .tooDeep enters
    | succ levels =>
      have nested := ih body.start (Nat.le_of_lt within) words (Nat.lt_of_succ_lt_succ deep)
      exact .leave enters readable nested nofun

end Links

theorem Engine.run_link (standard : engine.dictionary = .standard) (rest : state.AtRest)
    (empty : state.stack.cells = []) (room : 0 < state.stack.capacity)
    (chained : state.Chained count) (words : text.words = link count)
    (holds : state.arena.Holds text) :
    ∃ after, engine.run text state =
        .returned (if count ≤ engine.settings.maxNesting then .ok ()
          else .error (.nestingTooDeep engine.settings.maxNesting)) after ∧
      after.stack.toList = (if count ≤ engine.settings.maxNesting then [7] else []) ∧
      after.AtRest := by
  have start : (state.entry text).memory.withCells [] = (state.entry text).memory := by
    rw [← empty]
    rfl
  have running : (state.entry text).memory.halted = false := rfl
  have chained := chained.append text
  have within := Nat.le_refl count
  by_cases shallow : count ≤ engine.settings.maxNesting
  · have reads := Reads.of_link standard running room chained (state.entry text).offset within words
      shallow
    rw [start] at reads
    obtain ⟨after, returned, atRest, _, memory⟩ := run_shows rest holds reads
    have stack : after.stack = _ := congrArg Memory.stack memory
    rw [if_pos shallow, if_pos shallow]
    exact ⟨after, returned, by rw [stack]; rfl, atRest⟩
  · have reads := Reads.of_deep_link standard running room chained (state.entry text).offset within
      words (Nat.not_le.1 shallow)
    rw [start] at reads
    obtain ⟨after, returned, atRest, _, memory⟩ := run_shows rest holds reads
    have stack : after.stack = state.stack := congrArg Memory.stack memory
    rw [if_neg shallow, if_neg shallow]
    exact ⟨after, returned, by rw [stack, Stack.toList, empty]; rfl, atRest⟩

namespace Engine.Reaches

variable {asks : Action → Prop} {moment later : Moment} {callers : List Caller} {span : Span}
  {waiting : Waiting}

theorem nesting_eq (reaches : engine.Reaches asks moment) :
    moment.state.nesting = moment.callers.length :=
  reaches.sound.above.nesting

theorem readOver_eq (reaches : engine.Reaches asks moment) (span : Span) :
    engine.readOver moment.callers span moment.state =
      if engine.settings.maxNesting < moment.state.nesting then
        .fault (.nestingTooDeep engine.settings.maxNesting) moment.state
      else
        engine.readFrame (engine.readAt (engine.settings.maxNesting - moment.state.nesting)) span
          moment.state := by
  rw [readOver, levels, ← reaches.nesting_eq]
  split
  · next deep =>
    rw [Nat.sub_eq_zero_of_le deep]
    rfl
  · next shallow =>
    rw [Nat.succ_sub (Nat.not_lt.1 shallow)]
    rfl

-- The test on the frames that were left is one on the levels that the state counts.
theorem leads_enter_iff (reaches : engine.Reaches asks ⟨.enter span waiting, callers, state⟩) :
    engine.Leads asks ⟨.enter span waiting, callers, state⟩ later ↔
      later = if engine.settings.maxNesting < state.nesting then
          waiting.resume (.error (.nestingTooDeep engine.settings.maxNesting)) callers state
        else if span.fits then ⟨.read, ⟨state.frame, waiting⟩ :: callers, state.openFrame span⟩
        else ⟨.crashed, callers, state⟩ := by
  have nesting : state.nesting = callers.length := reaches.nesting_eq
  rw [nesting]
  constructor
  · intro leads
    cases leads with
    | tooDeep deep => rw [if_pos deep]
    | enter shallow fits => rw [if_neg (Nat.not_lt.2 shallow), if_pos fits]
    | breakSpan shallow long =>
      rw [if_neg (Nat.not_lt.2 shallow), if_neg (Bool.eq_false_iff.1 long)]
  · rintro rfl
    split
    · next deep => exact .tooDeep deep
    · next shallow =>
      rw [Nat.not_lt] at shallow
      split
      · next fits => exact .enter shallow fits
      · next long => exact .breakSpan shallow (Bool.eq_false_iff.2 long)

end Engine.Reaches

/-- No more frames are open than one above the limit, at any moment of a session. The limit is met
exactly: where the first quotations are a chain, calling the last one of them comes to its end if
there are no more of them than the limit says, and otherwise fails and leaves nothing behind. -/
theorem Engine.nesting_exact (engine : Engine) :
    (∀ {asks : Action → Prop} {moment : Moment}, engine.Reaches asks moment →
      moment.state.nesting ≤ engine.settings.maxNesting + 1) ∧
    ∀ {state : State} {count : Nat}, engine.dictionary = .standard → state.AtRest →
      state.stack.cells = [] → 1 ≤ state.stack.capacity → 1 ≤ count → state.Chained count →
      state.arena.Holds (decimal (count - 1 : Nat) ++ " do".toList) →
        ∃ after, engine.run (decimal (count - 1 : Nat) ++ " do".toList) state =
            .returned (if count ≤ engine.settings.maxNesting then .ok ()
              else .error (.nestingTooDeep engine.settings.maxNesting)) after ∧
          after.stack.toList = (if count ≤ engine.settings.maxNesting then [7] else []) ∧
          after.frame.cursor = 0 := by
  constructor
  · intro asks moment reaches
    rw [reaches.nesting_eq]
    exact reaches.sound.levels
  · intro state count standard rest empty room positive chained holds
    have words : Text.words (decimal (count - 1 : Nat) ++ " do".toList) = link count := by
      rw [words_script, Nat.sub_add_cancel positive]
    obtain ⟨after, returned, cells, atRest⟩ :=
      run_link standard rest empty room chained words holds
    exact ⟨after, returned, cells, congrArg Frame.cursor atRest.frame⟩

theorem Engine.nesting_exact_links :
    (∃ moment, (Engine.mk .standard ⟨9, 1⟩).Reaches (fun _ => True) moment ∧
      moment.state.nesting = 1 ∧ moment.state.nesting ≤ 2) ∧
    (∃ after, (Engine.mk .standard ⟨9, 1⟩).run "0 do".toList
        (State.resting ⟨[], 9⟩ ⟨"[ 7 ] [ 0 do ]".toList⟩ ⟨#[⟨1, 3⟩, ⟨7, 6⟩]⟩) = .done () after ∧
      after.stack.toList = [7] ∧ after.frame.cursor = 0) ∧
    ∃ after, (Engine.mk .standard ⟨9, 1⟩).run "1 do".toList
        (State.resting ⟨[], 9⟩ ⟨"[ 7 ] [ 0 do ]".toList⟩ ⟨#[⟨1, 3⟩, ⟨7, 6⟩]⟩) =
        .fault (.nestingTooDeep 1) after ∧
      after.stack.toList = [] ∧ after.frame.cursor = 0 := by
  generalize stated : State.resting ⟨[], 9⟩ ⟨"[ 7 ] [ 0 do ]".toList⟩ ⟨#[⟨1, 3⟩, ⟨7, 6⟩]⟩ = state
  have rest : state.AtRest := by
    rw [← stated]
    exact State.resting_atRest (by decide)
  have chained : state.Chained 2 := by
    intro index within
    rw [← stated]
    match index, within with
    | 0, _ => exact ⟨" 7 ".toList, by decide, by decide⟩
    | 1, _ => exact ⟨" 0 do ".toList, by decide, by decide⟩
  have empty : state.stack.cells = [] ∧ 1 ≤ state.stack.capacity := by
    rw [← stated]
    decide
  have holds : state.arena.Holds "0 do".toList ∧ state.arena.Holds "1 do".toList := by
    rw [← stated]
    decide
  obtain ⟨levels, meets⟩ := (Engine.mk .standard ⟨9, 1⟩).nesting_exact
  have started : (Engine.mk .standard ⟨9, 1⟩).start? .unlimited = some _ := rfl
  have asked : (Engine.mk .standard ⟨9, 1⟩).Reaches (fun _ => True)
      ⟨.ask .host 0 (.run "7".toList), [], _⟩ := .next (.start started) (.request trivial)
  have opened := (asked.next (.await rfl)).next (.enter (by decide) (by decide))
  have first := @meets state 1 rfl rest empty.1 empty.2 (by decide)
    (fun index within => chained index (Nat.lt_of_lt_of_le within (by decide))) holds.1
  have second := @meets state 2 rfl rest empty.1 empty.2 (by decide) chained holds.2
  exact ⟨⟨_, opened, rfl, levels opened⟩, first, second⟩

end Chains

end StackScript

import Mathlib.Data.List.Forall2
import Mathlib.Data.List.Nodup
import StackScript.Proofs.Nesting
import StackScript.Proofs.Quoting

set_option autoImplicit false

namespace StackScript

namespace Quotations

def captureAll (quotations : Quotations) : List Span → List Int32 × Quotations
  | [] => ([], quotations)
  | body :: rest =>
    let (handle, more) := quotations.capture body
    let (handles, last) := more.captureAll rest
    (handle :: handles, last)

/-- What handles should be, from when there are no quotations to when they are cleared. No two
bodies are given the same one, each one stands for its body from then on, whatever is captured
later, and a cell that was not given stands for nothing. -/
structure Faithful (bodies : List Span) : Prop where
  distinct : (empty.captureAll bodies).1.Nodup
  stands : ∀ later, List.Forall₂
    (fun handle body => ((empty.captureAll bodies).2.captureAll later).2.get? handle = some body)
    (empty.captureAll bodies).1 bodies
  unknown : ∀ handle ∉ (empty.captureAll bodies).1,
    (empty.captureAll bodies).2.get? handle = none

section Handles

variable {quotations : Quotations} {bodies : List Span} {body : Span} {handle : Int32}

theorem captureAll_cons (quotations : Quotations) (body : Span) (bodies : List Span) :
    quotations.captureAll (body :: bodies) =
      (Int32.ofNat quotations.size :: ((quotations.capture body).2.captureAll bodies).1,
        ((quotations.capture body).2.captureAll bodies).2) := rfl

theorem size_capture (quotations : Quotations) (body : Span) :
    (quotations.capture body).2.size = quotations.size + 1 :=
  Array.size_push _

theorem captureAll_snd (quotations : Quotations) (bodies : List Span) :
    (quotations.captureAll bodies).2 = { bodies := quotations.bodies ++ bodies.toArray } := by
  induction bodies generalizing quotations with
  | nil => exact congrArg Quotations.mk Array.append_empty.symm
  | cons body bodies ih =>
    rw [captureAll_cons, ih]
    simp [capture]

theorem size_captureAll (quotations : Quotations) (bodies : List Span) :
    (quotations.captureAll bodies).2.size = quotations.size + bodies.length := by
  rw [captureAll_snd]
  exact Array.size_append

theorem captureAll_fst (quotations : Quotations) (bodies : List Span) :
    (quotations.captureAll bodies).1 =
      (List.range' quotations.size bodies.length).map Int32.ofNat := by
  induction bodies generalizing quotations with
  | nil => rfl
  | cons body bodies ih =>
    rw [captureAll_cons, ih, size_capture]
    rfl

theorem get?_of_neg (negative : handle < 0) : quotations.get? handle = none :=
  if_pos negative

theorem get?_empty (handle : Int32) : empty.get? handle = none := by
  rw [get?]
  split
  · rfl
  · exact Array.getElem?_empty

theorem get?_capture (few : quotations.size < 2 ^ 31) (body : Span) :
    (quotations.capture body).2.get? (Int32.ofNat quotations.size) = some body := by
  rw [get?_ofNat _ few]
  exact Array.getElem?_push_size

theorem get?_captureAll (known : quotations.get? handle = some body) (later : List Span) :
    (quotations.captureAll later).2.get? handle = some body := by
  rw [captureAll_snd]
  exact get?_append known later.toArray

theorem get?_captureAll_of_not_mem (other : handle ∉ (quotations.captureAll bodies).1) :
    (quotations.captureAll bodies).2.get? handle = quotations.get? handle := by
  induction bodies generalizing quotations with
  | nil => rfl
  | cons body bodies ih =>
    rw [captureAll_cons, List.mem_cons, not_or] at other
    rw [captureAll_cons, ih other.2]
    exact get?_capture_of_ne other.1 body

theorem captureAll_stands (few : quotations.size + bodies.length ≤ 2 ^ 31) (later : List Span) :
    List.Forall₂
      (fun handle body =>
        ((quotations.captureAll bodies).2.captureAll later).2.get? handle = some body)
      (quotations.captureAll bodies).1 bodies := by
  induction bodies generalizing quotations with
  | nil => exact .nil
  | cons body bodies ih =>
    rw [List.length_cons] at few
    have first := get?_capture (show quotations.size < 2 ^ 31 by omega) body
    have fewer : (quotations.capture body).2.size + bodies.length ≤ 2 ^ 31 := by
      rw [size_capture]
      omega
    exact .cons (get?_captureAll (get?_captureAll first bodies) later) (ih fewer)

theorem length_le_of_stands
    (stands : List.Forall₂ (fun handle body => (empty.captureAll bodies).2.get? handle = some body)
      (empty.captureAll bodies).1 bodies) : bodies.length ≤ 2 ^ 31 := by
  by_contra many
  rw [Nat.not_le] at many
  have given : 2 ^ 31 < (empty.captureAll bodies).1.length := stands.length_eq ▸ many
  -- The first number that is too large for a cell is read as a negative one.
  have handle : (empty.captureAll bodies).1.get ⟨2 ^ 31, given⟩ = Int32.ofNat (2 ^ 31) := by
    simp [captureAll_fst, empty, size]
  have found := stands.get given many
  rw [handle, get?_of_neg (by decide)] at found
  cases found

theorem ofNat_inj {index other : Nat} (fits : index < 2 ^ 32) (fits' : other < 2 ^ 32)
    (same : Int32.ofNat index = Int32.ofNat other) : index = other := by
  have bits : index % 2 ^ 32 = other % 2 ^ 32 :=
    congrArg (fun cell : Int32 => cell.toBitVec.toNat) same
  rwa [Nat.mod_eq_of_lt fits, Nat.mod_eq_of_lt fits'] at bits

theorem captureAll_nodup_iff (bodies : List Span) :
    (empty.captureAll bodies).1.Nodup ↔ bodies.length ≤ 2 ^ 32 := by
  have handles : (empty.captureAll bodies).1 = (List.range bodies.length).map Int32.ofNat := by
    rw [captureAll_fst, List.range_eq_range']
    rfl
  rw [handles]
  constructor
  · intro distinct
    by_contra many
    rw [Nat.not_le] at many
    -- The handle that was given first is given again.
    have again : Int32.ofNat 0 = Int32.ofNat (2 ^ 32) := by decide
    cases List.inj_on_of_nodup_map distinct (List.mem_range.2 (Nat.zero_lt_of_lt many))
      (List.mem_range.2 many) again
  · intro few
    refine List.Nodup.map_on (fun index inside other inside' same => ?_) List.nodup_range
    exact ofNat_inj (Nat.lt_of_lt_of_le (List.mem_range.1 inside) few)
      (Nat.lt_of_lt_of_le (List.mem_range.1 inside') few) same

theorem faithful_iff (bodies : List Span) : Faithful bodies ↔ bodies.length ≤ 2 ^ 31 := by
  refine ⟨fun faithful => length_le_of_stands (faithful.stands []), fun few => ?_⟩
  have start : empty.size + bodies.length ≤ 2 ^ 31 := by
    rwa [show empty.size = 0 from rfl, Nat.zero_add]
  refine ⟨(captureAll_nodup_iff bodies).2 (Nat.le_trans few (by decide)),
    captureAll_stands start, fun handle other => ?_⟩
  rw [get?_captureAll_of_not_mem other, get?_empty]

end Handles

end Quotations

-- The texts of quotations of which the first one captures another, and the others call the one
-- before them twice.
def doubler : Nat → Text
  | 0 => "[ ] drop".toList
  | index + 1 => ' ' :: (decimal index ++ " do ".toList ++ decimal index ++ " do ".toList)

def doublings : (index count : Nat) → Text
  | index, 0 => decimal index ++ " do".toList
  | index, count + 1 => bracketed (doubler (index + 1)) ++ doublings (index + 1) count

def Quotations.Doubles (quotations : Quotations) (arena : Arena) (count : Nat) : Prop :=
  ∀ index ≤ count, ∃ body, quotations.get? (Int32.ofNat index) = some body ∧
    arena.slice? body = some (doubler index)

def Memory.captureAll (memory : Memory) (bodies : List Span) : Memory :=
  { memory with quotations := (memory.quotations.captureAll bodies).2 }

section Doublings

variable {engine : Engine} {arena : Arena} {memory between final : Memory} {state : State}
  {quotations : Quotations} {text inner : Text} {body : Span} {upshot : Upshot}
  {index count levels offset : Nat}

theorem doubler_succ (index : Nat) : doubler (index + 1) =
    ' ' :: (decimal index ++ " do ".toList ++ decimal index ++ " do ".toList) := rfl

theorem words_called (index : Nat) (rest : Text) :
    Text.words (decimal index ++ " do ".toList ++ rest) =
      decimal index :: "do".toList :: rest.words := by
  have split : decimal index ++ " do ".toList ++ rest =
      decimal index ++ ' ' :: ("do".toList ++ ' ' :: rest) := List.append_assoc _ _ _
  have name : Text.words "do".toList = ["do".toList] :=
    Text.words_of_nonblank (by decide) (by simp [isBlank])
  rw [split, Text.words_append_blank rfl, Text.words_append_blank rfl, words_decimal, name]
  rfl

theorem words_doubler (index : Nat) :
    (doubler (index + 1)).words = [decimal index, "do".toList, decimal index, "do".toList] := by
  have last := words_called index []
  rw [List.append_nil, Text.words_nil] at last
  rw [doubler_succ, Text.words_cons_blank rfl, List.append_assoc, words_called, last]

theorem bare_doubler (index : Nat) : ']' ∉ doubler (index + 1) := by
  have digits : ']' ∉ decimal index := by
    intro member
    cases isDigit_decimal member
  have called : ']' ∉ " do ".toList := by decide
  rw [doubler_succ]
  simp only [List.mem_cons, List.mem_append, digits, called, or_false]
  decide

theorem Memory.captureAll_append (memory : Memory) (bodies more : List Span) :
    (memory.captureAll bodies).captureAll more = memory.captureAll (bodies ++ more) := by
  simp only [captureAll, Quotations.captureAll_snd, Array.append_assoc, List.append_toArray]

namespace Quotations.Doubles

theorem captureAll (doubles : quotations.Doubles arena count) (bodies : List Span) :
    (quotations.captureAll bodies).2.Doubles arena count := by
  intro index within
  obtain ⟨body, known, readable⟩ := doubles index within
  exact ⟨body, get?_captureAll known bodies, readable⟩

theorem append (doubles : quotations.Doubles arena count) (script : Text) :
    quotations.Doubles (arena.append script).2 count := by
  intro index within
  obtain ⟨body, known, readable⟩ := doubles index within
  exact ⟨body, known, Arena.slice?_append readable script⟩

theorem succ (doubles : quotations.Doubles arena index) (size : quotations.size = index + 1)
    (few : index + 1 < 2 ^ 31) (readable : arena.slice? body = some (doubler (index + 1))) :
    (quotations.capture body).2.Doubles arena (index + 1) := by
  intro number within
  rcases Nat.lt_or_eq_of_le within with earlier | rfl
  · exact doubles.captureAll [body] number (Nat.le_of_lt_succ earlier)
  · rw [← size] at few ⊢
    exact ⟨body, get?_capture few body, size ▸ readable⟩

end Quotations.Doubles

section Reading

variable (standard : engine.dictionary = .standard) (running : memory.halted = false)

include standard running

theorem Engine.step_drop {cell : Int32} {cells : List Int32}
    (first : (Token.scan offset text).name = "drop".toList) :
    engine.step ⟨offset, text, memory.withCells (cell :: cells)⟩ =
      .go ⟨(Token.scan offset text).span.stop, text.afterWord, memory.withCells cells⟩ := by
  have meaning : Dictionary.standard.meaning "drop".toList =
      .word (Dictionary.builtin "drop" 1 0 .drop) := rfl
  have deep : ¬ (memory.withCells (cell :: cells)).stack.depth <
      (Dictionary.builtin "drop" 1 0 .drop).inputs := Nat.not_lt.2 (Nat.le_add_left 1 _)
  have room : ¬ (memory.withCells (cell :: cells)).stack.room <
      (Dictionary.builtin "drop" 1 0 .drop).growth := Nat.not_lt_zero _
  have running : (memory.withCells (cell :: cells)).halted = false := running
  have goesOn : (Builtin.drop == Builtin.halt) = false := rfl
  rw [engine.step_word running first (by decide), standard, meaning, Point.obey]
  dsimp only [Point.dispatch, Point.behind]
  rw [if_neg deep, if_neg room]
  show Point.replace _ .drop = _
  simp [Point.replace, Memory.withCells, Builtin.inputs, Builtin.refuses, Builtin.printed,
    Builtin.effect, Text.toBytes, Sink.write_nil, goesOn]

theorem Reads.of_called {later : List Text} (room : memory.stack.depth < memory.stack.capacity)
    (words : text.words = decimal index :: "do".toList :: later)
    (known : memory.quotations.get? (Int32.ofNat index) = some body)
    (readable : arena.slice? body = some inner)
    (nested : Reads engine arena levels ⟨body.start, inner, memory⟩ (some (.ok ())) between)
    (behind : ∀ offset rest, Text.words rest = later →
      Reads engine arena (levels + 1) ⟨offset, rest, between⟩ upshot final) :
    Reads engine arena (levels + 1) ⟨offset, text, memory⟩ upshot final := by
  obtain ⟨first, more⟩ := Token.scan_of_words offset words
  obtain ⟨next, numeral⟩ := Engine.step_decimal standard running _ room first
  obtain ⟨second, last⟩ := Token.scan_of_words next more
  obtain ⟨_, enters⟩ := Engine.step_callee standard running second known
  exact .go numeral (.enter enters readable nested (behind _ _ last))

theorem Reads.of_doubler_zero (room : memory.stack.depth < memory.stack.capacity) (offset : Nat) :
    Reads engine arena levels ⟨offset, doubler 0, memory⟩ (some (.ok ()))
      (memory.captureAll [⟨offset + 1, 1⟩]) := by
  have quotes : engine.step ⟨offset, doubler 0, memory⟩ =
      .go ⟨offset + 1 + 1 + 1, " drop".toList, memory.quote ⟨offset + 1, 1⟩⟩ :=
    @Engine.step_bracketed engine memory [' '] " drop".toList offset standard running room rfl
      (by decide)
  have drops := @Engine.step_drop engine (memory.captureAll [⟨offset + 1, 1⟩]) " drop".toList
    (offset + 1 + 1 + 1) standard running (Int32.ofNat memory.quotations.size) memory.stack.cells
    rfl
  exact .go quotes (.go drops (.of_no_words rfl))

theorem Reads.of_doubler (room : memory.stack.depth < memory.stack.capacity)
    (doubles : memory.quotations.Doubles arena count) (within : index ≤ count)
    (shallow : index ≤ levels) (offset : Nat) :
    ∃ bodies : List Span, bodies.length = 2 ^ index ∧
      Reads engine arena levels ⟨offset, doubler index, memory⟩ (some (.ok ()))
        (memory.captureAll bodies) := by
  induction index generalizing memory levels offset with
  | zero => exact ⟨_, rfl, .of_doubler_zero standard running room offset⟩
  | succ index ih =>
    obtain ⟨levels, rfl⟩ : ∃ fewer, levels = fewer + 1 := ⟨levels - 1, by omega⟩
    have within := Nat.le_of_succ_le within
    have shallow := Nat.le_of_succ_le_succ shallow
    obtain ⟨body, known, readable⟩ := doubles index within
    obtain ⟨first, length, reads⟩ := ih running room doubles within shallow body.start
    obtain ⟨second, length', reads'⟩ := @ih (memory.captureAll first) levels running room
      (doubles.captureAll first) within shallow body.start
    have total : (first ++ second).length = 2 ^ (index + 1) := by
      rw [List.length_append, length, length', Nat.pow_succ, Nat.mul_two]
    refine ⟨first ++ second, total, ?_⟩
    rw [← Memory.captureAll_append]
    -- The second call is read where the first one has captured its quotations already.
    refine .of_called standard running room (words_doubler index) known readable reads
      fun _ _ more => ?_
    have known := Quotations.get?_captureAll known first
    have running : (memory.captureAll first).halted = false := running
    exact .of_called standard running room more known readable reads'
      fun _ _ last => .of_no_words last

theorem Reads.of_doublings (size : memory.quotations.size = index + 1)
    (doubles : memory.quotations.Doubles arena index)
    (stands : arena.Stands offset (doublings index count)) (few : index + count < 2 ^ 31)
    (room : memory.stack.depth + count < memory.stack.capacity)
    (shallow : index + count < levels) :
    ∃ final, Reads engine arena levels ⟨offset, doublings index count, memory⟩ (some (.ok ()))
        final ∧
      final.quotations.size = index + count + 1 + 2 ^ (index + count) := by
  -- By induction on the quotations that are still to be captured.
  induction count generalizing index memory offset with
  | zero =>
    obtain ⟨levels, rfl⟩ : ∃ fewer, levels = fewer + 1 := ⟨levels - 1, by omega⟩
    obtain ⟨body, known, readable⟩ := doubles index (Nat.le_refl index)
    obtain ⟨bodies, length, nested⟩ := Reads.of_doubler standard running room doubles
      (Nat.le_refl index) (Nat.le_of_lt_succ shallow) body.start
    have words : Text.words (doublings index 0) = [decimal index, "do".toList] :=
      words_script index
    refine ⟨memory.captureAll bodies, .of_called standard running room words known readable nested
      fun _ _ last => .of_no_words last, ?_⟩
    rw [Memory.captureAll, Quotations.size_captureAll, size, length]
    rfl
  | succ count ih =>
    let body : Span := ⟨offset + 1, (doubler (index + 1)).size⟩
    have quotes : engine.step ⟨offset, doublings index (count + 1), memory⟩ =
        .go ⟨body.stop + 1, doublings (index + 1) count, memory.quote body⟩ :=
      engine.step_bracketed standard running (by omega) rfl (bare_doubler index)
    have parts : doublings index (count + 1) =
        ['['] ++ (doubler (index + 1) ++ ']' :: doublings (index + 1) count) := by
      simp [doublings, bracketed]
    rw [parts] at stands
    have inner := stands.split.2
    have doubles := doubles.succ size (show index + 1 < 2 ^ 31 by omega) inner.split.1
    have larger : (memory.quote body).quotations.size = index + 1 + 1 :=
      (Quotations.size_capture _ body).trans (congrArg (· + 1) size)
    have deeper : (memory.quote body).stack.depth = memory.stack.depth + 1 := rfl
    have room : (memory.quote body).stack.depth + count < memory.stack.capacity := by omega
    have same : index + 1 + count = index + (count + 1) := by omega
    rw [← same] at few shallow ⊢
    obtain ⟨final, reads, total⟩ := @ih (memory.quote body) _ _ running larger doubles
      inner.bracket few room shallow
    exact ⟨final, .go quotes reads, total⟩

end Reading

namespace Engine

theorem run_doublings (standard : engine.dictionary = .standard) (rest : state.AtRest)
    (size : state.quotations.size = 1) (doubles : state.quotations.Doubles state.arena 0)
    (few : count < 2 ^ 31) (room : state.stack.depth + count < state.stack.capacity)
    (shallow : count < engine.settings.maxNesting) (holds : state.arena.Holds (doublings 0 count)) :
    ∃ after, engine.run (doublings 0 count) state = .done () after ∧
      after.quotations.size = count + 1 + 2 ^ count := by
  have shallow : 0 + count < engine.settings.maxNesting := by rwa [Nat.zero_add]
  have reads := @Reads.of_doublings engine _ (state.entry (doublings 0 count)).memory 0 count _ _
    standard rfl size (doubles.append _) (entry_stands holds) (by rwa [Nat.zero_add]) room shallow
  rw [Nat.zero_add] at reads
  obtain ⟨final, reads, total⟩ := reads
  obtain ⟨after, returned, _, _, rfl⟩ := run_shows rest holds reads
  exact ⟨after, returned, total⟩

theorem act_run {script : Text} {after : State}
    (returned : engine.run script state = .done () after) :
    engine.act (.run script) state = .done .nothing after := by
  have acts : engine.act (.run script) state =
      ((engine.run script state).bind fun _ => .done ((.nothing : Answer), (0 : Int))).bind
        fun told => .done told.1 := rfl
  rw [acts, returned]
  rfl

theorem session_cons {action : Action} {answer : Answer} {after : State}
    (acts : engine.act action state.hush = .done answer after) (actions : List Action) :
    engine.session state (action :: actions) =
      .returned (.ok answer) after :: engine.session after actions := by
  rw [session, turn, acts]

theorem act_quotationSpan_of_none {handle : Int32} (lost : state.quotations.get? handle = none) :
    engine.act (.quotationSpan (some handle.toInt)) state = .done .nothing state := by
  simp [act, answer, prepare, Due.settle, Step.quotation?, lost]

theorem act_capture_lost (many : 2 ^ 31 ≤ state.quotations.size)
    (few : state.quotations.size < 2 ^ 32) (body : Span) :
    ∃ after, engine.act (.capture body) state =
        .done (.number (Int32.ofNat state.quotations.size).toInt) after ∧
      after.quotations = (state.quotations.capture body).2 ∧
      after.quotations.get? (Int32.ofNat state.quotations.size) = none := by
  have number : (Int32.ofNat state.quotations.size).toInt =
      Int.bmod state.quotations.size (2 ^ 32) := Int32.toInt_ofNat'
  have negative : Int32.ofNat state.quotations.size < 0 := by
    rw [Int32.lt_iff_toInt_lt, number, Int32.toInt_zero, Int.bmod_def]
    omega
  exact ⟨{ state with quotations := (state.quotations.capture body).2 }, rfl, rfl,
    Quotations.get?_of_neg negative⟩

end Engine

end Doublings

namespace Quotations

/-- Handles are what they should be as long as no more than 2 ^ 31 quotations are captured: the next
handle stands for nothing. Behind 2 ^ 32 quotations handles are given again. Cells that were not
given stand for nothing in any case. -/
theorem handles_faithful_iff (bodies : List Span) :
    (Faithful bodies ↔ bodies.length ≤ 2 ^ 31) ∧
    ((empty.captureAll bodies).1.Nodup ↔ bodies.length ≤ 2 ^ 32) ∧
    ∀ handle ∉ (empty.captureAll bodies).1, (empty.captureAll bodies).2.get? handle = none := by
  refine ⟨faithful_iff bodies, captureAll_nodup_iff bodies, fun handle other => ?_⟩
  rw [get?_captureAll_of_not_mem other, get?_empty]

theorem handles_faithful_two :
    Faithful [⟨2, 5⟩, ⟨10, 1⟩] ∧ (empty.captureAll [⟨2, 5⟩, ⟨10, 1⟩]).1 = [0, 1] ∧
    (empty.captureAll [⟨2, 5⟩, ⟨10, 1⟩]).2.get? 2 = none ∧
    (empty.captureAll [⟨2, 5⟩, ⟨10, 1⟩]).2.get? (-1) = none := by
  obtain ⟨faithful, _, unknown⟩ := handles_faithful_iff [⟨2, 5⟩, ⟨10, 1⟩]
  exact ⟨faithful.2 (by decide), rfl, unknown 2 (by decide), unknown (-1) (by decide)⟩

-- A session in which a quotation is captured that cannot be found. The host captures the first of
-- the quotations that double, and the script 31 others.
theorem not_faithful_doublings : ∃ start loaded first doubled full last : State,
    (Engine.mk .standard .default).start? .unlimited = some start ∧
    (Engine.mk .standard .default).session start
        [.run "bye [ ] drop".toList, .capture ⟨4, 8⟩, .run (doublings 0 31), .capture ⟨4, 8⟩,
          .quotationSpan (some (-2147483616))] =
      [.returned (.ok .nothing) loaded, .returned (.ok (.number 0)) first,
        .returned (.ok .nothing) doubled, .returned (.ok (.number (-2147483616))) full,
        .returned (.ok .nothing) last] ∧
    ¬ Faithful last.quotations.bodies.toList := by
  obtain ⟨start, loaded, first, started, loads, captures, rest, stack, arena, quotations⟩ :
      ∃ start loaded first : State,
        (Engine.mk .standard .default).start? .unlimited = some start ∧
        (Engine.mk .standard .default).act (.run "bye [ ] drop".toList) start.hush =
          .done .nothing loaded ∧
        (Engine.mk .standard .default).act (.capture ⟨4, 8⟩) loaded.hush =
          .done (.number 0) first ∧
        first.hush.AtRest ∧ first.hush.stack = ⟨[], 100⟩ ∧
        first.hush.arena = ⟨"bye [ ] drop".toList⟩ ∧ first.hush.quotations = ⟨#[⟨4, 8⟩]⟩ :=
    ⟨_, _, _, rfl, rfl, rfl, ⟨rfl, rfl, rfl, Nat.zero_le _⟩, rfl, rfl, rfl⟩
  have doubles : first.hush.quotations.Doubles first.hush.arena 0 := by
    rintro index ⟨⟩
    rw [arena, quotations]
    exact ⟨⟨4, 8⟩, rfl, rfl⟩
  have holds : first.hush.arena.Holds (doublings 0 31) := by
    rw [arena]
    decide +kernel
  obtain ⟨doubled, returned, size⟩ := @Engine.run_doublings (Engine.mk .standard .default)
    first.hush 31 rfl rest (by rw [quotations]; rfl) doubles (by decide) (by rw [stack]; decide)
    (by decide) holds
  have total : doubled.hush.quotations.size = 2 ^ 31 + 32 := size
  obtain ⟨full, given, captured, lost⟩ := @Engine.act_capture_lost (Engine.mk .standard .default)
    doubled.hush (by omega) (by omega) ⟨4, 8⟩
  rw [total] at given lost
  have finds : (Engine.mk .standard .default).act (.quotationSpan (some _)) full.hush = _ :=
    Engine.act_quotationSpan_of_none lost
  have number : (Int32.ofNat (2 ^ 31 + 32)).toInt = -2147483616 := by decide
  rw [number] at given finds
  refine ⟨start, loaded, first, doubled, full, full.hush, started, ?_, ?_⟩
  · rw [Engine.session_cons loads, Engine.session_cons captures,
      Engine.session_cons (Engine.act_run returned), Engine.session_cons given,
      Engine.session_cons finds]
    rfl
  · have larger : full.hush.quotations.size = 2 ^ 31 + 32 + 1 := by
      rw [← total, ← size_capture, ← captured]
      rfl
    have length : full.hush.quotations.bodies.toList.length = 2 ^ 31 + 32 + 1 := larger
    rw [faithful_iff, length]
    decide

end Quotations

end StackScript

import Mathlib.Data.List.TakeWhile
import Mathlib.Data.Nat.Digits.Defs
import StackScript.Proofs.Extension

set_option autoImplicit false

namespace StackScript

theorem numeralValue_eq (word : Text) :
    numeralValue word = Int32.ofNat (Nat.ofDigitChars 10 (word.takeWhile Char.isDigit) 0) := by
  have folded (digits : Text) (value : Nat) :
      digits.foldl (fun value digit => value * 10 + Int32.ofNat (digitValue digit))
        (Int32.ofNat value) = Int32.ofNat (Nat.ofDigitChars 10 digits value) := by
    induction digits generalizing value with
    | nil => rfl
    | cons digit digits ih =>
      have first : Int32.ofNat value * 10 + Int32.ofNat (digitValue digit) =
          Int32.ofNat (10 * value + digitValue digit) := by
        rw [Nat.mul_comm, Int32.ofNat_add, Int32.ofNat_mul]
        rfl
      rw [List.foldl_cons, first, ih]
      rfl
  exact folded _ 0

theorem ofDigitChars_eq_ofDigits (digits : Text) (value : Nat) :
    Nat.ofDigitChars 10 digits value =
      Nat.ofDigits 10 (digits.map digitValue).reverse + 10 ^ digits.length * value := by
  induction digits generalizing value with
  | nil => simp [Nat.ofDigitChars]
  | cons digit digits ih =>
    have first : Nat.ofDigits 10 [digitValue digit] = digitValue digit := Nat.ofDigits_singleton ..
    rw [Nat.ofDigitChars_cons, ih, List.map_cons, List.reverse_cons, Nat.ofDigits_append, first,
      List.length_reverse, List.length_map, List.length_cons, Nat.pow_succ, ← digitValue]
    ring

theorem toInt_numeralValue (word : Text) :
    (numeralValue word).toInt = Int.bmod
      (Nat.ofDigits 10 ((word.takeWhile Char.isDigit).map digitValue).reverse : Nat)
      (2 ^ 32) := by
  have size : Int32.size = 2 ^ 32 := by decide
  rw [numeralValue_eq, ofDigitChars_eq_ofDigits, Nat.mul_zero, Nat.add_zero, Int32.toInt_ofNat',
    size]

theorem numeralValue_run (word : Text) {rest : Text}
    (ends : ∀ char ∈ rest.head?, char.isDigit = false) :
    numeralValue (word.takeWhile Char.isDigit ++ rest) = numeralValue word := by
  have behind : rest.takeWhile Char.isDigit = [] := by
    cases rest with
    | nil => rfl
    | cons char rest => exact List.takeWhile_cons_of_neg (by simp [ends char rfl])
  have digits := List.all_eq_true.1 (List.all_takeWhile (p := Char.isDigit) (l := word))
  rw [numeralValue, List.takeWhile_append_of_pos digits, behind, List.append_nil]
  rfl

theorem numeralValue_zeros (zeros : Nat) (word : Text) :
    numeralValue (List.replicate zeros '0' ++ word) = numeralValue word := by
  induction zeros with
  | zero => rfl
  | succ zeros ih => exact ih

section Decimals

variable {value : Nat}

theorem isDigit_decimal {char : Char} (member : char ∈ decimal value) : char.isDigit = true :=
  Nat.isDigit_of_mem_toDigits (by decide) (by decide) member

theorem decimal_ne_nil (value : Nat) : decimal value ≠ [] :=
  Nat.toDigits_ne_nil

theorem isBlank_of_isDigit {char : Char} (digit : char.isDigit = true) : isBlank char = false := by
  by_contra blank
  simp only [Bool.not_eq_false, isBlank, Bool.or_eq_true, beq_iff_eq] at blank
  rcases blank with (((rfl | rfl) | rfl) | rfl) | rfl <;> cases digit

theorem words_decimal (value : Nat) : Text.words (decimal value) = [decimal value] :=
  Text.words_of_nonblank (decimal_ne_nil value) fun _ member =>
    isBlank_of_isDigit (isDigit_decimal member)

theorem isNumeral_decimal (value : Nat) : isNumeral (decimal value) = true := by
  cases digits : decimal value with
  | nil => exact absurd digits (decimal_ne_nil value)
  | cons first rest =>
    have digit : first.isDigit = true := @isDigit_decimal value first (by simp [digits])
    simp [isNumeral, digit]

theorem numeralValue_decimal (value : Nat) : numeralValue (decimal value) = Int32.ofNat value := by
  have whole : (decimal value).takeWhile Char.isDigit = decimal value :=
    List.takeWhile_eq_self_iff.2 fun _ => isDigit_decimal
  rw [numeralValue_eq, whole]
  exact congrArg Int32.ofNat Nat.ofDigitChars_ten_toDigits

theorem exists_number {cell : Int32} (positive : 0 ≤ cell) :
    ∃ number : Nat, cell.toInt = number ∧ Int32.ofNat number = cell := by
  have bound := Int32.le_iff_toInt_le.1 positive
  obtain ⟨number, same⟩ := Int.eq_ofNat_of_zero_le bound
  refine ⟨number, same, ?_⟩
  rw [← Int32.ofInt_toInt cell, same]
  rfl

end Decimals

section Numerals

variable {dictionary : Dictionary} {name text : Text} {engine : Engine} {memory : Memory}
  {stack : Stack} {state : State} {offset : Nat}

namespace Dictionary

theorem find?_of_isNumeral
    (valid : dictionary.words.all (fun word => isWordName word.name) = true)
    (numeral : isNumeral name = true) : dictionary.find? name = none := by
  apply List.find?_eq_none.2
  intro word member same
  have named := isNumeral_of_isWordName (List.all_eq_true.1 valid word member)
  rw [beq_iff_eq.1 same, numeral] at named
  cases named

theorem meaning_of_isNumeral
    (valid : dictionary.words.all (fun word => isWordName word.name) = true)
    (numeral : isNumeral name = true) : dictionary.meaning name = .number (numeralValue name) := by
  rw [meaning, find?_of_isNumeral valid numeral, if_pos numeral]

theorem isWordName_built {start : Dictionary} (kind : start = .empty ∨ start = .standard)
    (words : List Word) :
    (start.registerAll words).1.words.all (fun word => isWordName word.name) = true := by
  apply isWordName_registerAll
  rcases kind with rfl | rfl
  · rfl
  · exact isWordName_standard

end Dictionary

theorem Engine.step_numeral
    (valid : engine.dictionary.words.all (fun word => isWordName word.name) = true)
    (running : memory.halted = false) (first : (Token.scan offset text).name = name)
    (numeral : isNumeral name = true) (pushed : memory.stack.push (numeralValue name) = .ok stack) :
    engine.step ⟨offset, text, memory⟩ =
      .go ⟨(Token.scan offset text).span.stop, text.afterWord, { memory with stack := stack }⟩ := by
  have nonempty : name ≠ [] := by
    rintro rfl
    cases numeral
  rw [engine.step_word running first nonempty, Dictionary.meaning_of_isNumeral valid numeral,
    Point.obey, Point.push]
  dsimp only [Point.behind]
  rw [pushed]

theorem Engine.run_numeral
    (valid : engine.dictionary.words.all (fun word => isWordName word.name) = true)
    (words : text.words = [name]) (numeral : isNumeral name = true)
    (waits : state.resetPending = false) (room : state.stack.depth < state.stack.capacity)
    (holds : state.arena.Holds text) (levels : Nat) :
    ∃ after, Step.run (engine.readAt (levels + 1)) text state = .done () after ∧
      after.stack.toList = state.stack.toList ++ [numeralValue name] ∧
      after.memory = { state.memory with stack := after.stack, halted := false } ∧
      after.frame = state.frame ∧ after.nesting = state.nesting := by
  obtain ⟨first, blank⟩ := Token.scan_of_words (state.entry text).offset words
  let pushed : Stack := { state.stack with cells := numeralValue name :: state.stack.cells }
  have fits : (state.entry text).memory.stack.push (numeralValue name) = .ok pushed := if_pos room
  have reads : Reads engine (state.load text).arena levels (state.entry text) (some (.ok ())) _ :=
    .go (engine.step_numeral valid rfl first numeral fits) (.of_no_words blank)
  have readable : (state.load text).arena.slice? (state.arena.append text).1 = some text :=
    Arena.slice?_append_script holds
  obtain ⟨after, returned, ground, frame, memory⟩ :=
    readAt_shows readable (Nat.le_of_lt room) waits reads
  have stack : after.stack = pushed := congrArg Memory.stack memory
  refine ⟨after, returned, ?_, ?_, frame, ground.nesting⟩
  · simp [stack, pushed, Stack.toList]
  · rw [memory, stack]

def Dictionary.Prints (name : String) (value : Int32) (text : Text) : Prop :=
  ∃ word, standard.find? name.toList = some word ∧
    ∀ (engine : Engine) (reads : Span → Step Unit) {state : State} {deeper : List Int32}
      {sink : Sink}, state.stack.toList = deeper ++ [value] →
      state.sink.write text.toBytes = (.ok (), sink) →
        ∃ after, engine.dispatch reads word state = .done () after ∧
          after.stack.toList = deeper ∧ after.sink = sink

theorem Dictionary.prints_decimal (name : String) {word : Word}
    (found : standard.find? name.toList = some word) (declared : word.declared? = some .print)
    (value : Int32) : Prints name value (decimal value.toInt ++ ['\n']) := by
  refine ⟨word, found, fun engine reads state deeper sink cells written => ?_⟩
  let noted := state.note (.invoking word.name state.stack)
  have printed : engine.dispatch reads word state =
      .done () { noted.withCells deeper.reverse with sink := sink } := by
    have same : (noted.withCells deeper.reverse).sink = state.sink := rfl
    have popped := Step.pop_withCells noted value deeper.reverse
    rw [engine.dispatch_builtin declared cells rfl (Nat.zero_le _), Builtin.invoke, Step.bind_apply]
    simp only [List.reverse_singleton, List.singleton_append]
    rw [popped, Outcome.bind_done, Step.write_apply, same, written]
  exact ⟨_, printed, List.reverse_reverse deeper, rfl⟩

end Numerals

/-- A word is worth what its leading digits denote in decimal, wrapped. What follows them makes no
difference, and neither do zeros before them. So what is printed for a number that is not negative
is a script that pushes it, in an engine with whatever words, run by the host or at any depth. -/
theorem numerals_read_back :
    (∀ word : Text,
      (numeralValue word).toInt = Int.bmod
        (Nat.ofDigits 10 ((word.takeWhile Char.isDigit).map digitValue).reverse : Nat)
        (2 ^ 32) ∧
      (∀ rest : Text, (∀ char ∈ rest.head?, char.isDigit = false) →
        numeralValue (word.takeWhile Char.isDigit ++ rest) = numeralValue word) ∧
      ∀ zeros, numeralValue (List.replicate zeros '0' ++ word) = numeralValue word) ∧
    ∀ value : Int32, 0 ≤ value →
      let text := decimal value.toInt ++ ['\n']
      (∀ name ∈ ["out", "."], Dictionary.Prints name value text) ∧
      ∀ {engine : Engine} {start : Dictionary} {words : List Word},
        start = .empty ∨ start = .standard → engine.dictionary = (start.registerAll words).1 →
        ∀ {state : State} levels, state.resetPending = false →
          state.stack.depth < state.stack.capacity → state.arena.Holds text →
            ∃ after, Step.run (engine.readAt (levels + 1)) text state = .done () after ∧
              after.stack.toList = state.stack.toList ++ [value] ∧
              after.memory = { state.memory with stack := after.stack, halted := false } ∧
              after.frame = state.frame ∧ after.nesting = state.nesting := by
  refine ⟨fun word => ⟨toInt_numeralValue word, fun rest => numeralValue_run word,
    fun zeros => numeralValue_zeros zeros word⟩, fun value positive => ⟨?_, ?_⟩⟩
  · exact List.forall_mem_cons.2 ⟨Dictionary.prints_decimal "out" rfl rfl value,
      List.forall_mem_singleton.2 (Dictionary.prints_decimal "." rfl rfl value)⟩
  · intro engine start words kind built state levels waits room holds
    have valid := Dictionary.isWordName_built kind words
    rw [← built] at valid
    obtain ⟨number, written, stands⟩ := exists_number positive
    rw [written] at holds ⊢
    have alone : Text.words (decimal number ++ ['\n']) = [decimal number] := by
      simp [Text.words_append_blank, words_decimal, isBlank]
    have pushes := engine.run_numeral valid alone (isNumeral_decimal number) waits room holds levels
    rwa [numeralValue_decimal, stands] at pushes

theorem numerals_read_back_greatest :
    (numeralValue "004294967297x".toList).toInt = 1 ∧
    numeralValue "4294967297x".toList = numeralValue "4294967297-8".toList ∧
    Dictionary.Prints "out" 2147483647 "2147483647\n".toList ∧
    ∃ after, (Engine.mk .standard .default).run "2147483647\n".toList
        (.resting ⟨[7], 9⟩ .empty .empty) = .done () after ∧
      after.stack.toList = [7, 2147483647] := by
  obtain ⟨denotes, _, _⟩ := numerals_read_back.1 "004294967297x".toList
  obtain ⟨_, ignores, _⟩ := numerals_read_back.1 "4294967297x".toList
  obtain ⟨prints, pushes⟩ := numerals_read_back.2 2147483647 (by decide)
  obtain ⟨after, returned, cells, _⟩ := @pushes (Engine.mk .standard .default) .standard []
    (.inr rfl) rfl (.resting ⟨[7], 9⟩ .empty .empty) Settings.default.maxNesting rfl (by decide)
    (by decide)
  have ends : ∀ char ∈ "-8".toList.head?, char.isDigit = false := by
    rintro char ⟨⟩
    rfl
  exact ⟨denotes.trans (by decide), (ignores "-8".toList ends).symm, prints "out" (by decide),
    after, returned, cells⟩

theorem Quotations.get?_ofNat {value : Nat} (quotations : Quotations) (small : value < 2 ^ 31) :
    quotations.get? (Int32.ofNat value) = quotations.bodies[value]? := by
  have number : (Int32.ofNat value).toInt = value := Int32.toInt_ofNat_of_lt small
  have nonnegative : ¬ Int32.ofNat value < 0 := by
    rw [Int32.lt_iff_toInt_lt, number, Int32.toInt_zero]
    omega
  rw [get?, if_neg nonnegative, number]
  rfl

end StackScript

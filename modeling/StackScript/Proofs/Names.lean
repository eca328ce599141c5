import StackScript.Proofs.Numerals

set_option autoImplicit false

namespace StackScript

open Step

def Word.IsFirst (words : List Word) (name : Text) (word : Word) : Prop :=
  ∃ earlier later, words = earlier ++ word :: later ∧ word.name = name ∧
    ∀ other ∈ earlier, other.name ≠ name

def State.atWord (state : State) (name : Text) : State :=
  ((state.load name).openFrame (state.arena.append name).1).at (state.arena.append name).1.stop

def Engine.readOn (engine : Engine) (reads : Span → Step Unit) (unread : Nat) : Step Unit :=
  fun state =>
    if state.frame.unread < unread then
      engine.sweep reads (engine.scan reads (rewindLimit - 1)) unread state
    else engine.scan reads (rewindLimit - 1) state

section Names

variable {name : Text} {dictionary : Dictionary} {word : Word} {state : State} {engine : Engine}
  {reads : Span → Step Unit}

def Text.IsSolid (name : Text) : Prop :=
  name ≠ [] ∧ ∀ char ∈ name, isBlank char = false

theorem isWordName_iff : isWordName name = true ↔ name.IsSolid ∧ isNumeral name = false := by
  simp [isWordName, Text.IsSolid, and_right_comm]

namespace Token

theorem scan_solid_name (solid : name.IsSolid) (offset : Nat) :
    scan offset name = { span := { start := offset, length := name.size }, name := name } := by
  have whole := (@scan_word [] [] offset name nofun solid.1 solid.2 nofun).1
  rwa [List.nil_append, List.append_nil] at whole

theorem isSolid_iff_next? : name.IsSolid ↔ ∃ text cursor token,
    next? text cursor = some token ∧ token.isEmpty = false ∧ token.name = name := by
  constructor
  · intro solid
    refine ⟨name, 0, scan 0 name, by simp [next?, Text.dropBytes?], ?_⟩
    rw [scan_solid_name solid]
    exact ⟨List.isEmpty_eq_false_iff.2 solid.1, rfl⟩
  · rintro ⟨text, cursor, token, found, nonempty, rfl⟩
    obtain ⟨rest, _, rfl⟩ := Option.map_eq_some_iff.1 found
    exact ⟨List.isEmpty_eq_false_iff.1 nonempty, scan_solid _ rest⟩

theorem isSolid_iff_names? : name.IsSolid ↔ names? name = some [name] := by
  rw [names?_eq_words, Option.some_inj]
  constructor
  · intro solid
    exact Text.words_of_nonblank solid.1 solid.2
  · intro alone
    have first : (scan 0 name).name = name := by
      rw [scan_name, alone]
      rfl
    refine ⟨?_, ?_⟩
    · rintro rfl
      cases alone
    · rw [← first]
      exact scan_solid 0 name

end Token

namespace Dictionary

theorem find?_eq_some_iff : dictionary.find? name = some word ↔
    Word.IsFirst dictionary.words name word := by
  rw [find?, List.find?_eq_some_iff_append, Word.IsFirst]
  constructor
  · rintro ⟨named, earlier, later, split, others⟩
    exact ⟨earlier, later, split, beq_iff_eq.1 named, by simpa using others⟩
  · rintro ⟨earlier, later, split, named, others⟩
    exact ⟨beq_iff_eq.2 named, earlier, later, split, by simpa using others⟩

theorem exists_find?_of_mem (member : word ∈ dictionary.words) :
    ∃ first, dictionary.find? word.name = some first := by
  refine Option.isSome_iff_exists.1 (List.find?_isSome.2 ⟨word, member, ?_⟩)
  exact beq_iff_eq.2 rfl

end Dictionary

theorem Engine.obey_of_isNumeral
    (valid : engine.dictionary.words.all (fun word => isWordName word.name) = true)
    (numeral : isNumeral name = true) (reads : Span → Step Unit) :
    engine.obey reads name =
      (do note (.pushing (numeralValue name)); push (numeralValue name) : Step Unit) := by
  rw [obey, Dictionary.meaning_of_isNumeral valid numeral]

namespace Engine

theorem nextName?_atWord (solid : name.IsSolid) (holds : state.arena.Holds name) :
    nextName? ((state.load name).openFrame (state.arena.append name).1) =
      .done (some name) (state.atWord name) := by
  have readable : (state.load name).arena.slice? (state.arena.append name).1 = some name :=
    Arena.slice?_append_script holds
  have left := frameRest?_openFrame readable
  have running : ((state.load name).openFrame (state.arena.append name).1).halted = false := rfl
  have nonempty : ¬ name.isEmpty = true := by
    rw [List.isEmpty_iff]
    exact solid.1
  rw [nextName?_apply, running, left]
  dsimp only
  rw [Token.scan_solid_name solid, if_neg Bool.false_ne_true]
  exact if_neg nonempty

theorem scan_rewindLimit (engine : Engine) (reads : Span → Step Unit) (state : State) :
    engine.scan reads rewindLimit state = (engine.advance reads state).bind fun more after =>
      if more then engine.readOn reads state.frame.unread after else .done () after := by
  obtain ⟨rewinds, limit⟩ := exists_rewindLimit
  unfold readOn
  rw [limit, Nat.add_sub_cancel]
  exact engine.sweep_succ reads (engine.scan reads rewinds) state.frame.unread state

theorem run_name (solid : name.IsSolid) (found : engine.dictionary.find? name = some word)
    (holds : state.arena.Holds name) (levels : Nat) :
    Step.run (engine.readAt (levels + 1)) name state =
      ((engine.dispatch (engine.readAt levels) word >>= fun _ =>
        engine.readOn (engine.readAt levels) name.size) (state.atWord name)).mapReturn
          (·.closeFrame state.frame) := by
  have meaning : engine.dictionary.meaning name = .word word := by
    rw [Dictionary.meaning, found]
  let opened := (state.load name).openFrame (state.arena.append name).1
  have unread : opened.frame.unread = name.size := Nat.add_sub_cancel_left _ _
  have advances : engine.advance (engine.readAt levels) opened =
      (engine.dispatch (engine.readAt levels) word (state.atWord name)).bind
        fun _ => .done true := by
    rw [advance, bind_apply, nextName?_atWord solid holds]
    simp only [Outcome.bind_done, bind_apply, obey, meaning]
    rfl
  have reads : Step.run (engine.readAt (levels + 1)) name state =
      engine.readFrame (engine.readAt levels) (state.arena.append name).1 (state.load name) := rfl
  rw [reads, readFrame, if_pos (Arena.fits_append holds), scan_rewindLimit, advances, unread,
    bind_apply]
  cases engine.dispatch (engine.readAt levels) word (state.atWord name) with
  | done | fault | crash | endless => rfl

theorem readOn_of_end {unread : Nat} (positive : 0 < unread)
    (ended : state.halted = true ∨ state.frameRest? = some []) :
    engine.readOn reads unread state = .done () state := by
  have stops : engine.advance reads state = .done false state := by
    rw [advance_apply]
    split
    · rfl
    · next running =>
      have left := ended.resolve_left running
      have last : state.frame.cursor = state.frame.stop := Text.stop_of_slice? left
      have same : state.at state.frame.stop = state := by
        rw [← last]
        rfl
      rw [left]
      dsimp only
      rw [if_pos (by rfl), same]
  have swept (again : Step Unit) (count : Nat) :
      engine.sweep reads again (count + 1) state = .done () state := by
    rw [sweep, stops]
  obtain ⟨count, rfl⟩ := Nat.exists_eq_add_one.2 positive
  obtain ⟨rewinds, limit⟩ : ∃ rewinds, rewindLimit = rewinds + 2 :=
    Nat.exists_eq_add_of_le' (Nat.pow_le_pow_right (n := 2) (by decide) (by decide : 1 ≤ 62))
  rw [readOn]
  split
  · exact swept _ count
  · rw [limit]
    exact swept (engine.scan reads rewinds) state.frame.unread

theorem run_name_of_end (solid : name.IsSolid) (found : engine.dictionary.find? name = some word)
    (holds : state.arena.Holds name) {levels : Nat} {after : State}
    (done : engine.dispatch (engine.readAt levels) word (state.atWord name) = .done () after)
    (ended : after.halted = true ∨ after.frameRest? = some []) :
    Step.run (engine.readAt (levels + 1)) name state = .done () (after.closeFrame state.frame) := by
  have positive : 0 < name.size := Nat.pos_of_ne_zero (mt Text.size_eq_zero_iff.1 solid.1)
  rw [run_name solid found holds, bind_apply, done, Outcome.bind_done,
    readOn_of_end positive ended]
  rfl

end Engine

end Names

/-- What is accepted as a name are the solid words of texts that are no numerals, which are the
texts that are their own and only word. However words were registered, each name stands for the
first word that was accepted with it. A call that is rejected makes no difference, and no later call
takes away what was found before it. Numerals are never found, and push their value. And a script
that is the name of a word, run by the host or at any depth, invokes the first word of that name. -/
theorem Dictionary.registered_names :
    (∀ name : Text,
      (isWordName name = true ↔ (∃ text cursor token, Token.next? text cursor = some token ∧
        token.isEmpty = false ∧ token.name = name) ∧ isNumeral name = false) ∧
      (isWordName name = true ↔ Token.names? name = some [name] ∧ isNumeral name = false)) ∧
    ∀ {start dictionary : Dictionary} {words : List Word}
        {answers : List (Except InvalidName Unit)},
      start = .empty ∨ start = .standard → start.registerAll words = (dictionary, answers) →
      answers = words.map (fun word =>
        if isWordName word.name then .ok () else .error { name := word.name }) ∧
      (∀ name word, dictionary.find? name = some word ↔
        Word.IsFirst (start.words ++ words.filter fun word => isWordName word.name) name word) ∧
      (∀ earlier word later, words = earlier ++ word :: later → isWordName word.name = false →
        (start.registerAll (earlier ++ later)).1 = dictionary) ∧
      (∀ more name word, dictionary.find? name = some word →
        (start.registerAll (words ++ more)).1.find? name = some word) ∧
      (∀ name, isNumeral name = true → dictionary.find? name = none ∧ ∀ settings reads,
        (Engine.mk dictionary settings).obey reads name =
          (do note (.pushing (numeralValue name)); push (numeralValue name) : Step Unit)) ∧
      ∀ settings levels state, ∀ word ∈ dictionary.words, state.arena.Holds word.name →
        let engine := Engine.mk dictionary settings
        ∃ first, dictionary.find? word.name = some first ∧
          Step.run (engine.readAt (levels + 1)) word.name state =
            ((engine.dispatch (engine.readAt levels) first >>= fun _ =>
              engine.readOn (engine.readAt levels) word.name.size)
                (state.atWord word.name)).mapReturn (·.closeFrame state.frame) ∧
          ∀ after, engine.dispatch (engine.readAt levels) first (state.atWord word.name) =
              .done () after → after.halted = true ∨ after.frameRest? = some [] →
            Step.run (engine.readAt (levels + 1)) word.name state =
              .done () (after.closeFrame state.frame) := by
  constructor
  · intro name
    rw [isWordName_iff, ← Token.isSolid_iff_next?, ← Token.isSolid_iff_names?]
    exact ⟨Iff.rfl, Iff.rfl⟩
  intro start dictionary words answers kind registered
  -- Every word has a valid name, so that no numeral is found.
  have valid : dictionary.words.all (fun word => isWordName word.name) = true := by
    have built := isWordName_built kind words
    rwa [registered] at built
  have entries := registered
  rw [registerAll_eq, Prod.mk.injEq] at entries
  obtain ⟨rfl, rfl⟩ := entries
  refine ⟨rfl, fun name word => find?_eq_some_iff, ?_, ?_, ?_, ?_⟩
  · rintro earlier word later rfl rejected
    simp [registerAll_eq, rejected]
  · intro more name word known
    have extended := find?_registerAll known more
    simpa [registerAll_eq] using extended
  · intro name numeral
    exact ⟨find?_of_isNumeral valid numeral, fun settings reads =>
      Engine.obey_of_isNumeral valid numeral reads⟩
  · intro settings levels state word member holds
    obtain ⟨first, found⟩ := exists_find?_of_mem member
    have solid : word.name.IsSolid := (isWordName_iff.1 (List.all_eq_true.1 valid word member)).1
    exact ⟨first, found, Engine.run_name solid found holds levels, fun after done ended =>
      Engine.run_name_of_end solid found holds done ended⟩

def Word.named (name : String) (inputs : Nat) (action : Action) : Word where
  name := name.toList
  inputs := inputs
  outputs := 1
  operation := .body [.act action false]

def Word.twins : List Word :=
  [.named "1up" 0 .pop, .named "twin" 0 (.push (some 7)), .named "two words" 0 .pop,
    .named "twin" 2 .pop]

theorem Dictionary.registered_names_twin : ∃ dictionary answers first after,
    standard.registerAll Word.twins = (dictionary, answers) ∧
    answers = [.error ⟨"1up".toList⟩, .ok (), .error ⟨"two words".toList⟩, .ok ()] ∧
    dictionary.find? "twin".toList = some first ∧ first.inputs = 0 ∧
    dictionary.find? "1up".toList = none ∧
    (standard.registerAll (Word.twins.drop 1)).1 = dictionary ∧
    (Engine.mk dictionary .default).run "twin".toList (.resting ⟨[], 9⟩ .empty .empty) =
      .done () after ∧
    after.stack.toList = [7] := by
  have registered : standard.registerAll Word.twins = (_, _) := rfl
  obtain ⟨told, _, rejected, _, numerals, runs⟩ := registered_names.2 (.inr rfl) registered
  have member : Word.named "twin" 2 .pop ∈ (standard.registerAll Word.twins).1.words := by
    simp [Word.twins, Word.named, registerAll_eq, isWordName, isNumeral, isBlank]
  obtain ⟨first, found, _, ends⟩ := runs .default Settings.default.maxNesting
    (.resting ⟨[], 9⟩ .empty .empty) _ member (by decide)
  cases found.symm.trans (rfl : _ = some _)
  exact ⟨_, _, _, _, rfl, told, found, rfl, (numerals _ (by decide)).1,
    rejected [] _ _ rfl (by decide), ends _ rfl (.inr rfl), rfl⟩

end StackScript

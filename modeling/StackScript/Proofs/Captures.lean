import StackScript.Proofs.Frames
import StackScript.Proofs.Inline
import StackScript.Proofs.Requests

set_option autoImplicit false

namespace StackScript

open Relation

/-- The span stands between the brackets of a quotation, with whole characters at its ends. What it
holds closes no bracket, and it begins where the word before it ends. -/
structure Arena.Encloses (arena : Arena) (body : Span) : Prop where
  start_pos : 1 ≤ body.start
  stop_lt : body.stop < arena.size
  start : arena.text.isBoundary body.start = true
  stop : arena.text.isBoundary body.stop = true
  opened : arena.text.slice? (body.start - 1) body.start = some ['[']
  closed : arena.text.slice? body.stop (body.stop + 1) = some [']']
  inner : ∃ inner, arena.text.slice? body.start body.stop = some inner ∧ ']' ∉ inner ∧
    ∃ char ∈ inner.head?, isBlank char = true

structure Place.Grows (place after : Place) : Prop where
  arena : ∃ more, after.arena.text = place.arena.text ++ more
  quotations : ∃ bodies, after.quotations.bodies = place.quotations.bodies ++ bodies

/-- The quotations are about to be cleared: by an action, or because a reset waited for the last
frame to be closed. -/
inductive Moment.Clears : Moment → Prop where
  | forget {asker : Asker} {accumulator : Int} {callers : List Caller} {state : State} :
      Clears ⟨.ask asker accumulator .clearQuotations, callers, state⟩
  | reset {asker : Asker} {accumulator : Int} {callers : List Caller} {state : State}
      (shut : state.nesting = 0) : Clears ⟨.ask asker accumulator .reset, callers, state⟩
  | leave {result : Except Fault Unit} {callers : List Caller} {state : State}
      (last : state.nesting - 1 = 0) (waits : state.resetPending = true) :
      Clears ⟨.leave result, callers, state⟩

def Engine.Retains (engine : Engine) (asks : Action → Prop) : Moment → Moment → Prop :=
  ReflTransGen fun before after => engine.Leads asks before after ∧ ¬ before.Clears

theorem Quotations.get?_append {quotations : Quotations} {handle : Int32} {body : Span}
    (known : quotations.get? handle = some body) (bodies : Array Span) :
    (Quotations.mk (quotations.bodies ++ bodies)).get? handle = some body := by
  unfold get? at known ⊢
  split at known
  · cases known
  · next positive =>
    obtain ⟨within, _⟩ := Array.getElem?_eq_some_iff.1 known
    rw [if_neg positive]
    exact (Array.getElem?_append_left within).trans known

namespace Place.Grows

variable {place after : Place} {state later : State} {handle : Int32} {text : Text}

theorem same (arena : after.arena = place.arena)
    (quotations : after.quotations = place.quotations) : place.Grows after :=
  ⟨⟨[], by rw [arena, List.append_nil]⟩, ⟨#[], by rw [quotations, Array.append_empty]⟩⟩

theorem load {place : Place} (script : Text) :
    place.Grows { place with arena := (place.arena.append script).2 } :=
  ⟨⟨place.arena.separator ++ script, List.append_assoc _ _ _⟩, ⟨#[], Array.append_empty.symm⟩⟩

theorem moves {position : Nat} (moves : place.Moves position after) : place.Grows after := by
  obtain ⟨cursor, _, rfl⟩ := moves.moved
  exact same rfl rfl

theorem capture (grows : place.Grows after) (body : Span) : place.Grows (after.capture body) := by
  obtain ⟨arena, bodies, quotations⟩ := grows
  refine ⟨arena, bodies.push body, ?_⟩
  rw [Array.append_push, ← quotations]
  rfl

theorem quotationText? (grows : state.place.Grows later.place)
    (found : state.quotationText? handle = some text) :
    later.quotationText? handle = some text := by
  obtain ⟨⟨more, arena⟩, bodies, quotations⟩ := grows
  obtain ⟨body, known, readable⟩ := Option.bind_eq_some_iff.1 found
  have longer : later.quotations = ⟨state.quotations.bodies ++ bodies⟩ :=
    congrArg Quotations.mk quotations
  have wider : later.arena = ⟨state.arena.text ++ more⟩ := congrArg Arena.mk arena
  rw [State.quotationText?, longer, wider]
  exact Option.bind_eq_some_iff.2
    ⟨body, Quotations.get?_append known bodies, Arena.slice?_more readable more⟩

end Place.Grows

theorem Engine.Shifts.grows {engine : Engine} {moment : Moment} {after : Place}
    (shifts : engine.Shifts moment after) (stays : ¬ moment.Clears) :
    moment.state.place.Grows after := by
  cases shifts with
  | nothing | finds | opens => exact .same rfl rfl
  | alters alters =>
    cases alters with
    | nothing | postpone => exact .same rfl rfl
    | load => exact .load _
    | move moves => exact .moves moves
    | capture => exact (Place.Grows.same rfl rfl).capture _
    | forget => exact absurd .forget stays
    | clear shut => exact absurd (.reset shut) stays
  | obeys obeys =>
    cases obeys with
    | behind => exact .same rfl rfl
    | quotes _ _ _ _ quotes =>
      cases quotes with
      | nothing => exact .same rfl rfl
      | captured _ moves =>
        obtain ⟨arena, quotations⟩ := (Place.Grows.moves moves).capture _
        exact ⟨arena, quotations⟩
  | closes closes =>
    cases closes with
    | back => exact .same rfl rfl
    | reset last waits => exact absurd (.leave last waits) stays

theorem Engine.Retains.quotationText? {engine : Engine} {asks : Action → Prop}
    {moment later : Moment} (retains : engine.Retains asks moment later) {handle : Int32}
    {text : Text} (found : moment.state.quotationText? handle = some text) :
    later.state.quotationText? handle = some text := by
  induction retains with
  | refl => exact found
  | tail _ step ih =>
    obtain ⟨leads, stays⟩ := step
    exact (leads.shifts.grows stays).quotationText? ih

namespace Arena

variable {arena : Arena} {front inner back : Text} {body : Span}

theorem encloses_of_brackets (split : arena.text = front ++ '[' :: (inner ++ ']' :: back))
    (bare : ']' ∉ inner) (blank : ∃ char ∈ inner.head?, isBlank char = true) :
    arena.Encloses ⟨front.size + 1, inner.size⟩ := by
  have bracket : '['.utf8Size = 1 := rfl
  have opened : arena.text.slice? front.size (front.size + 1) = some ['['] :=
    Text.slice?_eq_some_iff.2 ⟨front, inner ++ ']' :: back, by simp [split], rfl, rfl⟩
  have cut : arena.text.slice? (front.size + 1) (front.size + 1 + inner.size) = some inner :=
    Text.slice?_eq_some_iff.2 ⟨front ++ ['['], ']' :: back, by simp [split], by simp [bracket], rfl⟩
  have closed : arena.text.slice? (front.size + 1 + inner.size) (front.size + 1 + inner.size + 1) =
      some [']'] :=
    Text.slice?_eq_some_iff.2
      ⟨front ++ ['['] ++ inner, back, by simp [split], by simp [bracket, Nat.add_assoc], rfl⟩
  have bounds := Text.isBoundary_of_slice? cut
  exact
    { start_pos := Nat.le_add_left 1 _
      stop_lt := Text.le_size_of_isBoundary (Text.isBoundary_of_slice? closed).2
      start := bounds.1
      stop := bounds.2
      opened := opened
      closed := closed
      inner := ⟨inner, cut, bare, blank⟩ }

theorem Encloses.more (encloses : arena.Encloses body) (more : Text) :
    (Arena.mk (arena.text ++ more)).Encloses body where
  start_pos := encloses.start_pos
  stop_lt := by
    have stop := encloses.stop_lt
    rw [size, Text.size_append]
    rw [size] at stop
    omega
  start := Text.isBoundary_append encloses.start
  stop := Text.isBoundary_append encloses.stop
  opened := Text.slice?_append encloses.opened
  closed := Text.slice?_append encloses.closed
  inner := by
    obtain ⟨inner, cut, holds⟩ := encloses.inner
    exact ⟨inner, Text.slice?_append cut, holds⟩

end Arena

theorem Place.encloses_of_bodyOf? {place : Place} {rest body : Text}
    (left : place.rest? = some rest)
    (bracket : (Token.scan place.frame.cursor rest).name = ['['])
    (closed : Builtin.bodyOf? rest.afterWord = some body) :
    place.arena.Encloses ⟨(Token.scan place.frame.cursor rest).span.stop, body.size⟩ := by
  obtain ⟨before, after, text, measured, _⟩ := Text.slice?_eq_some_iff.1 left
  obtain ⟨bare, behind⟩ := Builtin.split_of_bodyOf? closed
  have split := Token.scan_split place.frame.cursor rest
  have stop := Token.scan_stop place.frame.cursor rest
  rw [bracket] at split stop
  -- The bracket is a word of its own, so that a blank follows it or the text ends.
  have blank : ∃ char ∈ body.head?, isBlank char = true := by
    have ends := Text.endsWord_afterWord rest
    rw [behind] at ends
    cases body with
    | nil => cases ends ']' rfl
    | cons char body => exact ⟨char, rfl, ends char rfl⟩
  have brackets : place.arena.text = (before ++ rest.takeWhile isBlank) ++
      '[' :: (body ++ ']' :: (rest.afterWord.drop (body.length + 1) ++ after)) := by
    rw [text]
    conv_lhs => rw [split, behind]
    simp
  have encloses := Arena.encloses_of_brackets brackets bare blank
  rw [Text.size_append, measured, Nat.add_assoc] at encloses
  rw [stop, Text.size_append]
  exact encloses

theorem Dictionary.name_of_quote {word : Word} (member : word ∈ standard.words)
    (quote : word.operation = .builtin .quote) : word.name = ['['] := by
  have all : standard.words.all (fun word =>
      match word.operation with
      | .builtin .quote => word.name == ['[']
      | _ => true) = true := by
    decide
  have named := List.all_eq_true.1 all word member
  rw [quote] at named
  exact eq_of_beq named

def Place.Enclosed (place : Place) : Prop :=
  ∀ body ∈ place.quotations.bodies, place.arena.Encloses body

namespace Place.Enclosed

variable {place after : Place} {body : Span} {position : Nat}

theorem load (enclosed : place.Enclosed) (script : Text) :
    ({ place with arena := (place.arena.append script).2 } : Place).Enclosed := by
  intro body member
  have encloses := (enclosed body member).more (place.arena.separator ++ script)
  rwa [← List.append_assoc] at encloses

theorem moves (enclosed : place.Enclosed) (moves : place.Moves position after) :
    after.Enclosed := by
  obtain ⟨cursor, _, rfl⟩ := moves.moved
  exact enclosed

theorem capture (enclosed : place.Enclosed) (encloses : place.arena.Encloses body) :
    (place.capture body).Enclosed := by
  intro other member
  rcases Array.mem_push.1 member with earlier | rfl
  · exact enclosed other earlier
  · exact encloses

end Place.Enclosed

theorem Place.enclosed_of_empty {place : Place} (empty : place.quotations = .empty) :
    place.Enclosed := by
  intro body member
  rw [empty] at member
  cases Array.not_mem_empty body member

section Registered

variable {engine : Engine} {words : List Word} {moment later : Moment} {after : Place}

theorem Dictionary.name_of_quote_registered {asks : Action → Prop}
    (programmed : ∀ word ∈ words, word.Programmed asks) {name : Text} {word : Word}
    (found : (standard.registerAll words).1.find? name = some word)
    (quote : word.operation = .builtin .quote) : name = ['['] := by
  have same : word.name = name := by simpa using List.find?_some found
  rcases mem_registerAll (List.mem_of_find?_eq_some found) with builtin | own
  · exact same.symm.trans (name_of_quote builtin quote)
  · obtain ⟨program, operation, _⟩ := programmed word own
    cases quote.symm.trans operation

theorem Engine.Obeys.enclosed {place : Place}
    (bracket : ∀ {name word}, engine.dictionary.find? name = some word →
      word.operation = .builtin .quote → name = ['['])
    (enclosed : place.Enclosed) (obeys : engine.Obeys place after) : after.Enclosed := by
  cases obeys with
  | behind => exact enclosed
  | quotes left found _ quote quotes =>
    cases quotes with
    | nothing => exact enclosed
    | captured closed moves =>
      have encloses := Place.encloses_of_bodyOf? left (bracket found quote) closed
      obtain ⟨cursor, _, rfl⟩ := moves.moved
      exact Place.Enclosed.capture enclosed encloses

theorem Engine.Shifts.enclosed
    (bracket : ∀ {name word}, engine.dictionary.find? name = some word →
      word.operation = .builtin .quote → name = ['['])
    (only : moment.Only fun action => action.captures = false)
    (shifts : engine.Shifts moment after) (enclosed : moment.state.place.Enclosed) :
    after.Enclosed := by
  cases shifts with
  | nothing | finds | opens => exact enclosed
  | alters alters =>
    cases alters with
    | nothing | postpone => exact enclosed
    | load => exact enclosed.load _
    | move moves => exact enclosed.moves moves
    | capture => cases only.task.2
    | forget | clear => exact Place.enclosed_of_empty rfl
  | obeys obeys => exact obeys.enclosed bracket enclosed
  | closes closes =>
    cases closes with
    | back => exact enclosed
    | reset => exact Place.enclosed_of_empty rfl

theorem Engine.Reaches.enclosed
    (registered : engine.dictionary = (Dictionary.standard.registerAll words).1)
    (programmed : ∀ word ∈ words, word.Programmed fun action => action.captures = false)
    (reaches : engine.Reaches (fun action => action.captures = false) moment) :
    moment.state.place.Enclosed := by
  have only : engine.dictionary.Only fun action => action.captures = false := by
    rw [registered]
    exact Dictionary.only_registerAll programmed
  have bracket {name : Text} {word : Word} (found : engine.dictionary.find? name = some word)
      (quote : word.operation = .builtin .quote) : name = ['['] := by
    rw [registered] at found
    exact Dictionary.name_of_quote_registered programmed found quote
  induction reaches with
  | start started =>
    obtain ⟨stack, _, rfl⟩ := Option.map_eq_some_iff.1 started
    exact Place.enclosed_of_empty rfl
  | next reached leads ih => exact leads.shifts.enclosed bracket (reached.only only) ih

/-- Where neither the host nor a word with a program of its own captures quotations, every
quotation stands between the brackets that it was captured by, at every moment of a session. Its
text is the same from then on, until the quotations are cleared. -/
theorem Engine.Reaches.quotations_stand
    (registered : engine.dictionary = (Dictionary.standard.registerAll words).1)
    (programmed : ∀ word ∈ words, word.Programmed fun action => action.captures = false)
    (reaches : engine.Reaches (fun action => action.captures = false) moment) :
    (∀ body ∈ moment.state.quotations.bodies, moment.state.arena.Encloses body) ∧
    ∀ {later : Moment} {handle : Int32} {text : Text},
      engine.Retains (fun action => action.captures = false) moment later →
      moment.state.quotationText? handle = some text →
        later.state.quotationText? handle = some text :=
  ⟨reaches.enclosed registered programmed, fun retains found => retains.quotationText? found⟩

theorem Engine.Reaches.quotations_stand_detour : ∃ moment later,
    detour.Reaches (fun action => action.captures = false) moment ∧
    moment.state.quotations.bodies = #[⟨1, 4⟩] ∧ moment.state.arena.Encloses ⟨1, 4⟩ ∧
    (detour.Retains (fun action => action.captures = false) moment later ∧
      later.state.arena.text = "[ é ] detour\n7".toList) ∧
    later.state.quotationText? 0 = some " é ".toList := by
  have started : detour.start? .unlimited = some _ := rfl
  have asked : detour.Reaches (fun action => action.captures = false)
      ⟨.ask .host 0 (.run "[ é ] detour".toList), [], _⟩ := .next (.start started) (.request rfl)
  have awaited := asked.next (.await rfl)
  have opened := awaited.next (.enter (by decide) (by decide))
  have captured := opened.next (.read rfl)
  have found := captured.next (.read rfl)
  have reaches := found.next .ask
  obtain ⟨next, callers, state, reaches, bodies, text, found⟩ : ∃ next callers state,
      detour.Reaches (fun action => action.captures = false)
        ⟨.ask (.word next) 0 (.run "7".toList), callers, state⟩ ∧
      state.quotations.bodies = #[⟨1, 4⟩] ∧ state.arena.text = "[ é ] detour".toList ∧
      state.quotationText? 0 = some " é ".toList :=
    ⟨_, _, _, reaches, rfl, rfl, rfl⟩
  have programmed : ∀ word ∈ [Word.detour], word.Programmed fun action => action.captures = false :=
    List.forall_mem_singleton.2 ⟨_, rfl, rfl, fun _ => trivial⟩
  have retains : detour.Retains (fun action => action.captures = false)
      ⟨.ask (.word next) 0 (.run "7".toList), callers, state⟩ _ :=
    .single ⟨.await rfl, nofun⟩
  have grown : (state.arena.append "7".toList).2.text = "[ é ] detour\n7".toList := by
    rw [Arena.append, Arena.separator, text]
    rfl
  obtain ⟨stands, stays⟩ := reaches.quotations_stand rfl programmed
  exact ⟨_, _, reaches, bodies, stands _ (by simp [bodies]), ⟨retains, grown⟩,
    stays retains found⟩

end Registered

end StackScript

import StackScript.Proofs.Runs

set_option autoImplicit false

namespace StackScript

namespace Arena

variable {arena : Arena} {offset : Nat} {front back inner rest : Text} {span : Span}

def Stands (arena : Arena) (offset : Nat) (rest : Text) : Prop :=
  arena.slice? { start := offset, length := rest.size } = some rest

theorem stands_of_slice? (readable : arena.slice? span = some inner) :
    arena.Stands span.start inner := by
  obtain ⟨_, cut⟩ := slice?_eq_some_iff.1 readable
  have length : span.length = inner.size := by
    have stop := Text.stop_of_slice? cut
    rw [Span.stop] at stop
    omega
  rw [Stands, ← length]
  exact readable

theorem Stands.split (stands : arena.Stands offset (front ++ back)) :
    arena.Stands offset front ∧ arena.Stands (offset + front.size) back := by
  obtain ⟨fits, cut⟩ := slice?_eq_some_iff.1 stands
  rw [Span.fits_iff, Text.size_append, ← Nat.add_assoc] at fits
  rw [Span.stop, Text.size_append] at cut
  constructor
  · apply slice?_eq_some_iff.2
    exact ⟨Span.fits_iff.2 (Nat.lt_of_le_of_lt (Nat.le_add_right _ _) fits), Text.slice?_front cut⟩
  · apply slice?_eq_some_iff.2
    rw [← Nat.add_assoc] at cut
    exact ⟨Span.fits_iff.2 fits, Text.slice?_behind cut⟩

theorem Stands.afterWord (stands : arena.Stands offset rest) :
    arena.Stands (Token.scan offset rest).span.stop rest.afterWord := by
  rw [Token.scan_split offset rest] at stands
  have behind := stands.split.2
  rwa [← Token.scan_stop] at behind

theorem slice?_more (readable : arena.slice? span = some inner) (more : Text) :
    ({ text := arena.text ++ more } : Arena).slice? span = some inner := by
  obtain ⟨fits, cut⟩ := slice?_eq_some_iff.1 readable
  exact slice?_eq_some_iff.2 ⟨fits, Text.slice?_append cut⟩

theorem slice?_append (readable : arena.slice? span = some inner) (script : Text) :
    (arena.append script).2.slice? span = some inner := by
  have more := slice?_more readable (arena.separator ++ script)
  rwa [← List.append_assoc] at more

end Arena

namespace Quotations

variable {quotations : Quotations} {arena : Arena} {kept : Text → Prop} {span : Span}

def Within (quotations : Quotations) (arena : Arena) (kept : Text → Prop) : Prop :=
  ∀ body ∈ quotations.bodies, ∃ inner, arena.slice? body = some inner ∧ kept inner

theorem within_empty : Quotations.empty.Within arena kept := by
  intro body member
  cases Array.not_mem_empty body member

theorem Within.capture {inner : Text} (within : quotations.Within arena kept)
    (readable : arena.slice? span = some inner) (holds : kept inner) :
    (quotations.capture span).2.Within arena kept := by
  intro body member
  rcases Array.mem_push.1 member with earlier | rfl
  · exact within body earlier
  · exact ⟨inner, readable, holds⟩

theorem Within.append (within : quotations.Within arena kept) (script : Text) :
    quotations.Within (arena.append script).2 kept := by
  intro body member
  obtain ⟨inner, readable, holds⟩ := within body member
  exact ⟨inner, Arena.slice?_append readable script, holds⟩

theorem Within.mono {kept' : Text → Prop} (within : quotations.Within arena kept)
    (implied : ∀ inner, kept inner → kept' inner) : quotations.Within arena kept' := by
  intro body member
  obtain ⟨inner, readable, holds⟩ := within body member
  exact ⟨inner, readable, implied inner holds⟩

end Quotations

/-- A condition on the places that are read and one on the memory, which the steps keep up. -/
structure Invariant (engine : Engine) (arena : Arena) where
  place : Nat → Text → Prop
  memory : Memory → Prop
  step : ∀ {point next : Point}, place point.offset point.rest → memory point.memory →
    (engine.step point).point? = some next → place next.offset next.rest ∧ memory next.memory
  enter : ∀ {before : Memory} {body : Span} {inner : Text}, memory before →
    body ∈ before.quotations.bodies → arena.slice? body = some inner → place body.start inner

namespace Invariant

variable {engine : Engine} {arena : Arena} {levels : Nat} {point : Point} {upshot : Upshot}
  {final : Memory}

theorem enters (invariant : Invariant engine arena) {next : Point} {body : Span} {inner : Text}
    (place : invariant.place point.offset point.rest) (memory : invariant.memory point.memory)
    (move : engine.step point = .enter body next) (readable : arena.slice? body = some inner) :
    invariant.place body.start inner ∧ invariant.place next.offset next.rest ∧
      invariant.memory next.memory := by
  obtain ⟨member, _, _⟩ := Engine.step_of_enter move
  exact ⟨invariant.enter memory member readable, invariant.step place memory (by rw [move]; rfl)⟩

theorem reads (invariant : Invariant engine arena)
    (reads : Reads engine arena levels point upshot final)
    (place : invariant.place point.offset point.rest) (memory : invariant.memory point.memory) :
    invariant.memory final := by
  induction reads with
  | stop => exact memory
  | fail move => exact (invariant.step place memory (by rw [move]; rfl)).2
  | go move _ ih =>
    obtain ⟨place, memory⟩ := invariant.step place memory (by rw [move]; rfl)
    exact ih place memory
  | tooDeep move => exact (invariant.step place memory (by rw [move]; rfl)).2
  | crash move => exact (invariant.step place memory (by rw [move]; rfl)).2
  | enter move readable _ _ ihNested ihLater =>
    obtain ⟨opened, place, memory⟩ := invariant.enters place memory move readable
    exact ihLater place (ihNested opened memory)
  | leave move readable _ _ ih =>
    obtain ⟨opened, _, memory⟩ := invariant.enters place memory move readable
    exact ih opened memory

theorem returns (invariant : Invariant engine arena)
    (within : ∀ {memory : Memory}, invariant.memory memory →
      ∀ body ∈ memory.quotations.bodies, arena.slice? body ≠ none)
    (reads : Reads engine arena levels point upshot final)
    (place : invariant.place point.offset point.rest) (memory : invariant.memory point.memory) :
    upshot ≠ none := by
  induction reads with
  | stop | fail | tooDeep => exact nofun
  | go move _ ih =>
    obtain ⟨place, memory⟩ := invariant.step place memory (by rw [move]; rfl)
    exact ih place memory
  | crash move unreadable =>
    obtain ⟨member, _, _⟩ := Engine.step_of_enter move
    exact absurd unreadable (within memory _ member)
  | enter move readable nested _ _ ihLater =>
    obtain ⟨opened, place, memory⟩ := invariant.enters place memory move readable
    exact ihLater place (invariant.reads nested opened memory)
  | leave move readable _ _ ih =>
    obtain ⟨opened, _, memory⟩ := invariant.enters place memory move readable
    exact ih opened memory

end Invariant

section Places

variable {engine : Engine} {arena : Arena} {point next : Point}

namespace Engine

theorem step_stands (stands : arena.Stands point.offset point.rest)
    (move : (engine.step point).point? = some next) : arena.Stands next.offset next.rest := by
  obtain ⟨front, _, split, offset⟩ := step_advances move
  rw [split] at stands
  rw [offset]
  exact stands.split.2

theorem step_captures (move : (engine.step point).point? = some next) :
    next.memory.quotations = point.memory.quotations ∨
      ∃ body back, point.behind.rest = body ++ ']' :: back ∧ ']' ∉ body ∧
        next.memory.quotations = (point.memory.quotations.capture
          { start := point.behind.offset, length := body.size }).2 := by
  obtain ⟨_, _, leads⟩ := step_of_go move
  cases leads with
  | on same => exact .inl same
  | @past body _ found captured =>
    obtain ⟨bare, split⟩ := Builtin.split_of_bodyOf? found
    exact .inr ⟨body, _, split, bare, captured⟩

end Engine

end Places

namespace Invariant

def within (engine : Engine) (arena : Arena) (kept : Text → Prop)
    (bare : ∀ inner, ']' ∉ inner → kept inner) : Invariant engine arena where
  place := arena.Stands
  memory := fun memory => memory.quotations.Within arena kept
  step := by
    intro point next stands within move
    refine ⟨Engine.step_stands stands move, ?_⟩
    rcases Engine.step_captures move with same | ⟨body, back, split, absent, captured⟩
    · rw [same]
      exact within
    · have behind := stands.afterWord
      rw [show point.rest.afterWord = body ++ ']' :: back from split] at behind
      rw [captured]
      exact within.capture behind.split.1 (bare body absent)
  enter := fun _ _ readable => Arena.stands_of_slice? readable

def unchanged (engine : Engine) (arena : Arena) (quotations : Quotations)
    (bare : quotations.Within arena fun inner => ']' ∉ inner) : Invariant engine arena where
  place := fun _ rest => ']' ∉ rest
  memory := fun memory => memory.quotations = quotations
  step := by
    intro point next absent same move
    obtain ⟨front, _, split, _⟩ := Engine.step_advances move
    refine ⟨fun member => absent (by rw [split]; simp [member]), ?_⟩
    rcases Engine.step_captures move with kept | ⟨body, back, closed, _, _⟩
    · exact kept.trans same
    · have split := Token.scan_split point.offset point.rest
      refine absurd ?_ absent
      rw [split, show point.rest.afterWord = body ++ ']' :: back from closed]
      simp
  enter := by
    intro before body inner same member readable
    obtain ⟨text, found, absent⟩ := bare body (same ▸ member)
    obtain rfl : text = inner := Option.some_inj.1 (found.symm.trans readable)
    exact absent

end Invariant

/-- The bodies of the quotations are what words capture: texts of the arena that close no bracket.
-/
def State.Captured (state : State) : Prop :=
  state.quotations.Within state.arena fun inner => ']' ∉ inner

theorem State.Captured.readable {state : State} (captured : state.Captured) :
    state.quotations.Within state.arena fun _ => True :=
  captured.mono fun _ _ => trivial

namespace Engine

variable {engine : Engine} {state after : State} {script : Text} {result : Except Fault Unit}

theorem entry_stands (holds : state.arena.Holds script) :
    (state.arena.append script).2.Stands (state.entry script).offset (state.entry script).rest :=
  Arena.slice?_append_script holds

theorem start?_captured {sink : Sink} (started : engine.start? sink = some state) :
    state.Captured := by
  obtain ⟨stack, _, rfl⟩ := Option.map_eq_some_iff.1 started
  exact Quotations.within_empty

theorem run_captured (standard : engine.dictionary = .standard) (rest : state.AtRest)
    (captured : state.Captured) (returned : engine.run script state = .returned result after) :
    after.Captured := by
  obtain ⟨holds, _, arena, reads⟩ := run_reads standard rest returned
  have keeps := (Invariant.within engine _ (fun inner => ']' ∉ inner) fun _ => id).reads reads
    (entry_stands holds) (captured.append script)
  rw [State.Captured, arena]
  exact keeps

theorem runSpan_returns {span : Span} {inner : Text} (standard : engine.dictionary = .standard)
    (rest : state.AtRest) (found : state.arena.slice? span = some inner)
    (readable : state.quotations.Within state.arena fun _ => True) :
    ∃ result after, engine.runSpan span state = .returned result after := by
  obtain ⟨upshot, final, reads⟩ := Reads.exists standard state.arena engine.settings.maxNesting
    ⟨span.start, inner, state.memory⟩
  have shows := runSpan_shows rest found reads
  have kept := (Invariant.within engine state.arena (fun _ => True) fun _ _ => trivial).returns
    (fun within body member unreadable => by
      obtain ⟨inner, found, _⟩ := within body member
      exact nomatch found.symm.trans unreadable)
    reads (Arena.stands_of_slice? found) readable
  cases upshot with
  | none => exact absurd rfl kept
  | some result =>
    obtain ⟨after, returned, _⟩ := shows
    exact ⟨result, after, returned⟩

theorem run_returns (standard : engine.dictionary = .standard) (rest : state.AtRest)
    (holds : state.arena.Holds script)
    (readable : state.quotations.Within state.arena fun _ => True) :
    ∃ result after, engine.run script state = .returned result after := by
  have loaded : (state.load script).quotations.Within (state.load script).arena fun _ => True :=
    readable.append script
  exact runSpan_returns standard (load_atRest rest script) (Arena.slice?_append_script holds) loaded

end Engine

end StackScript

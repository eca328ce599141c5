import StackScript.Proofs.Conformance

set_option autoImplicit false

namespace StackScript

variable {state : State}

namespace Arena

variable {arena : Arena} {script : Text}

/-- The arena is still addressed by machine words when the script is added. -/
def Holds (arena : Arena) (script : Text) : Prop :=
  (arena.append script).2.size < wordLimit

instance (arena : Arena) (script : Text) : Decidable (arena.Holds script) :=
  inferInstanceAs (Decidable (_ < _))

theorem stop_append (arena : Arena) (script : Text) :
    (arena.append script).1.stop = (arena.append script).2.size := by
  simp only [append, Span.stop, size, Text.size_append]

theorem fits_append (holds : arena.Holds script) : (arena.append script).1.fits = true := by
  rw [Span.fits, stop_append]
  exact decide_eq_true holds

theorem slice?_append_script (holds : arena.Holds script) :
    (arena.append script).2.slice? (arena.append script).1 = some script := by
  have cut := Text.slice?_last (arena.text ++ arena.separator) script
  rw [Text.size_append] at cut
  exact slice?_eq_some_iff.2 ⟨fits_append holds, cut⟩

theorem not_fits_append (full : ¬ arena.Holds script) : (arena.append script).1.fits = false := by
  rw [Span.fits, stop_append]
  exact decide_eq_false full

end Arena

structure State.AtRest (state : State) : Prop where
  nesting : state.nesting = 0
  frame : state.frame = .idle
  resetPending : state.resetPending = false
  depth : state.stack.depth ≤ state.stack.capacity

def State.resting (stack : Stack) (arena : Arena) (quotations : Quotations) : State :=
  { stack := stack
    arena := arena
    quotations := quotations
    frame := .idle
    nesting := 0
    halted := false
    resetPending := false
    sink := .unlimited
    events := []
    journal := [] }

theorem State.resting_atRest {stack : Stack} {arena : Arena} {quotations : Quotations}
    (depth : stack.depth ≤ stack.capacity) : (resting stack arena quotations).AtRest :=
  ⟨rfl, rfl, rfl, depth⟩

def State.load (state : State) (script : Text) : State :=
  { state with
    halted := false
    arena := (state.arena.append script).2
    events := .running (state.arena.append script).1.length :: state.events }

def State.entry (state : State) (script : Text) : Point :=
  { offset := (state.arena.append script).1.start
    rest := script
    memory := { state.memory with halted := false } }

namespace Engine

variable {engine : Engine} {script : Text} {after : State} {result : Except Fault Unit}

theorem start?_atRest {sink : Sink} (started : engine.start? sink = some state) :
    state.AtRest := by
  unfold start? Stack.empty? at started
  split at started
  · cases started
    exact ⟨rfl, rfl, rfl, Nat.zero_le _⟩
  · cases started

theorem load_atRest (rest : state.AtRest) (script : Text) : (state.load script).AtRest :=
  ⟨rest.nesting, rest.frame, rest.resetPending, rest.depth⟩

theorem readAt_shows {span : Span} {inner : Text} {upshot : Upshot} {final : Memory} {levels : Nat}
    (readable : state.arena.slice? span = some inner)
    (depth : state.stack.depth ≤ state.stack.capacity) (resetPending : state.resetPending = false)
    (reads : Reads engine state.arena levels ⟨span.start, inner, state.memory⟩ upshot final) :
    upshot.Shows (fun after => state.SameGround after ∧ after.frame = state.frame ∧
      after.memory = final) (engine.readAt (levels + 1) span state) :=
  readFrame_shows readable rfl depth resetPending
    fun again opened => reads.sweep again _ rfl opened (Nat.le_refl _)

theorem runSpan_shows {span : Span} {inner : Text} {upshot : Upshot} {final : Memory}
    (rest : state.AtRest) (readable : state.arena.slice? span = some inner)
    (reads : Reads engine state.arena engine.settings.maxNesting
      ⟨span.start, inner, state.memory⟩ upshot final) :
    upshot.Shows (fun after => after.AtRest ∧ after.arena = state.arena ∧ after.memory = final)
      (engine.runSpan span state) := by
  have shows := readAt_shows readable rest.depth rest.resetPending reads
  apply shows.mono
  intro after kept
  obtain ⟨ground, frame, memory⟩ := kept
  exact ⟨⟨ground.nesting.trans rest.nesting, frame.trans rest.frame,
    ground.resetPending.trans rest.resetPending, ground.depth⟩, ground.arena, memory⟩

theorem run_apply (engine : Engine) (script : Text) (state : State) :
    engine.run script state =
      engine.runSpan (state.arena.append script).1 (state.load script) := rfl

theorem run_of_full (engine : Engine) (full : ¬ state.arena.Holds script) :
    ∃ after, engine.run script state = .crash after := by
  rw [run_apply, runSpan, levels, readAt, readFrame, Arena.not_fits_append full]
  exact ⟨_, rfl⟩

theorem run_shows {upshot : Upshot} {final : Memory} (rest : state.AtRest)
    (holds : state.arena.Holds script)
    (reads : Reads engine (state.arena.append script).2 engine.settings.maxNesting
      (state.entry script) upshot final) :
    upshot.Shows (fun after => after.AtRest ∧ after.arena = (state.arena.append script).2 ∧
      after.memory = final) (engine.run script state) := by
  rw [run_apply]
  exact runSpan_shows (load_atRest rest script) (Arena.slice?_append_script holds) reads

theorem returned_inj {result' : Except Fault Unit} {after' : State}
    (same : Outcome.returned result after = .returned result' after') :
    result = result' ∧ after = after' := by
  cases result <;> cases result' <;> cases same <;> exact ⟨rfl, rfl⟩

theorem returned_ne_crash {after' : State} : Outcome.returned result after ≠ .crash after' := by
  cases result <;> exact nofun

theorem run_reads (standard : engine.dictionary = .standard) (rest : state.AtRest)
    (returned : engine.run script state = .returned result after) :
    state.arena.Holds script ∧ after.AtRest ∧ after.arena = (state.arena.append script).2 ∧
      Reads engine (state.arena.append script).2 engine.settings.maxNesting (state.entry script)
        (some result) after.memory := by
  by_cases holds : state.arena.Holds script
  · obtain ⟨upshot, final, reads⟩ := Reads.exists standard (state.arena.append script).2
      engine.settings.maxNesting (state.entry script)
    have shows := run_shows rest holds reads
    cases upshot with
    | none =>
      obtain ⟨last, crashed⟩ := shows
      exact absurd (returned.symm.trans crashed) returned_ne_crash
    | some result' =>
      obtain ⟨last, ended, atRest, arena, rfl⟩ := shows
      obtain ⟨rfl, rfl⟩ := returned_inj (returned.symm.trans ended)
      exact ⟨holds, atRest, arena, reads⟩
  · obtain ⟨last, crashed⟩ := run_of_full engine holds
    exact absurd (returned.symm.trans crashed) returned_ne_crash

end Engine

end StackScript

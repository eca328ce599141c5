import StackScript.Proofs.Simulation

set_option autoImplicit false

namespace StackScript

/-- The state on top of further cells, given with the lowest one first. -/
def State.onto (state : State) (below : List Int32) (capacity : Nat) : State :=
  { state with stack := { cells := state.stack.cells ++ below.reverse, capacity := capacity } }

def Status.limits : List Status :=
  [.stackUnderflow, .stackOverflow, .nestingTooDeep]

theorem State.toList_onto (state : State) (below : List Int32) (capacity : Nat) :
    (state.onto below capacity).stack.toList = below ++ state.stack.toList := by
  simp [onto, Stack.toList]

theorem Stack.Over.toList {below : List Int32} {excepted : Fault → Prop} {stack stack' : Stack}
    (above : stack.Over below.reverse excepted stack') :
    stack'.toList = below ++ stack.toList := by
  rw [Stack.toList, above.cells, List.reverse_append, List.reverse_reverse]
  rfl

theorem Quotations.Paired.eq {quotations quotations' : Quotations}
    (paired : quotations.Paired Eq quotations') : quotations = quotations' := by
  obtain ⟨bodies⟩ := quotations
  obtain ⟨bodies'⟩ := quotations'
  have size : bodies.size = bodies'.size := paired.size
  congr 1
  apply Array.ext size
  intro index bound bound'
  exact paired.bodies (Array.getElem?_eq_getElem bound) (Array.getElem?_eq_getElem bound')

theorem Quotations.paired_self (quotations : Quotations) : quotations.Paired Eq quotations where
  size := rfl
  bodies := fun found found' => Option.some_inj.1 (found.symm.trans found')

def Comparison.onto (arena : Arena) (below : List Int32) (sink : Sink) : Comparison arena arena :=
  { Layout.same id with
    below := below.reverse
    excepted := fun cause => cause.status ∈ Status.limits
    sink := sink
    sink' := sink }

namespace Engine

variable {engine : Engine} {state after : State} {script : Text} {result : Except Fault Unit}
  {below : List Int32} {capacity : Nat}

theorem entry_onto (script : Text) (room : state.stack.capacity + below.length ≤ capacity) :
    (Comparison.onto (state.arena.append script).2 below state.sink).Points (state.entry script)
      ((state.onto below capacity).entry script) where
  place := ⟨rfl, rfl⟩
  memories :=
    { stack := {
        cells := rfl
        capacity := by
          rw [← List.length_reverse] at room
          exact room
        limits := .inr
          ⟨(by decide : Fault.status .stackUnderflow ∈ Status.limits),
            (by decide : Fault.status .stackOverflow ∈ Status.limits)⟩ }
      quotations := state.quotations.paired_self
      sink := ⟨rfl, [], by simp [State.entry, State.memory, Comparison.onto, State.onto]⟩
      halted := rfl }

theorem onto_atRest (rest : state.AtRest) (room : state.stack.capacity + below.length ≤ capacity) :
    (state.onto below capacity).AtRest := by
  refine ⟨rest.nesting, rest.frame, rest.resetPending, ?_⟩
  have depth := rest.depth
  simp only [Stack.depth, State.onto, List.length_append, List.length_reverse] at depth ⊢
  omega

/-- A run does the same on top of further cells and under limits that are further away. -/
theorem run_onto (standard : engine.dictionary = .standard) (rest : state.AtRest)
    (returned : engine.run script state = .returned result after)
    (inside : Status.of result ∉ Status.limits) (below : List Int32) (settings : Settings)
    (room : state.stack.capacity + below.length ≤ settings.stackCapacity)
    (nesting : engine.settings.maxNesting ≤ settings.maxNesting) :
    ∃ after', ({ engine with settings := settings }).run script
        (state.onto below settings.stackCapacity) = .returned result after' ∧
      after'.stack.toList = below ++ after.stack.toList ∧ after'.sink = after.sink ∧
      after'.halted = after.halted ∧ after'.arena = after.arena ∧
      after'.quotations = after.quotations := by
  obtain ⟨holds, _, arena, reads⟩ := run_reads standard rest returned
  obtain ⟨spare, enough⟩ := Nat.exists_eq_add_of_le nesting
  have tooDeep : ∀ limit, (Fault.nestingTooDeep limit).status ∈ Status.limits :=
    fun _ => by simp [Fault.status, Status.limits]
  have points := entry_onto script room
  obtain ⟨after', returned', arena', memories⟩ := points.run { engine with settings := settings }
    reads rfl enough.symm (.inr tooDeep) (fun _ error limit => inside (by rw [error]; exact limit))
    (onto_atRest rest room) holds
  exact ⟨after', returned', memories.stack.toList, memories.sink.eq.symm, memories.halted.symm,
    arena'.trans arena.symm, memories.quotations.eq.symm⟩

theorem run_onto_square :
    ∃ after after',
      (Engine.mk .standard ⟨2, 0⟩).run "dup *".toList (.resting ⟨[3], 2⟩ .empty .empty) =
        .returned (.ok ()) after ∧
      (Engine.mk .standard ⟨4, 1⟩).run "dup *".toList
        ((State.resting ⟨[3], 2⟩ .empty .empty).onto [7] 4) = .returned (.ok ()) after' ∧
      after'.stack.toList = [7] ++ after.stack.toList ∧ after'.sink = after.sink ∧
      after'.halted = after.halted ∧ after'.arena = after.arena ∧
      after'.quotations = after.quotations := by
  obtain ⟨after, returned⟩ : ∃ after, (Engine.mk .standard ⟨2, 0⟩).run "dup *".toList
      (.resting ⟨[3], 2⟩ .empty .empty) = .returned (.ok ()) after := ⟨_, rfl⟩
  obtain ⟨after', returned', same⟩ := run_onto rfl (State.resting_atRest (by decide)) returned
    (by decide) [7] ⟨4, 1⟩ (by decide) (by decide)
  exact ⟨after, after', returned, returned', same⟩

end Engine

end StackScript

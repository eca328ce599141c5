import StackScript.Proofs.Termination

set_option autoImplicit false

namespace StackScript

open Step

structure State.Poised (halted : Bool) (capacity : Nat) (state : State) : Prop where
  halted : state.halted = halted
  capacity : state.stack.capacity = capacity

-- What becomes of a run in a frame that is open. A reset waits there, and the run is halted.
def Action.flag? : Action → Option Bool
  | run _ => some false
  | halt | reset => some true
  | _ => none

def State.Ahead (state : State) : Prop :=
  ∃ rest, state.frameRest? = some rest ∧ (Token.scan state.frame.cursor rest).isEmpty = false

def Engine.Calls (engine : Engine) (state : State) (builtin : Builtin) : Prop :=
  ∃ name behind word, nextName? state = .done (some name) behind ∧
    engine.dictionary.meaning name = .word word ∧ word.operation = .builtin builtin ∧
    word.inputs ≤ behind.stack.depth ∧ word.growth ≤ behind.stack.room

structure Step.Movable (kept : State → Prop) : Prop extends Step.Workable kept where
  moved : ∀ state cursor, kept state → kept (state.at cursor)
  capture : ∀ body, (capture body).Keeps kept

section Movable

variable {kept : State → Prop}

theorem Step.setCursor_keeps (moves : Movable kept) (position : Nat) :
    (setCursor position).Keeps kept := by
  intro state holds
  rw [setCursor, bind_apply, get_apply, Outcome.bind_done]
  split
  · rw [bind_apply]
    cases Text.boundaryFrom? _ state.arena.text with
    | some cursor => exact moves.moved state cursor holds
    | none => trivial
  · trivial

namespace Builtin

theorem nonzeroDivisor_keeps : nonzeroDivisor.Keeps kept := by
  refine (Keeps.bind .get fun _ => .ofResult _).bind fun divisor => ?_
  split
  · exact .fail _
  · exact .pure _

theorem invoke_keeps (works : Workable kept) {builtin : Builtin}
    (quote : builtin ≠ .quote) (call : builtin ≠ .call) (halt : builtin ≠ .halt)
    (reads : Span → Step Unit) : (builtin.invoke reads).Keeps kept := by
  have pop := works.pop
  have push := works.push
  have peek below : (peek below).Keeps kept := .bind .get fun _ => .ofResult _
  have binary operation : (binary operation).Keeps kept :=
    pop.bind fun _ => pop.bind fun _ => push _
  cases builtin with
  | add | subtract | multiply => exact binary _
  | divide | remainder => exact nonzeroDivisor_keeps.bind fun _ => binary _
  | drop => exact pop.bind fun _ => .pure _
  | duplicate | copySecond => exact (peek _).bind fun _ => push _
  | swap => exact pop.bind fun _ => pop.bind fun _ => (push _).bind fun _ => push _
  | dropSecond => exact pop.bind fun _ => pop.bind fun _ => push _
  | rotate =>
    exact pop.bind fun _ => pop.bind fun _ => pop.bind fun _ =>
      (push _).bind fun _ => (push _).bind fun _ => push _
  | print => exact pop.bind fun _ => works.write _
  | quote => exact absurd rfl quote
  | call => exact absurd rfl call
  | halt => exact absurd rfl halt

theorem callee_keeps (works : Workable kept) : callee.Keeps kept := by
  refine works.pop.bind fun handle => .bind (.bind .get fun _ => .pure _) fun found => ?_
  cases found with
  | some body => exact (works.note _).bind fun _ => .pure _
  | none => exact (works.note _).bind fun _ => .pure _

theorem captureBody_keeps (moves : Movable kept) : captureBody.Keeps kept := by
  refine .bind (.bind .get fun _ => .pure _) fun start => ?_
  refine .bind (.bind .get fun _ => .orCrash _) fun rest => ?_
  cases bodyOf? rest with
  | none => exact .fail _
  | some body =>
    refine (setCursor_keeps moves _).bind fun _ => (moves.capture _).bind fun handle => ?_
    exact (moves.note _).bind fun _ => moves.push _

theorem errand_keeps (moves : Movable kept) {builtin : Builtin}
    (halts : builtin = .halt → Step.halt.Keeps kept) : builtin.errand.Keeps kept := by
  by_cases call : builtin = .call
  · subst call
    refine .bind (callee_keeps moves.toWorkable) fun found => ?_
    cases found with
    | some body => exact .pure _
    | none => exact .pure _
  · rw [errand_eq call]
    refine .bind ?_ fun _ => .pure _
    by_cases quote : builtin = .quote
    · subst quote
      exact captureBody_keeps moves
    · by_cases halt : builtin = .halt
      · subst halt
        exact halts rfl
      · exact invoke_keeps moves.toWorkable quote call halt _

end Builtin

theorem Engine.nextName?_keeps (moves : Movable kept) : nextName?.Keeps kept := by
  intro state holds
  rw [nextName?_apply]
  split
  · exact holds
  · cases state.frameRest? with
    | none => trivial
    | some rest =>
      dsimp only
      split
      · exact moves.moved _ _ holds
      · exact moves.moved _ _ holds

end Movable

section Poised

variable {halted : Bool} {capacity : Nat} {state after : State}

theorem Stack.capacity_push {stack pushed : Stack} {cell : Int32}
    (push : stack.push cell = .ok pushed) : pushed.capacity = stack.capacity := by
  unfold Stack.push at push
  split at push
  · cases push
    rfl
  · cases push

theorem Stack.capacity_pop {stack popped : Stack} {cell : Int32}
    (pop : stack.pop = .ok (cell, popped)) : popped.capacity = stack.capacity := by
  unfold Stack.pop at pop
  split at pop
  · cases pop
  · cases pop
    rfl

theorem State.poised_workable : Step.Workable (State.Poised halted capacity) where
  push cell state poised := by
    rw [push_apply]
    cases pushed : state.stack.push cell with
    | ok stack => exact ⟨poised.halted, (Stack.capacity_push pushed).trans poised.capacity⟩
    | error cause => exact poised
  pop state poised := by
    rw [pop_apply]
    cases popped : state.stack.pop with
    | ok result => exact ⟨poised.halted, (Stack.capacity_pop popped).trans poised.capacity⟩
    | error cause => exact poised
  write text state poised := by
    rw [write_apply]
    rcases state.sink.write text.toBytes with ⟨_ | _, sink⟩
    · exact ⟨poised.halted, poised.capacity⟩
    · exact ⟨poised.halted, poised.capacity⟩
  note event state poised := ⟨poised.halted, poised.capacity⟩

theorem State.poised_movable : Step.Movable (State.Poised halted capacity) where
  toWorkable := State.poised_workable
  moved _ _ poised := ⟨poised.halted, poised.capacity⟩
  capture _ _ poised := ⟨poised.halted, poised.capacity⟩

theorem Engine.prepare_reset_inside (engine : Engine) (accumulator : Int)
    (inside : state.nesting ≠ 0) : engine.prepare accumulator .reset state =
      .done (.now (.flag true, accumulator))
        { state.note .resetDeferred with resetPending := true, halted := true } := by
  simp [prepare, reset, inside, Step.halt, Step.note, isHalted]

theorem Engine.prepare_reset_shut (engine : Engine) (accumulator : Int)
    (shut : state.nesting = 0) : engine.prepare accumulator .reset state =
      .done (.now (.flag false, accumulator)) state.clear := by
  simp [prepare, reset, shut, isHalted, State.clear]

theorem Action.flag?_of_plain {action : Action} (plain : action.steers = false) :
    action.flag? = none := by
  cases action with
  | run | halt | reset => cases plain
  | _ => rfl

theorem Engine.prepare_poised {engine : Engine} {accumulator : Int} {action : Action}
    {outcome : Outcome (Due (Answer × Int))}
    (prepared : engine.prepare accumulator action state = outcome)
    (waits : state.nesting ≠ 0 ∨ action ≠ .reset) (poised : state.Poised halted capacity) :
    outcome.Leaves (State.Poised (action.flag?.getD halted) capacity) := by
  subst prepared
  cases steers : action.steers with
  | false =>
    rw [Action.flag?_of_plain steers]
    exact engine.prepare_keeps State.poised_workable steers accumulator state poised
  | true =>
    cases action with
    | run | halt => exact ⟨rfl, poised.capacity⟩
    | capture | clearQuotations => exact ⟨poised.halted, poised.capacity⟩
    | setCursor position =>
      refine Keeps.bind (setCursor_keeps State.poised_movable _) (fun _ => ?_) state poised
      exact .bind (.bind .get fun _ => .pure _) fun _ => .pure _
    | reset =>
      have inside : state.nesting ≠ 0 := waits.resolve_right fun other => other rfl
      rw [engine.prepare_reset_inside accumulator inside]
      exact ⟨rfl, poised.capacity⟩
    | _ => cases steers

namespace Engine

variable {engine : Engine}

theorem errand_poised {name : Text} (poised : state.Poised halted capacity)
    (uncalled : ∀ word, engine.dictionary.meaning name = .word word →
      word.operation = .builtin .halt → word.inputs ≤ state.stack.depth →
      ¬ word.growth ≤ state.stack.room) :
    (engine.errand name state).Leaves (State.Poised halted capacity) := by
  unfold errand
  cases named : engine.dictionary.meaning name with
  | word word =>
    dsimp only
    rw [bind_apply, checkArity_apply]
    split
    · exact poised
    · next inputs =>
      split
      · exact poised
      · next room =>
        have noted := State.poised_workable.note (.invoking word.name state.stack) state poised
        cases operation : word.operation with
        | builtin builtin =>
          refine Builtin.errand_keeps State.poised_movable (fun halt => ?_) _ noted
          exact absurd (Nat.not_lt.1 room)
            (uncalled word named (halt ▸ operation) (Nat.not_lt.1 inputs))
        | program program => exact noted
  | number value =>
    refine Keeps.bind (State.poised_workable.note _) (fun _ => ?_) state poised
    exact (State.poised_workable.push _).bind fun _ => .pure _
  | unknown => exact poised

theorem readWord_poised {outcome : Outcome Task} (word : engine.readWord state = outcome)
    (uncalled : ¬ engine.Calls state .halt) (poised : state.Poised halted capacity) :
    outcome.Leaves (State.Poised halted capacity) := by
  subst word
  have left := nextName?_keeps State.poised_movable state poised
  rw [readWord, bind_apply]
  cases found : nextName? state with
  | done name? behind =>
    rw [found] at left
    cases name? with
    | none => exact left
    | some name =>
      refine (errand_poised left fun word named halt inputs room => ?_).bind fun _ _ => id
      exact uncalled ⟨name, behind, word, found, named, halt, inputs, room⟩
  | fault cause after | crash after | endless =>
    rw [found] at left
    exact left

theorem nextName?_some {name : Text} {behind : State}
    (found : nextName? state = .done (some name) behind) :
    state.halted = false ∧ state.Ahead ∧ ∃ cursor, behind = state.at cursor := by
  cases running : state.halted with
  | true => simp [nextName?_apply, running] at found
  | false =>
    cases left : state.frameRest? with
    | none => simp [nextName?_apply, running, left] at found
    | some rest =>
      cases named : (Token.scan state.frame.cursor rest).isEmpty with
      | true => simp [nextName?_apply, running, left, named] at found
      | false =>
        simp only [nextName?_apply, running, left, named, Bool.false_eq_true, if_false] at found
        cases found
        exact ⟨rfl, ⟨rest, left, named⟩, _, rfl⟩

theorem nextName?_of_ahead (running : state.halted = false) (ahead : state.Ahead) :
    ∃ name behind, nextName? state = .done (some name) behind := by
  obtain ⟨rest, left, named⟩ := ahead
  simp [nextName?_apply, running, left, named]

theorem readWord_of_halt (calls : engine.Calls state .halt) : ∃ cursor event,
    engine.readWord state =
      .done .read { (state.at cursor).note event with halted := true } := by
  obtain ⟨name, behind, word, found, named, halt, inputs, room⟩ := calls
  obtain ⟨_, _, cursor, rfl⟩ := nextName?_some found
  refine ⟨cursor, .invoking word.name state.stack, ?_⟩
  simp only [readWord_of_name found, errand, named, bind_apply, checkArity_apply,
    if_neg (Nat.not_lt.2 inputs), if_neg (Nat.not_lt.2 room), Outcome.bind_done, halt]
  rfl

end Engine

end Poised

end StackScript

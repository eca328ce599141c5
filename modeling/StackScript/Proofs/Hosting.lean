import StackScript.Proofs.Invariants
import StackScript.Session

set_option autoImplicit false

namespace StackScript

variable {α β : Type} {kept : State → Prop}

def Outcome.Leaves (kept : State → Prop) : Outcome α → Prop
  | .done _ after | .fault _ after => kept after
  | .crash _ => True
  | .endless => False

theorem Outcome.Leaves.mono {kept' : State → Prop} {outcome : Outcome α}
    (leaves : outcome.Leaves kept) (implied : ∀ state, kept state → kept' state) :
    outcome.Leaves kept' := by
  cases outcome with
  | done value after | fault cause after => exact implied after leaves
  | crash after => trivial
  | endless => exact leaves

theorem Outcome.Leaves.bind {outcome : Outcome α} {next : α → State → Outcome β}
    (leaves : outcome.Leaves kept)
    (onward : ∀ value after, kept after → (next value after).Leaves kept) :
    (outcome.bind next).Leaves kept := by
  cases outcome with
  | done value after => exact onward value after leaves
  | fault cause after => exact leaves
  | crash after => trivial
  | endless => exact leaves

def Turn.Leaves (kept : State → Prop) : Turn → Prop
  | .returned _ after => kept after
  | .crashed _ => True
  | .endless => False

def Step.Keeps (kept : State → Prop) (step : Step α) : Prop :=
  ∀ state, kept state → (step state).Leaves kept

namespace Step.Keeps

variable {step : Step α} {next : α → Step β}

theorem pure (value : α) : (Pure.pure value : Step α).Keeps kept :=
  fun _ holds => holds

theorem get : Step.get.Keeps kept :=
  fun _ holds => holds

theorem fail (cause : Fault) : (Step.fail cause : Step α).Keeps kept :=
  fun _ holds => holds

theorem modify {change : State → State} (keeps : ∀ state, kept state → kept (change state)) :
    (Step.modify change).Keeps kept :=
  keeps

theorem ofResult (result : Except Fault α) : (Step.ofResult result).Keeps kept := by
  cases result with
  | ok value => exact pure value
  | error cause => exact fail cause

theorem orCrash (value : Option α) : (Step.orCrash value).Keeps kept := by
  cases value with
  | some value => exact pure value
  | none => exact fun _ _ => trivial

theorem bind (first : step.Keeps kept) (second : ∀ value, (next value).Keeps kept) :
    (step >>= next).Keeps kept :=
  fun state holds => (first state holds).bind second

theorem attempt (tried : step.Keeps kept) : step.attempt.Keeps kept := by
  intro state holds
  have left := tried state holds
  rw [Step.attempt]
  cases stepped : step state with
  | done value after | fault cause after | endless =>
    rw [stepped] at left
    exact left
  | crash after => trivial

end Step.Keeps

structure Step.Workable (kept : State → Prop) : Prop where
  push : ∀ cell, (push cell).Keeps kept
  pop : pop.Keeps kept
  write : ∀ text, (write text).Keeps kept
  note : ∀ event, (note event).Keeps kept

def Action.steers : Action → Bool
  | run _ | setCursor _ | capture _ | clearQuotations | halt | reset => true
  | _ => false

theorem Engine.prepare_keeps (engine : Engine) (works : Step.Workable kept) {action : Action}
    (plain : action.steers = false) (accumulator : Int) :
    (engine.prepare accumulator action).Keeps kept := by
  cases action with
  | run | setCursor | capture | clearQuotations | halt | reset => cases plain
  | runSpan span => exact .pure _
  | runQuotation handle =>
    refine .bind (.bind .get fun _ => .pure _) fun found => ?_
    cases found with
    | some body => exact .pure _
    | none => exact .pure _
  | push cell => exact (works.push _).bind fun _ => .pure _
  | pop => exact works.pop.bind fun _ => .pure _
  | peek below => exact .bind (.bind .get fun _ => .ofResult _) fun _ => .pure _
  | depth | stack | source | countQuotations => exact .bind .get fun _ => .pure _
  | cursor | isHalted => exact .bind (.bind .get fun _ => .pure _) fun _ => .pure _
  | frameRest | slice span => exact .bind (.bind .get fun _ => .orCrash _) fun _ => .pure _
  | quotationText handle =>
    refine .bind (.bind .get fun _ => .pure _) fun found => ?_
    cases found with
    | some body => exact .bind (.bind .get fun _ => .orCrash _) fun _ => .pure _
    | none => exact .pure _
  | quotationSpan handle =>
    refine .bind (.bind .get fun _ => .pure _) fun found => ?_
    cases found with
    | some body => exact .pure _
    | none => exact .pure _
  | write text => exact (works.write text).bind fun _ => .pure _
  | find name =>
    unfold prepare
    dsimp only
    split
    · exact .pure _
    · exact .pure _
  | settings | add amount => exact .pure _
  | give result => exact .bind (.ofResult result) fun _ => .pure _

/-- How a host finds the engine. If `own`, words captured all quotations. -/
structure State.Settled (own : Prop) (state : State) : Prop where
  rest : state.AtRest
  captured : own → state.Captured

variable {own : Prop} {state : State}

theorem State.Settled.watched (settled : state.Settled own) (halted : Bool) (sink : Sink)
    (events : List Event) (journal : List Entry) :
    State.Settled own
      { state with halted := halted, sink := sink, events := events, journal := journal } :=
  ⟨⟨settled.rest.nesting, settled.rest.frame, settled.rest.resetPending, settled.rest.depth⟩,
    settled.captured⟩

theorem State.Settled.clear (settled : state.Settled own) : state.clear.Settled own :=
  ⟨⟨settled.rest.nesting, rfl, rfl, Nat.zero_le _⟩, fun _ => Quotations.within_empty⟩

namespace Step

theorem push_settled (cell : Int32) : (push cell).Keeps (State.Settled own) := by
  intro state settled
  rw [push_apply]
  cases pushed : state.stack.push cell with
  | error cause => exact settled
  | ok stack =>
    have fits := Stack.push_fits pushed
    exact ⟨⟨settled.rest.nesting, settled.rest.frame, settled.rest.resetPending, fits⟩,
      settled.captured⟩

theorem pop_settled : pop.Keeps (State.Settled own) := by
  intro state settled
  rw [pop_apply]
  cases popped : state.stack.pop with
  | error cause => exact settled
  | ok result =>
    have fits := Stack.pop_fits settled.rest.depth popped
    exact ⟨⟨settled.rest.nesting, settled.rest.frame, settled.rest.resetPending, fits⟩,
      settled.captured⟩

theorem write_settled (text : Text) : (write text).Keeps (State.Settled own) := by
  intro state settled
  rw [write_apply]
  rcases state.sink.write text.toBytes with ⟨_ | _, sink⟩
  · exact settled.watched _ _ _ _
  · exact settled.watched _ _ _ _

theorem note_settled (event : Event) : (note event).Keeps (State.Settled own) :=
  .modify fun _ settled => settled.watched _ _ _ _

theorem setCursor_settled (position : Nat) : (setCursor position).Keeps (State.Settled own) := by
  intro state settled
  have stays : setCursor position state = .done () { state with frame := .idle } := by
    simp [setCursor, settled.rest.frame, Frame.idle, Text.boundaryFrom?]
  rw [stays, ← settled.rest.frame]
  exact settled

theorem reset_settled : reset.Keeps (State.Settled own) := by
  intro state settled
  have clears : reset state = .done () state.clear := by
    simp [reset, settled.rest.nesting]
  rw [clears]
  exact settled.clear

theorem append_settled (script : Text) : (append script).Keeps (State.Settled own) := by
  intro state settled
  exact ⟨⟨settled.rest.nesting, settled.rest.frame, settled.rest.resetPending,
    settled.rest.depth⟩, fun words => (settled.captured words).append script⟩

theorem load_settled (script : Text) : (load script).Keeps (State.Settled own) := by
  refine .bind (.modify fun _ settled => settled.watched _ _ _ _) fun _ => ?_
  refine .bind (append_settled script) fun span => ?_
  exact (note_settled _).bind fun _ => .pure span

end Step

theorem State.settled_workable : Step.Workable (State.Settled own) where
  push := Step.push_settled
  pop := Step.pop_settled
  write := Step.write_settled
  note := Step.note_settled

namespace Engine

variable {engine : Engine} {action : Action}

theorem runSpan_settled (standard : engine.dictionary = .standard) (span : Span) :
    (engine.runSpan span).Keeps (State.Settled own) := by
  intro state settled
  cases readable : state.arena.slice? span with
  | some inner =>
    obtain ⟨upshot, final, reads⟩ := Reads.exists standard state.arena engine.settings.maxNesting
      ⟨span.start, inner, state.memory⟩
    have shows := runSpan_shows settled.rest readable reads
    cases upshot with
    | none =>
      obtain ⟨after, crashed⟩ := shows
      rw [crashed]
      trivial
    | some result =>
      obtain ⟨after, returned, rest, arena, rfl⟩ := shows
      have captured (words : own) : after.Captured := by
        rw [State.Captured, arena]
        exact (Invariant.within engine _ (fun inner => ']' ∉ inner) fun _ => id).reads reads
          (Arena.stands_of_slice? readable) (settled.captured words)
      rw [returned]
      cases result with
      | ok => exact ⟨rest, captured⟩
      | error cause => exact ⟨rest, captured⟩
  | none =>
    rw [runSpan, levels, readAt]
    cases halted : state.halted with
    | false =>
      obtain ⟨after, crashed⟩ := readFrame_of_unreadable engine
        (engine.readAt engine.settings.maxNesting) readable halted
      rw [crashed]
      trivial
    | true =>
      rw [readFrame_of_halted engine _ span halted (.inr settled.rest.resetPending)]
      split
      · exact settled
      · trivial

theorem prepare_settled (engine : Engine) (leaves : own → ∀ body, action ≠ .capture body)
    (accumulator : Int) : (engine.prepare accumulator action).Keeps (State.Settled own) := by
  cases steers : action.steers with
  | false => exact engine.prepare_keeps State.settled_workable steers accumulator
  | true =>
    cases action with
    | run script => exact (Step.load_settled script).bind fun _ => .pure _
    | setCursor position =>
      exact (Step.setCursor_settled _).bind fun _ => .bind (.bind .get fun _ => .pure _) fun _ =>
        .pure _
    | capture body =>
      intro state settled
      exact ⟨⟨settled.rest.nesting, settled.rest.frame, settled.rest.resetPending,
        settled.rest.depth⟩, fun words => absurd rfl (leaves words body)⟩
    | clearQuotations =>
      refine .bind (.modify fun state settled => ?_) fun _ => .bind .get fun _ => .pure _
      exact ⟨⟨settled.rest.nesting, settled.rest.frame, settled.rest.resetPending,
        settled.rest.depth⟩, fun _ => Quotations.within_empty⟩
    | halt =>
      exact .bind (.modify fun _ settled => settled.watched _ _ _ _) fun _ =>
        .bind (.bind .get fun _ => .pure _) fun _ => .pure _
    | reset =>
      exact Step.reset_settled.bind fun _ => .bind (.bind .get fun _ => .pure _) fun _ => .pure _
    | _ => cases steers

theorem answer_settled {read : Span → Step Unit}
    (reads : ∀ span, (read span).Keeps (State.Settled own))
    (leaves : own → ∀ body, action ≠ .capture body) (accumulator : Int) :
    (engine.answer read accumulator action).Keeps (State.Settled own) := by
  refine (prepare_settled engine leaves accumulator).bind fun due => ?_
  cases due with
  | now answer => exact .pure _
  | reading span answer => exact (reads span).bind fun _ => .pure _

theorem turn_settled (standard : engine.dictionary = .standard)
    (leaves : own → ∀ body, action ≠ .capture body) (settled : state.Settled own) :
    (engine.turn action state).Leaves (State.Settled own) := by
  have acts : (engine.act action).Keeps (State.Settled own) :=
    (answer_settled (runSpan_settled standard) leaves 0).bind fun _ => .pure _
  have left := acts state.hush (settled.watched _ _ _ _)
  rw [turn]
  cases acted : engine.act action state.hush with
  | done answer after | fault cause after =>
    rw [acted] at left
    exact left
  | crash after => trivial
  | endless =>
    rw [acted] at left
    exact left

theorem start?_settled {sink : Sink} (started : engine.start? sink = some state) :
    state.Settled own :=
  ⟨start?_atRest started, fun _ => start?_captured started⟩

theorem session_settled (standard : engine.dictionary = .standard) {actions : List Action}
    (leaves : own → ∀ body, .capture body ∉ actions) (settled : state.Settled own) :
    ∀ turn ∈ engine.session state actions, turn.Leaves (State.Settled own) := by
  induction actions generalizing state with
  | nil =>
    intro turn member
    cases member
  | cons action rest ih =>
    intro turn member
    have left : (engine.turn action state).Leaves (State.Settled own) :=
      turn_settled standard (fun words body same => leaves words body (by simp [same])) settled
    rw [session] at member
    cases shown : engine.turn action state with
    | returned result after =>
      rw [shown] at left member
      rcases List.mem_cons.1 member with rfl | later
      · exact left
      · exact ih (fun words body found => leaves words body (List.mem_cons_of_mem _ found)) left
          turn later
    | crashed after =>
      rw [shown] at member
      rw [List.mem_singleton.1 member]
      trivial
    | endless =>
      rw [shown] at left
      exact left.elim

end Engine

end StackScript

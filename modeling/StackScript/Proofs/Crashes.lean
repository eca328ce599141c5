import StackScript.Proofs.Frames
import StackScript.Proofs.Hosting
import StackScript.Proofs.Requests

set_option autoImplicit false

namespace StackScript

open Step

variable {α β : Type}

def Outcome.Yields (holds : α → State → Prop) : Outcome α → Prop
  | .done value after => holds value after
  | .fault _ _ => True
  | .crash _ | .endless => False

def Step.Yields (holds : α → State → Prop) (step : Step α) : Prop :=
  ∀ state, (step state).Yields holds

abbrev Step.Returns (step : Step α) : Prop :=
  step.Yields fun _ _ => True

theorem Outcome.Yields.returns {holds : α → State → Prop} {outcome : Outcome α}
    (yields : outcome.Yields holds) : outcome.returns = true := by
  cases outcome with
  | done value after | fault cause after => rfl
  | crash after | endless => cases yields

theorem Outcome.Yields.bind {first : α → State → Prop} {second : β → State → Prop}
    {outcome : Outcome α} {next : α → State → Outcome β} (yields : outcome.Yields first)
    (onward : ∀ value after, first value after → (next value after).Yields second) :
    (outcome.bind next).Yields second := by
  cases outcome with
  | done value after => exact onward value after yields
  | fault cause after => trivial
  | crash after | endless => cases yields

namespace Step.Yields

variable {step : Step α} {next : α → Step β} {holds : β → State → Prop}

theorem pure {value : β} (always : ∀ state, holds value state) :
    (Pure.pure value : Step β).Yields holds :=
  always

theorem bind (first : step.Returns) (second : ∀ value, (next value).Yields holds) :
    (step >>= next).Yields holds :=
  fun state => (first state).bind fun value after _ => second value after

theorem value (value : α) : (Pure.pure value : Step α).Returns :=
  fun _ => trivial

theorem get : Step.get.Returns :=
  fun _ => trivial

theorem modify (change : State → State) : (Step.modify change).Returns :=
  fun _ => trivial

theorem ofResult (result : Except Fault α) : (Step.ofResult result).Returns := by
  cases result with
  | ok value => exact fun _ => trivial
  | error cause => exact fun _ => trivial

theorem push (cell : Int32) : (Step.push cell).Returns :=
  bind get fun _ => bind (ofResult _) fun _ => modify _

theorem pop : Step.pop.Returns :=
  bind get fun _ => bind (ofResult _) fun _ => bind (modify _) fun _ => value _

theorem write (text : Text) : (Step.write text).Returns := by
  intro state
  rw [write_apply]
  rcases state.sink.write text.toBytes with ⟨_ | _, sink⟩
  · trivial
  · trivial

theorem reset : Step.reset.Returns := by
  refine bind get fun state => ?_
  split
  · exact modify _
  · exact bind (modify _) fun _ => bind (modify _) fun _ => modify _

end Step.Yields

theorem Step.slice_apply {state : State} {span : Span} {inner : Text}
    (cut : state.arena.slice? span = some inner) : slice span state = .done inner state := by
  rw [slice, bind_apply, get_apply, Outcome.bind_done, cut]
  rfl

theorem Arena.slice?_eq_none_iff {arena : Arena} {span : Span} (fits : span.fits = true) :
    arena.slice? span = none ↔ ¬ (span.stop ≤ arena.size ∧
      arena.text.isBoundary span.start = true ∧ arena.text.isBoundary span.stop = true) := by
  rw [← Option.not_isSome_iff_eq_none, Option.isSome_iff_exists, not_iff_not]
  constructor
  · rintro ⟨inner, found⟩
    have bounds := Text.isBoundary_of_slice? (slice?_eq_some_iff.1 found).2
    exact ⟨Text.le_size_of_isBoundary bounds.2, bounds⟩
  · rintro ⟨_, starts, stops⟩
    obtain ⟨inner, cut⟩ := Text.exists_slice? starts stops (Nat.le_add_right _ _)
    exact ⟨inner, slice?_eq_some_iff.2 ⟨fits, cut⟩⟩

def Due.Readable (due : Due α) (state : State) : Prop :=
  match due with
  | now _ => True
  | reading span _ => ∃ inner, state.arena.slice? span = some inner

/-- The host captures and cuts out no span of its own, and the arena has room for what it hands
over. -/
structure Action.Tame (state : State) (action : Action) : Prop where
  captures : action.captures = false
  uncut : ∀ span, action ≠ .runSpan span ∧ action ≠ .slice span
  holds : ∀ script, action = .run script → state.arena.Holds script

theorem Action.ne_capture {action : Action} (captures : action.captures = false) (body : Span) :
    action ≠ .capture body := by
  rintro rfl
  cases captures

namespace Engine

variable {engine : Engine} {state : State} {action : Action}

theorem prepare_yields (settled : state.Settled True) (tame : action.Tame state)
    (accumulator : Int) :
    (engine.prepare accumulator action state).Yields Due.Readable := by
  have always (yields : (engine.prepare accumulator action).Yields Due.Readable) :
      (engine.prepare accumulator action state).Yields Due.Readable := yields state
  have now (value : Answer × Int) : (return .now value : Step (Due (Answer × Int))).Yields
      Due.Readable := .pure fun _ => trivial
  have fits : state.frame.Fits state.arena.text := by
    rw [settled.rest.frame]
    exact .idle _
  have readable := (settled.captured trivial).readable
  -- One case for each action. Most of them look around, and those that cut find a frame that fits.
  cases action with
  | runSpan span => exact absurd rfl (tame.uncut span).1
  | slice span => exact absurd rfl (tame.uncut span).2
  | run script => exact ⟨script, Arena.slice?_append_script (tame.holds script rfl)⟩
  | setCursor position =>
    obtain ⟨cursor, moved, _⟩ := fits.setCursor_done (position.getD accumulator).toNat
    rw [prepare, bind_apply, moved]
    trivial
  | frameRest =>
    obtain ⟨rest, left⟩ := fits.frameRest_done
    rw [prepare, bind_apply, left]
    trivial
  | runQuotation handle =>
    rw [prepare, bind_apply, quotation?_apply, Outcome.bind_done]
    cases found : state.quotations.get? (Int32.ofInt (handle.getD accumulator)) with
    | some body =>
      obtain ⟨inner, cut, _⟩ := readable body (Quotations.mem_of_get? found)
      exact ⟨inner, cut⟩
    | none => trivial
  | quotationText handle =>
    rw [prepare, bind_apply, quotation?_apply, Outcome.bind_done]
    cases found : state.quotations.get? (Int32.ofInt (handle.getD accumulator)) with
    | some body =>
      obtain ⟨inner, cut, _⟩ := readable body (Quotations.mem_of_get? found)
      dsimp only
      rw [bind_apply, slice_apply cut]
      trivial
    | none => trivial
  | quotationSpan handle =>
    refine always (.bind (.bind .get fun _ => .value _) fun found => ?_)
    cases found with
    | some body => exact now _
    | none => exact now _
  | push cell => exact always (.bind (.push _) fun _ => now _)
  | pop => exact always (.bind .pop fun _ => now _)
  | peek below => exact always (.bind (.bind .get fun _ => .ofResult _) fun _ => now _)
  | depth | stack | source | countQuotations => exact always (.bind .get fun _ => now _)
  | cursor | isHalted =>
    exact always (.bind (.bind .get fun _ => .value _) fun _ => now _)
  | capture body =>
    exact always (.bind (.bind .get fun _ => .bind (.modify _) fun _ => .value _) fun _ => now _)
  | clearQuotations => exact always (.bind (.modify _) fun _ => .bind .get fun _ => now _)
  | write text => exact always (.bind (.write text) fun _ => now _)
  | halt =>
    refine always (.bind (.modify _) fun _ => .bind (.bind .get fun _ => .value _) fun _ => ?_)
    exact now _
  | reset =>
    refine always (.bind .reset fun _ => .bind (.bind .get fun _ => .value _) fun _ => ?_)
    exact now _
  | find name =>
    refine always ?_
    unfold prepare
    dsimp only
    split
    · exact now _
    · exact now _
  | settings | add amount => exact always (now _)
  | give result => exact always (.bind (.ofResult result) fun _ => now _)

theorem answer_returns (standard : engine.dictionary = .standard) (settled : state.Settled True)
    (tame : action.Tame state) (accumulator : Int) :
    (engine.answer engine.runSpan accumulator action state).returns = true := by
  have kept := engine.prepare_settled (fun _ => Action.ne_capture tame.captures) accumulator state
    settled
  have yields := engine.prepare_yields settled tame accumulator
  rw [answer, bind_apply]
  cases prepared : engine.prepare accumulator action state with
  | done due after =>
    rw [prepared] at kept yields
    cases due with
    | now answer => rfl
    | reading span answer =>
      obtain ⟨inner, found⟩ := yields
      obtain ⟨result, last, returned⟩ := runSpan_returns standard kept.rest found
        (kept.captured trivial).readable
      rw [Outcome.bind_done, Due.settle, bind_apply, returned]
      cases result with
      | ok value => rfl
      | error cause => rfl
  | fault cause after => rfl
  | crash after | endless =>
    rw [prepared] at yields
    cases yields

theorem Between.settled (standard : engine.dictionary = .standard)
    (between : engine.Between (fun action => action.captures = false) state) :
    state.Settled True := by
  induction between with
  | start started => exact start?_settled started
  | @turn action result before state _ wanted returned ih =>
    have left := turn_settled standard (fun _ => Action.ne_capture wanted) ih
    rw [returned] at left
    exact left

theorem runSpan_crashes_iff (standard : engine.dictionary = .standard)
    (settled : state.Settled True) (span : Span) :
    (∃ last, engine.runSpan span state = .crash last) ↔
      span.fits = false ∨ state.halted = false ∧ state.arena.slice? span = none := by
  constructor
  · rintro ⟨last, crashed⟩
    by_contra safe
    rw [not_or, Bool.not_eq_false] at safe
    obtain ⟨fits, safe⟩ := safe
    cases found : state.arena.slice? span with
    | some inner =>
      obtain ⟨result, after, returned⟩ := runSpan_returns standard settled.rest found
        (settled.captured trivial).readable
      exact returned_ne_crash (returned.symm.trans crashed)
    | none =>
      have halted : state.halted = true := by
        by_contra running
        exact safe ⟨Bool.eq_false_iff.2 running, found⟩
      have passes := readFrame_of_halted engine (engine.readAt engine.settings.maxNesting) span
        halted (.inr settled.rest.resetPending)
      rw [runSpan, levels, readAt, passes, if_pos fits] at crashed
      cases crashed
  · rintro (long | ⟨running, unreadable⟩)
    · refine ⟨state, ?_⟩
      rw [runSpan, levels, readAt, readFrame, if_neg (Bool.eq_false_iff.1 long)]
    · rw [runSpan, levels, readAt]
      exact engine.readFrame_of_unreadable _ unreadable running

theorem turn_apply (engine : Engine) (action : Action) (state : State) :
    engine.turn action state =
      match engine.answer engine.runSpan 0 action state.hush with
      | .done answer after => .returned (.ok answer.1) after
      | .fault cause after => .returned (.error cause) after
      | .crash after => .crashed after
      | .endless => .endless := by
  have acts : engine.act action state.hush =
      (engine.answer engine.runSpan 0 action state.hush).bind
        fun answer after => .done answer.1 after := rfl
  rw [turn, acts]
  cases engine.answer engine.runSpan 0 action state.hush <;> rfl

theorem turn_returns (answers : (engine.answer engine.runSpan 0 action state.hush).returns = true) :
    ∃ result after, engine.turn action state = .returned result after := by
  rw [turn_apply]
  cases answered : engine.answer engine.runSpan 0 action state.hush with
  | done answer after | fault cause after => exact ⟨_, _, rfl⟩
  | crash after | endless =>
    rw [answered] at answers
    cases answers

theorem turn_runSpan_crashes_iff (span : Span) :
    (∃ last, engine.turn (.runSpan span) state = .crashed last) ↔
      ∃ last, engine.runSpan span state.hush = .crash last := by
  have answers : engine.answer engine.runSpan 0 (.runSpan span) state.hush =
      (engine.runSpan span state.hush).bind fun _ after => .done (.nothing, 0) after := rfl
  rw [turn_apply, answers]
  cases engine.runSpan span state.hush with
  | done value after | fault cause after => exact ⟨nofun, nofun⟩
  | crash after => exact ⟨fun _ => ⟨after, rfl⟩, fun _ => ⟨after, rfl⟩⟩
  | endless => exact ⟨nofun, nofun⟩

/-- While the host captures nothing, what it asks for returns. It crashes the engine only by what
it cuts out: by reading a span whose end is no machine word, or one that is no part of the arena,
unless the engine is halted. -/
theorem Between.crashes_iff (standard : engine.dictionary = .standard)
    (between : engine.Between (fun action => action.captures = false) state) :
    (∀ action : Action, action.Tame state →
      ∃ result after, engine.turn action state = .returned result after) ∧
    ∀ span : Span, (∃ last, engine.turn (.runSpan span) state = .crashed last) ↔
      wordLimit ≤ span.start + span.length ∨
      state.halted = false ∧ ¬ (span.start + span.length ≤ state.arena.size ∧
        state.arena.text.isBoundary span.start = true ∧
        state.arena.text.isBoundary (span.start + span.length) = true) := by
  have settled : state.hush.Settled True := (between.settled standard).watched _ _ _ _
  constructor
  · intro action tame
    have hushed : action.Tame state.hush := ⟨tame.captures, tame.uncut, tame.holds⟩
    exact turn_returns (answer_returns standard settled hushed 0)
  · intro span
    rw [turn_runSpan_crashes_iff, runSpan_crashes_iff standard settled]
    by_cases fits : span.fits = true
    · have short : ¬ wordLimit ≤ span.start + span.length := Nat.not_le.2 (Span.fits_iff.1 fits)
      have unreadable : state.arena.slice? span = none ↔ _ := Arena.slice?_eq_none_iff fits
      simp only [fits, short, Bool.true_eq_false, false_or]
      exact and_congr_right fun _ => unreadable
    · have long : wordLimit ≤ span.start + span.length := Nat.not_lt.1 (mt Span.fits_iff.2 fits)
      exact iff_of_true (.inl (Bool.eq_false_iff.2 fits)) (.inl long)

theorem Between.crashes_iff_character : ∃ state,
    (Engine.mk .standard .default).Between (fun action => action.captures = false) state ∧
    state.arena.text = "[ é ]".toList ∧ state.quotations.bodies = #[⟨1, 4⟩] ∧
    (∃ result after, (Engine.mk .standard .default).turn (.runQuotation (some 0)) state =
      .returned result after) ∧
    ∃ last, (Engine.mk .standard .default).turn (.runSpan ⟨0, 3⟩) state = .crashed last := by
  have started : (Engine.mk .standard .default).start? .unlimited = some _ := rfl
  have between := @Between.turn (.mk .standard .default) (fun action => action.captures = false)
    (.run "[ é ]".toList) (.ok .nothing) _ _ (.start started) rfl rfl
  obtain ⟨returns, crashes⟩ := between.crashes_iff rfl
  have tame (state : State) : (Action.runQuotation (some 0)).Tame state :=
    ⟨rfl, fun _ => ⟨nofun, nofun⟩, nofun⟩
  exact ⟨_, between, rfl, rfl, returns _ (tame _), (crashes _).2 (.inr ⟨rfl, by decide⟩)⟩

end Engine

end StackScript

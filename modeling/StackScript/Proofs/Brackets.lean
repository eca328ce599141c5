import StackScript.Proofs.Arity
import StackScript.Proofs.Quoting

set_option autoImplicit false

namespace StackScript

open Step

def Quotations.Reads (quotations : Quotations) (frame : Frame) : Prop :=
  ∃ body ∈ quotations.bodies, frame.start = body.start ∧ frame.stop = body.stop

def Waiting.Quotation : Waiting → Prop
  | reader | request _ (.runQuotation _) _ => True
  | request _ _ _ => False

def Waiting.Inner (callers : List Caller) (waiting : Waiting) : Prop :=
  callers ≠ [] ∨ waiting.Quotation

def Caller.AllRead (quotations : Quotations) : Frame → List Caller → Prop
  | _, [] => True
  | frame, caller :: callers => (caller.waiting.Inner callers → quotations.Reads frame) ∧
      AllRead quotations caller.frame callers

def Task.Reads (quotations : Quotations) (callers : List Caller) : Task → Prop
  | enter span waiting => waiting.Inner callers → span ∈ quotations.bodies
  | _ => True

/-- Every frame that is open, or about to be, reads the body of a quotation, save the one of a
script or a span that the host asked for. -/
structure Moment.ReadsBodies (moment : Moment) : Prop where
  frames : Caller.AllRead moment.state.quotations moment.state.frame moment.callers
  task : moment.task.Reads moment.state.quotations moment.callers

def Step.FindsBodies (step : Step Errand) : Prop :=
  ∀ (state : State) (span : Span) (after : State),
    step state = .done (.read span) after → span ∈ after.quotations.bodies

def Engine.FailsUnclosed (engine : Engine) (asks : Action → Prop) (callers : List Caller)
    (state : State) : Prop :=
  ∃ after, (∀ later, engine.Leads asks ⟨.read, callers, state⟩ later ↔
      later = ⟨.leave (.error (if state.stack.depth < state.stack.capacity
        then .unterminatedQuotation else .stackOverflow)), callers, after⟩) ∧
    after.stack = state.stack ∧ after.quotations = state.quotations

structure State.Quotable (state : State) (body : Text) : Prop where
  atRest : state.AtRest
  few : state.quotations.size < 2 ^ 31
  room : state.stack.depth < state.stack.capacity
  blank : body.head?.any isBlank = true
  bare : ']' ∉ body

section Unclosed

variable {engine : Engine} {asks : Action → Prop} {callers : List Caller} {state behind : State}
  {rest : Text}

namespace Engine

theorem readWord_unclosed (standard : engine.dictionary = .standard)
    (named : nextName? state = .done (some ['[']) behind) (left : behind.frameRest? = some rest)
    (bare : ']' ∉ rest) :
    engine.readWord state =
      if behind.stack.depth < behind.stack.capacity then
        .fault .unterminatedQuotation (behind.note (.invoking ['['] behind.stack))
      else .fault .stackOverflow behind := by
  have meaning : engine.dictionary.meaning ['['] =
      .word (Dictionary.builtin "[" 0 1 .quote) := by
    rw [standard]
    rfl
  have inputs : ¬ behind.stack.depth < (Dictionary.builtin "[" 0 1 .quote).inputs :=
    Nat.not_lt_zero _
  have outputs : behind.stack.room < (Dictionary.builtin "[" 0 1 .quote).growth ↔
      ¬ behind.stack.depth < behind.stack.capacity := by
    simp only [Stack.room, Word.growth, Dictionary.builtin]
    omega
  rw [readWord_of_word named meaning, checkArity_apply, if_neg inputs]
  by_cases room : behind.stack.depth < behind.stack.capacity
  · rw [if_neg (fun full => outputs.1 full room), if_pos room]
    have noted : (behind.note (.invoking ['['] behind.stack)).frameRest? = some rest := left
    exact congrArg (fun outcome : Outcome Unit =>
      (outcome.bind fun _ after => .done Errand.nothing after).bind
        fun errand => .done errand.task)
      (Builtin.captureBody_of_unclosed noted (Builtin.bodyOf?_eq_none_iff.2 bare))
  · rw [if_pos (outputs.2 room), if_neg room]
    rfl

theorem failsUnclosed (standard : engine.dictionary = .standard)
    (named : nextName? state = .done (some ['[']) behind) (left : behind.frameRest? = some rest)
    (bare : ']' ∉ rest) : engine.FailsUnclosed asks callers state := by
  have word := engine.readWord_unclosed standard named left bare
  obtain ⟨_, _, cursor, rfl⟩ := nextName?_some named
  by_cases room : state.stack.depth < state.stack.capacity
  · rw [FailsUnclosed, if_pos room]
    exact ⟨_, fun _ => leads_of_fault (word.trans (if_pos room)), rfl, rfl⟩
  · rw [FailsUnclosed, if_neg room]
    exact ⟨_, fun _ => leads_of_fault (word.trans (if_neg room)), rfl, rfl⟩

end Engine

end Unclosed

section Frames

variable {engine : Engine} {asks : Action → Prop} {quotations after : Quotations}
  {frame other : Frame} {callers : List Caller} {caller : Caller} {state : State}
  {moment later : Moment}

theorem Caller.AllRead.grows (reads : Caller.AllRead quotations frame callers)
    (start : other.start = frame.start) (stop : other.stop = frame.stop)
    (grown : ∃ bodies, after.bodies = quotations.bodies ++ bodies) :
    Caller.AllRead after other callers := by
  obtain ⟨bodies, grown⟩ := grown
  induction callers generalizing frame other with
  | nil => trivial
  | cons caller callers ih =>
    obtain ⟨outer, callers⟩ := reads
    refine ⟨fun inner => ?_, ih callers rfl rfl⟩
    obtain ⟨body, member, starts, stops⟩ := outer inner
    refine ⟨body, ?_, start.trans starts, stop.trans stops⟩
    rw [grown]
    exact Array.mem_append_left bodies member

theorem Caller.AllRead.closes {place after : Place}
    (reads : Caller.AllRead place.quotations place.frame (caller :: callers))
    (above : place.Above (caller :: callers)) (closes : Place.Closes caller.frame place after) :
    Caller.AllRead after.quotations after.frame callers := by
  cases closes with
  | back => exact reads.2
  | reset last =>
    have none : callers = [] := by
      rw [above.nesting] at last
      exact List.length_eq_zero_iff.1 last
    subst none
    trivial

theorem Outcome.exists_of_bind {α β : Type} {outcome : Outcome α} {next : α → Step β} {value : β}
    {after : State} (done : outcome.bind next = .done value after) :
    ∃ middle between, outcome = .done middle between ∧ next middle between = .done value after := by
  cases outcome with
  | done middle between => exact ⟨middle, between, rfl, done⟩
  | fault cause between | crash between | endless => cases done

namespace Step.FindsBodies

theorem bind {α : Type} {step : Step α} {next : α → Step Errand}
    (onward : ∀ value, (next value).FindsBodies) : (step >>= next).FindsBodies := by
  intro state span after done
  obtain ⟨value, between, _, done⟩ := Outcome.exists_of_bind done
  exact onward value between span after done

theorem nothing : (return .nothing : Step Errand).FindsBodies := by
  intro state span after done
  cases done

theorem perform (program : Program) : (return .perform program : Step Errand).FindsBodies := by
  intro state span after done
  cases done

end Step.FindsBodies

theorem Builtin.mem_of_callee {after : State} {span : Span}
    (found : callee state = .done (some span) after) : span ∈ after.quotations.bodies := by
  obtain ⟨handle, between, _, found⟩ := Outcome.exists_of_bind found
  rw [bind_apply, quotation?_apply, Outcome.bind_done] at found
  cases known : between.quotations.get? handle with
  | some body =>
    rw [known] at found
    cases found
    exact Quotations.mem_of_get? known
  | none =>
    rw [known] at found
    cases found

theorem Builtin.errand_findsBodies (builtin : Builtin) : builtin.errand.FindsBodies := by
  by_cases call : builtin = .call
  · subst call
    intro state span after done
    obtain ⟨found, between, called, done⟩ := Outcome.exists_of_bind done
    cases found with
    | some body =>
      cases done
      exact mem_of_callee called
    | none => cases done
  · rw [errand_eq call]
    exact .bind fun _ => .nothing

namespace Engine

theorem errand_findsBodies (engine : Engine) (name : Text) : (engine.errand name).FindsBodies := by
  unfold errand
  split
  · next word _ =>
    refine .bind fun _ => ?_
    cases word.operation with
    | builtin builtin => exact builtin.errand_findsBodies
    | program program => exact .perform program
  · exact .bind fun _ => .bind fun _ => .nothing
  · intro state span after done
    cases done

theorem readWord_reads {task : Task} {after : State}
    (word : engine.readWord state = .done task after) (callers : List Caller) :
    task.Reads after.quotations callers := by
  rcases engine.readWord_cases state with crashed | ⟨cursor, left⟩ | ⟨name, behind, _, found⟩
  · cases crashed.symm.trans word
  · cases left.symm.trans word
    trivial
  · obtain ⟨errand, _, sent, same⟩ := Outcome.exists_of_bind (found.symm.trans word)
    cases same
    cases errand with
    | nothing | perform program => trivial
    | read span => exact fun _ => engine.errand_findsBodies name behind span after sent

theorem Shifts.frame_read {after : Place} (shifts : engine.Shifts ⟨.read, callers, state⟩ after) :
    after.frame.start = state.frame.start ∧ after.frame.stop = state.frame.stop := by
  cases shifts with
  | nothing | finds => exact ⟨rfl, rfl⟩
  | obeys obeys =>
    cases obeys with
    | behind => exact ⟨rfl, rfl⟩
    | quotes _ _ _ _ quotes =>
      cases quotes with
      | nothing => exact ⟨rfl, rfl⟩
      | captured _ moves =>
        obtain ⟨cursor, _, rfl⟩ := moves.moved
        exact ⟨rfl, rfl⟩

theorem Shifts.reads_read {after : Place} (shifts : engine.Shifts ⟨.read, callers, state⟩ after)
    (frames : Caller.AllRead state.quotations state.frame callers) :
    Caller.AllRead after.quotations after.frame callers := by
  obtain ⟨start, stop⟩ := shifts.frame_read
  exact frames.grows start stop (shifts.grows nofun).quotations

theorem prepare_reads {accumulator : Int} {action : Action} {after : State} {span : Span}
    {answer : Answer × Int}
    (prepared : engine.prepare accumulator action state = .done (.reading span answer) after)
    (inner : (Waiting.request .host action answer).Inner []) : span ∈ after.quotations.bodies := by
  have asked : (Waiting.request .host action answer).Quotation :=
    inner.resolve_left (not_not.2 rfl)
  cases action with
  | runQuotation handle =>
    rw [prepare, bind_apply, quotation?_apply, Outcome.bind_done] at prepared
    cases known : state.quotations.get? (Int32.ofInt (handle.getD accumulator)) with
    | some body =>
      rw [known] at prepared
      cases prepared
      exact Quotations.mem_of_get? known
    | none =>
      rw [known] at prepared
      cases prepared
  | _ => cases asked

end Engine

theorem Asker.readsBodies_hear (frames : Caller.AllRead state.quotations state.frame callers)
    (asker : Asker) (action : Action) (result : Except Fault (Answer × Int)) :
    (asker.hear action result callers state).ReadsBodies := by
  cases asker with
  | host => exact ⟨frames, trivial⟩
  | word next => exact ⟨frames, trivial⟩

theorem Task.after_reads (result : Except Fault Unit) :
    (Task.after result).Reads quotations callers := by
  cases result with
  | ok value => trivial
  | error cause => trivial

theorem Waiting.readsBodies_resume (frames : Caller.AllRead state.quotations state.frame callers)
    (waiting : Waiting) (result : Except Fault Unit) :
    (waiting.resume result callers state).ReadsBodies := by
  cases waiting with
  | reader => exact ⟨frames, Task.after_reads result⟩
  | request asker action answer => exact asker.readsBodies_hear frames action _

namespace Engine

theorem Leads.readsBodies (sound : moment.Sound engine)
    (only : (moment.Only fun _ => False) ∨
      ∃ accumulator action state, moment = ⟨.ask .host accumulator action, [], state⟩)
    (leads : engine.Leads asks moment later) (reads : moment.ReadsBodies) :
    later.ReadsBodies := by
  obtain ⟨frames, task⟩ := reads
  have shifts := leads.shifts
  -- Only the host asks for actions, and he does where no frame is open.
  cases leads with
  | request => exact ⟨trivial, trivial⟩
  | answer | refuse | breakAction =>
    rcases only with ⟨⟨_, ⟨⟩⟩, _⟩ | ⟨_, _, _, ⟨⟩⟩
    exact ⟨trivial, trivial⟩
  | await prepared =>
    rcases only with ⟨⟨_, ⟨⟩⟩, _⟩ | ⟨_, _, _, ⟨⟩⟩
    exact ⟨trivial, prepare_reads prepared⟩
  | ask => exact ⟨frames, trivial⟩
  | finish => exact ⟨frames, Task.after_reads _⟩
  | read word => exact ⟨shifts.reads_read frames, readWord_reads word _⟩
  | fail | breakWord => exact ⟨shifts.reads_read frames, trivial⟩
  | tooDeep => exact Waiting.readsBodies_resume frames _ _
  | enter => exact ⟨⟨fun inner => ⟨_, task inner, rfl, rfl⟩, frames⟩, trivial⟩
  | breakSpan => exact ⟨frames, trivial⟩
  | leave =>
    have closed := frames.closes sound.above (State.place_closeFrame _ _)
    exact Waiting.readsBodies_resume closed _ _

theorem Reaches.only_host (standard : engine.dictionary = .standard)
    (reaches : engine.Reaches asks moment) : (moment.Only fun _ => False) ∨
      ∃ accumulator action state, moment = ⟨.ask .host accumulator action, [], state⟩ := by
  apply reaches.only_or_host
  rw [standard]
  exact Dictionary.only_standard _

theorem Reaches.readsBodies (standard : engine.dictionary = .standard)
    (reaches : engine.Reaches asks moment) : moment.ReadsBodies := by
  induction reaches with
  | start => exact ⟨trivial, trivial⟩
  | next reached leads ih => exact leads.readsBodies reached.sound (reached.only_host standard) ih

end Engine

theorem Place.Enclosed.bare {place : Place} {rest : Text} (enclosed : place.Enclosed)
    (reads : place.quotations.Reads place.frame)
    (ordered : place.frame.start ≤ place.frame.cursor) (left : place.rest? = some rest) :
    ']' ∉ rest := by
  obtain ⟨body, member, start, stop⟩ := reads
  obtain ⟨inner, cut, bare, _⟩ := (enclosed body member).inner
  rw [← start, ← stop] at cut
  exact fun found => bare ((Text.suffix_of_slice? cut left ordered).mem found)

namespace Engine

theorem Obeys.quotations_of_bare {place after : Place}
    (bare : ∀ {rest}, place.rest? = some rest → ']' ∉ rest) (obeys : engine.Obeys place after) :
    after.quotations = place.quotations := by
  cases obeys with
  | behind => rfl
  | @quotes _ rest _ left _ _ _ quotes =>
    cases quotes with
    | nothing => rfl
    | captured closed =>
      have absent := bare left
      rw [Token.scan_split place.frame.cursor rest] at absent
      have unclosed := Builtin.bodyOf?_eq_none_iff.2
        fun found => absent (List.mem_append_right _ found)
      cases unclosed.symm.trans closed

theorem Reaches.start_le_cursor (reached : engine.Reaches asks ⟨.read, callers, state⟩) :
    state.frame.start ≤ state.frame.cursor := by
  rcases reached.sound.ready.2 with opened | fits
  · exact Nat.le_of_eq opened
  · exact fits.start_le

theorem Reaches.reads_of_inner (standard : engine.dictionary = .standard)
    (reached : engine.Reaches asks ⟨.read, caller :: callers, state⟩)
    (inner : caller.waiting.Inner callers) : state.quotations.Reads state.frame :=
  (reached.readsBodies standard).frames.1 inner

theorem Reaches.failsUnclosed (standard : engine.dictionary = .standard)
    (reached : engine.Reaches asks ⟨.read, caller :: callers, state⟩)
    (inner : caller.waiting.Inner callers) (enclosed : state.place.Enclosed) {behind : State}
    (named : nextName? state = .done (some ['[']) behind) :
    engine.FailsUnclosed asks (caller :: callers) state := by
  have reads := reached.reads_of_inner standard inner
  have fits := reached.fits_behind named
  obtain ⟨rest, left⟩ := Text.exists_slice? fits.cursor fits.stop fits.cursor_le
  obtain ⟨_, _, cursor, rfl⟩ := nextName?_some named
  have enclosed : (state.at cursor).place.Enclosed := enclosed
  exact Engine.failsUnclosed standard named left (enclosed.bare reads fits.start_le left)

theorem Reaches.captures_outermost (standard : engine.dictionary = .standard)
    (reaches : engine.Reaches asks moment) (enclosed : moment.state.place.Enclosed)
    (leads : engine.Leads asks moment later)
    (more : moment.state.quotations.size < later.state.quotations.size) :
    (∃ accumulator body, moment.task = .ask .host accumulator (.capture body)) ∨
      moment.task = .read ∧ ∃ caller, moment.callers = [caller] ∧ ¬ caller.waiting.Quotation := by
  have shifts := leads.shifts
  have more : moment.state.place.quotations.size < later.state.place.quotations.size := more
  generalize later.state.place = after at shifts more
  cases shifts with
  | nothing | finds | opens => exact absurd more (Nat.lt_irrefl _)
  | alters alters =>
    rcases reaches.only_host standard with ⟨⟨_, ⟨⟩⟩, _⟩ | ⟨_, _, _, ⟨⟩⟩
    cases alters with
    | capture => exact .inl ⟨_, _, rfl⟩
    | nothing | load | postpone => exact absurd more (Nat.lt_irrefl _)
    | move moves =>
      obtain ⟨_, _, rfl⟩ := moves.moved
      exact absurd more (Nat.lt_irrefl _)
    | forget | clear => exact absurd more (Nat.not_lt_zero _)
  | @obeys callers state _ obeys =>
    have framed : callers ≠ [] := reaches.sound.ready.1
    obtain ⟨caller, callers, rfl⟩ := List.exists_cons_of_ne_nil framed
    have outer : ¬ caller.waiting.Inner callers := by
      intro inner
      have reads := reaches.reads_of_inner standard inner
      have kept := obeys.quotations_of_bare fun left =>
        enclosed.bare reads reaches.start_le_cursor left
      rw [kept] at more
      exact Nat.lt_irrefl _ more
    obtain ⟨last, called⟩ := not_or.1 outer
    exact .inr ⟨rfl, caller, by rw [not_not.1 last], called⟩
  | closes closes =>
    cases closes with
    | back => exact absurd more (Nat.lt_irrefl _)
    | reset => exact absurd more (Nat.not_lt_zero _)

/-- What stands between brackets is captured up to the first one that closes, and reading goes on
behind it: as in a state where the quotation is captured, and as a script of its own would be read.
Without such a bracket in the frame nothing is captured, whatever stands behind the frame. That is
so in all quotations that were captured in this way, so what is captured is captured outside of
them. -/
theorem brackets_exact (standard : engine.dictionary = .standard) :
    (∀ {state : State} {body : Text}, state.Quotable body →
      (state.arena.Holds (bracketed body) →
        ∃ captured, engine.run (bracketed body) state = .done () captured ∧
          state.Quoted body captured ∧ captured.halted = false ∧
          (state.quotations.Within state.arena (fun _ => True) →
            ∀ rest, state.Resumes body rest captured)) ∧
      ∀ {rest : Text}, state.arena.Holds (bracketed body ++ rest) →
        (engine.run (bracketed body ++ rest) state).Matches
          (engine.runSpan ⟨(state.bodySpan body).stop + 1, rest.size⟩
            (state.quoting (bracketed body ++ rest) body)) ∧
        (∀ {other : State}, state.Resumes body rest other → other.arena.Holds rest →
          (engine.run (bracketed body ++ rest) state).Matches (engine.run rest other)) ∧
        ∀ {result : Except Fault Unit} {after : State},
          engine.run (bracketed body ++ rest) state = .returned result after →
          engine.act (.quotationText (some state.quotations.size)) after =
            .done (.text body) after) ∧
    (∀ {asks : Action → Prop} {callers : List Caller} {state behind : State} {rest : Text},
      nextName? state = .done (some ['[']) behind → behind.frameRest? = some rest → ']' ∉ rest →
        engine.FailsUnclosed asks callers state) ∧
    (∀ {asks : Action → Prop} {moment : Moment}, engine.Reaches asks moment →
      moment.state.place.Enclosed →
      (∀ {caller : Caller} {callers : List Caller} {state behind : State},
        moment = ⟨.read, caller :: callers, state⟩ → caller.waiting.Inner callers →
        state.quotations.Reads state.frame ∧
          (nextName? state = .done (some ['[']) behind →
            engine.FailsUnclosed asks (caller :: callers) state)) ∧
      ∀ {later : Moment}, engine.Leads asks moment later →
        moment.state.quotations.size < later.state.quotations.size →
        (∃ accumulator body, moment.task = .ask .host accumulator (.capture body)) ∨
          moment.task = .read ∧
            ∃ caller, moment.callers = [caller] ∧ ¬ caller.waiting.Quotation) ∧
    ∀ {moment : Moment}, engine.Reaches (fun action => action.captures = false) moment →
      moment.state.place.Enclosed := by
  refine ⟨fun quotable => ?_, failsUnclosed standard, fun reaches enclosed => ⟨?_, fun leads more =>
    reaches.captures_outermost standard enclosed leads more⟩, fun reaches => ?_⟩
  · obtain ⟨atRest, few, room, blank, bare⟩ := quotable
    refine ⟨fun holds => ?_, fun holds =>
      ⟨run_bracketed_span standard atRest room blank bare holds, fun resumes holds' =>
        run_bracketed_append standard atRest room blank bare few holds resumes holds',
        fun returned => ?_⟩⟩
    · obtain ⟨captured, done, quoted, running, arena, quotations⟩ :=
        run_bracketed standard atRest room blank bare few holds
      exact ⟨captured, done, quoted, running, quoted.resumes arena quotations⟩
    · have told := @act_quotationText engine _ _ _
        (run_bracketed_keeps standard atRest room blank bare few returned)
      rwa [State.handle, Int32.toInt_ofNat_of_lt few] at told
  · rintro caller callers state behind rfl inner
    exact ⟨reaches.reads_of_inner standard inner,
      fun named => reaches.failsUnclosed standard inner enclosed named⟩
  · exact @Reaches.enclosed engine [] _ standard (List.forall_mem_nil _) reaches

theorem brackets_exact_nested :
    (State.resting ⟨[], 9⟩ ⟨"[ 7 ]".toList⟩ ⟨#[⟨1, 3⟩]⟩).Quotable " é ".toList ∧
    ((Engine.mk .standard .default).run "[ é ]3".toList
        (State.resting ⟨[], 9⟩ ⟨"[ 7 ]".toList⟩ ⟨#[⟨1, 3⟩]⟩)).Matches
      ((Engine.mk .standard .default).runSpan ⟨12, 1⟩
        ((State.resting ⟨[], 9⟩ ⟨"[ 7 ]".toList⟩ ⟨#[⟨1, 3⟩]⟩).quoting "[ é ]3".toList
          " é ".toList)) ∧
    ∃ callers state,
      (Engine.mk .standard .default).Reaches (fun action => action.captures = false)
        ⟨.read, callers, state⟩ ∧
      state.arena.text = "[ [ x ] do".toList ∧ state.frame = ⟨1, 1, 6⟩ ∧
      state.stack.depth < state.stack.capacity ∧
      (Engine.mk .standard .default).FailsUnclosed (fun action => action.captures = false) callers
        state := by
  obtain ⟨quotes, _, inside, stands⟩ := (Engine.mk .standard .default).brackets_exact rfl
  have quotable : (State.resting ⟨[], 9⟩ ⟨"[ 7 ]".toList⟩ ⟨#[⟨1, 3⟩]⟩).Quotable " é ".toList :=
    ⟨State.resting_atRest (by decide), by decide, by decide, by decide, by decide⟩
  have goesOn := ((quotes quotable).2 (show Arena.Holds _ "[ é ]3".toList by decide)).1
  have started : (Engine.mk .standard .default).start? .unlimited = some _ := rfl
  have asked : (Engine.mk .standard .default).Reaches (fun action => action.captures = false)
      ⟨.ask .host 0 (.run "[ [ x ] do".toList), [], _⟩ := .next (.start started) (.request rfl)
  have opened := (asked.next (.await rfl)).next (.enter (by decide) (by decide))
  have captured := opened.next (.read rfl)
  have called := captured.next (.read rfl)
  have nested := called.next (.enter (by decide) (by decide))
  have fails := (((inside nested (stands nested)).1 rfl (.inr trivial)).2 rfl)
  exact ⟨quotable, goesOn, _, _, nested, rfl, rfl, by decide, fails⟩

end Engine

end Frames

end StackScript

import StackScript.Proofs.Hosting
import StackScript.Proofs.Turns

set_option autoImplicit false

namespace StackScript

open Relation Step

def Action.setsCursor : Action → Bool
  | setCursor _ => true
  | _ => false

def Step.Onward {α : Type} (step : Step α) : Prop :=
  ∀ unread, step.Keeps fun state => state.frame.unread ≤ unread

/-- Only finitely many moments can follow one after the other in the same turn. -/
def Moment.Finishes (engine : Engine) (moment : Moment) : Prop :=
  Acc (fun later earlier => engine.Proceeds earlier later) moment

section Unread

variable {place after : Place} {position : Nat}

theorem Place.Moves.unread_le (moves : place.Moves position after)
    (forward : place.frame.cursor ≤ position) : after.frame.unread ≤ place.frame.unread := by
  obtain ⟨cursor, found, rfl⟩ := moves.moved
  have least := (Text.isLeast_of_boundaryFrom? found).1.2
  simp only [Place.moveTo, Frame.unread]
  omega

theorem Action.Alters.unread_le {action : Action} (alters : action.Alters place after)
    (still : action.setsCursor = false) : after.frame.unread ≤ place.frame.unread := by
  cases alters with
  | move => cases still
  | clear => exact Nat.zero_le _
  | nothing | load | capture | forget | postpone => exact Nat.le_refl _

theorem Engine.Obeys.unread_lt {engine : Engine} (obeys : engine.Obeys place after) :
    after.frame.unread < place.frame.unread := by
  have shorter {rest : Text} (left : place.rest? = some rest)
      (named : (Token.scan place.frame.cursor rest).name ≠ []) :
      (place.moveTo (Token.scan place.frame.cursor rest).span.stop).frame.unread <
        place.frame.unread := by
    have stop := Text.stop_of_slice? left
    have positive : Text.size (Token.scan place.frame.cursor rest).name ≠ 0 :=
      mt Text.size_eq_zero_iff.1 named
    rw [Token.scan_split place.frame.cursor rest] at stop
    simp only [Place.moveTo, Frame.unread, Token.scan_stop, Text.size_append] at stop ⊢
    omega
  cases obeys with
  | behind left named => exact shorter left named
  | quotes left _ named _ quotes =>
    cases quotes with
    | nothing => exact shorter left named
    | captured _ moves =>
      have behind := moves.unread_le (by omega)
      exact Nat.lt_of_le_of_lt behind (shorter left named)

theorem State.closeFrame_unread (state : State) (caller : Frame) :
    (state.closeFrame caller).frame.unread ≤ caller.unread := by
  rcases Engine.closeFrame_frame state caller with same | ⟨_, cleared⟩
  · simp [same]
  · simp [cleared, Frame.idle, Frame.unread]

end Unread

theorem Outcome.Lands.leaves {α : Type} {outcome : Outcome α} {kept : Place → Prop}
    {kept' : State → Prop} (lands : outcome.Lands kept)
    (implied : ∀ state, kept state.place → kept' state) : outcome.Leaves kept' := by
  cases outcome with
  | done value after | fault cause after => exact implied after lands
  | crash after => trivial
  | endless => exact lands

section Reading

variable {engine : Engine} {reads : Span → Step Unit} {action : Action} {state : State}

namespace Engine

theorem prepare_onward (still : action.setsCursor = false) (accumulator : Int) :
    (engine.prepare accumulator action).Onward := by
  intro unread state short
  exact (engine.prepare_alters accumulator action state).leaves fun _ alters =>
    Nat.le_trans (alters.unread_le still) short

theorem answer_onward (opens : ∀ span, (reads span).Onward) (still : action.setsCursor = false)
    (accumulator : Int) : (engine.answer reads accumulator action).Onward := by
  intro unread
  refine (prepare_onward still accumulator unread).bind fun due => ?_
  cases due with
  | now answer => exact .pure answer
  | reading span answer => exact (opens span unread).bind fun _ => .pure answer

theorem perform_onward (opens : ∀ span, (reads span).Onward) {program : Program}
    (only : program.Only fun action => action.setsCursor = false) :
    (engine.perform reads program).Onward := by
  intro unread
  induction program with
  | finish result => exact .ofResult result
  | ask accumulator action next ih =>
    refine .bind (.attempt (answer_onward opens only.1 accumulator unread)) fun result => ?_
    exact .bind (.modify fun _ short => short) fun _ => ih _ (only.2 _)

theorem settle_onward (engine : Engine) (opens : ∀ span, (reads span).Onward) {errand : Errand}
    (only : errand.task.Only fun action => action.setsCursor = false) :
    (errand.settle engine reads).Onward := by
  cases errand with
  | nothing => exact fun _ => .pure ()
  | read span => exact opens span
  | perform program => exact perform_onward opens only

theorem advance_shortens (words : engine.dictionary.Only fun action => action.setsCursor = false)
    (opens : ∀ span, (reads span).Onward) (state : State) :
    engine.advance reads state ≠ .endless ∧ ∀ after, engine.advance reads state = .done true after →
      after.frame.unread < state.frame.unread := by
  rcases engine.nextName?_cases state with crashed | ⟨cursor, none⟩ | ⟨name, behind, found, lands⟩
  · rw [advance, bind_apply, crashed]
    simp [Outcome.bind]
  · rw [advance, bind_apply, none]
    simp [Outcome.bind]
  · have only := engine.errand_only words name behind
    rw [advance_of_name found]
    cases sent : engine.errand name behind with
    | done errand last =>
      rw [sent] at lands
      have settles := engine.settle_onward opens (only errand last sent) last.frame.unread last
        (Nat.le_refl _)
      rw [Outcome.bind_done]
      cases settled : errand.settle engine reads last with
      | done value after =>
        rw [settled] at settles
        refine ⟨by simp [Outcome.bind], fun _ done => ?_⟩
        cases done
        exact Nat.lt_of_le_of_lt settles lands.unread_lt
      | fault cause after | crash after => simp [Outcome.bind]
      | endless =>
        rw [settled] at settles
        exact settles.elim
    | fault cause after | crash after => simp [Outcome.bind]
    | endless =>
      rw [sent] at lands
      exact lands.elim

theorem sweep_settles (words : engine.dictionary.Only fun action => action.setsCursor = false)
    (opens : ∀ span, (reads span).Onward) (count : Nat) (state : State)
    (short : state.frame.unread < count) :
    ∃ outcome, outcome ≠ .endless ∧ ∀ again, engine.sweep reads again count state = outcome := by
  -- No rewind is needed: what is left of the frame shrinks with every word.
  induction count generalizing state with
  | zero => exact absurd short (Nat.not_lt_zero _)
  | succ count ih =>
    obtain ⟨ends, shortens⟩ := advance_shortens words opens state
    cases advanced : engine.advance reads state with
    | done more after =>
      cases more with
      | true =>
        have less := shortens after advanced
        obtain ⟨outcome, finite, swept⟩ := ih after (by omega)
        exact ⟨outcome, finite, fun again => by simp [sweep, advanced, less, swept]⟩
      | false => exact ⟨.done () after, by simp, fun again => by rw [sweep, advanced]⟩
    | fault cause after =>
      exact ⟨.fault cause after, by simp, fun again => by rw [sweep, advanced]⟩
    | crash after => exact ⟨.crash after, by simp, fun again => by rw [sweep, advanced]⟩
    | endless => exact absurd advanced ends

theorem scan_settles (words : engine.dictionary.Only fun action => action.setsCursor = false)
    (opens : ∀ span, (reads span).Onward) (state : State) :
    ∃ outcome, outcome ≠ .endless ∧ ∀ rewinds, engine.scan reads (rewinds + 1) state = outcome := by
  obtain ⟨outcome, finite, swept⟩ := sweep_settles words opens (state.frame.unread + 1) state
    (Nat.lt_succ_self _)
  exact ⟨outcome, finite, fun rewinds => swept _⟩

theorem readAt_onward (words : engine.dictionary.Only fun action => action.setsCursor = false)
    (levels : Nat) (span : Span) : (engine.readAt levels span).Onward := by
  induction levels generalizing span with
  | zero => exact fun _ => .fail _
  | succ levels ih =>
    intro unread state short
    rw [readAt, readFrame]
    split
    · obtain ⟨outcome, finite, scans⟩ := scan_settles words ih (state.openFrame span)
      obtain ⟨rewinds, positive⟩ := exists_rewindLimit
      rw [positive, scans]
      cases outcome with
      | done value after | fault cause after =>
        exact Nat.le_trans (after.closeFrame_unread state.frame) short
      | crash after => trivial
      | endless => exact absurd rfl finite
    · trivial

theorem turn_ne_endless (words : engine.dictionary.Only fun action => action.setsCursor = false)
    (action : Action) (state : State) : engine.turn action state ≠ .endless := by
  have prepares : (engine.prepare 0 action).Keeps fun _ => True := fun state _ =>
    (engine.prepare_alters 0 action state).leaves fun _ _ => trivial
  have reads span : (engine.runSpan span).Keeps fun _ => True := fun state _ =>
    (readAt_onward words engine.levels span state.frame.unread state (Nat.le_refl _)).mono
      fun _ _ => trivial
  have acts : (engine.act action).Keeps fun _ => True := by
    refine .bind (.bind prepares fun due => ?_) fun _ => .pure _
    cases due with
    | now answer => exact .pure _
    | reading span answer => exact (reads span).bind fun _ => .pure _
  have left := acts state.hush trivial
  intro endless
  rw [turn] at endless
  cases acted : engine.act action state.hush with
  | done answer after | fault cause after | crash after =>
    rw [acted] at endless
    cases endless
  | endless =>
    rw [acted] at left
    exact left

end Engine

section Moments

variable {asks : Action → Prop} {callers : List Caller} {moment : Moment}

theorem Moment.Finishes.of_next
    (next : ∀ later, engine.Proceeds moment later → later.Finishes engine) :
    moment.Finishes engine :=
  Acc.intro moment next

theorem Moment.Finishes.of_over (ended : moment.Over) : moment.Finishes engine :=
  .of_next fun _ proceeds => absurd ended proceeds.not_over

def Engine.Enters (engine : Engine) (callers : List Caller) : Prop :=
  ∀ span waiting state,
    (∀ result (after : State), after.frame.unread ≤ state.frame.unread →
      (waiting.resume result callers after).Finishes engine) →
    Moment.Finishes engine ⟨.enter span waiting, callers, state⟩

theorem Engine.Enters.ask (enters : engine.Enters callers) (still : action.setsCursor = false)
    {asker : Asker} {accumulator : Int}
    (hears : ∀ result (after : State), after.frame.unread ≤ state.frame.unread →
      (asker.hear action result callers after).Finishes engine) :
    Moment.Finishes engine ⟨.ask asker accumulator action, callers, state⟩ := by
  have onward := engine.prepare_onward still accumulator state.frame.unread state (Nat.le_refl _)
  refine .of_next fun later proceeds => ?_
  cases proceeds with
  | answer prepared =>
    rw [prepared] at onward
    exact hears _ _ onward
  | refuse prepared =>
    rw [prepared] at onward
    exact hears _ _ onward
  | await prepared =>
    rw [prepared] at onward
    exact enters _ _ _ fun result after closed => hears _ after (Nat.le_trans closed onward)
  | breakAction => exact .of_over (.inr rfl)

theorem Engine.Enters.perform (enters : engine.Enters callers) {program : Program}
    (only : program.Only fun action => action.setsCursor = false)
    (goesOn : ∀ result (after : State), after.frame.unread ≤ state.frame.unread →
      Moment.Finishes engine ⟨.after result, callers, after⟩) :
    Moment.Finishes engine ⟨.perform program, callers, state⟩ := by
  induction program generalizing state with
  | finish result =>
    refine .of_next fun later proceeds => ?_
    cases proceeds
    exact goesOn result state (Nat.le_refl _)
  | ask accumulator action next ih =>
    refine .of_next fun later proceeds => ?_
    cases proceeds
    refine enters.ask only.1 fun result after shorter => ih _ (only.2 _) ?_
    exact fun result last closed => goesOn result last (Nat.le_trans closed shorter)

theorem Engine.Enters.read (enters : engine.Enters callers)
    (words : engine.dictionary.Only fun action => action.setsCursor = false)
    (leaves : ∀ result after, Moment.Finishes engine ⟨.leave result, callers, after⟩)
    (state : State) : Moment.Finishes engine ⟨.read, callers, state⟩ := by
  -- By induction on what is left of the frame.
  induction left : state.frame.unread using Nat.strongRecOn generalizing state with
  | ind unread ih =>
    subst left
    refine .of_next fun later proceeds => ?_
    rcases engine.readWord_cases state with
      crashed | ⟨cursor, none⟩ | ⟨name, behind, lands, found⟩
    · cases proceeds with
      | read word | fail word => cases crashed.symm.trans word
      | breakWord => exact .of_over (.inr rfl)
    · cases proceeds with
      | read word =>
        cases none.symm.trans word
        exact leaves _ _
      | fail word | breakWord word => cases none.symm.trans word
    · have only := engine.errand_only words name behind
      cases sent : engine.errand name behind with
      | done errand after =>
        rw [sent] at lands found
        have goesOn result (last : State) (closed : last.frame.unread ≤ after.frame.unread) :
            Moment.Finishes engine ⟨.after result, callers, last⟩ := by
          cases result with
          | ok value => exact ih _ (Nat.lt_of_le_of_lt closed lands.unread_lt) last rfl
          | error cause => exact leaves _ last
        cases proceeds with
        | read word =>
          cases found.symm.trans word
          cases errand with
          | nothing => exact goesOn (.ok ()) after (Nat.le_refl _)
          | read span => exact enters span .reader after goesOn
          | perform program => exact enters.perform (only _ after sent) goesOn
        | fail word | breakWord word => cases found.symm.trans word
      | fault cause after =>
        rw [sent] at found
        cases proceeds with
        | fail => exact leaves _ _
        | read word | breakWord word => cases found.symm.trans word
      | crash after =>
        rw [sent] at found
        cases proceeds with
        | breakWord => exact .of_over (.inr rfl)
        | read word | fail word => cases found.symm.trans word
      | endless =>
        rw [sent] at lands
        exact lands.elim

theorem Engine.enters (words : engine.dictionary.Only fun action => action.setsCursor = false)
    {levels : Nat} (deep : callers.length + levels = engine.levels) : engine.Enters callers := by
  -- By induction on the levels that are left.
  induction levels generalizing callers with
  | zero =>
    intro span waiting state resumes
    have full : engine.settings.maxNesting < callers.length := by
      rw [Engine.levels] at deep
      omega
    refine .of_next fun later proceeds => ?_
    cases proceeds with
    | tooDeep => exact resumes _ state (Nat.le_refl _)
    | enter shallow | breakSpan shallow => exact absurd shallow (Nat.not_le.2 full)
  | succ levels ih =>
    intro span waiting state resumes
    refine .of_next fun later proceeds => ?_
    cases proceeds with
    | tooDeep => exact resumes _ state (Nat.le_refl _)
    | breakSpan => exact .of_over (.inr rfl)
    | enter =>
      have deeper : engine.Enters (⟨state.frame, waiting⟩ :: callers) :=
        ih (by rw [List.length_cons, ← deep]; omega)
      refine deeper.read words (fun result after => ?_) _
      refine .of_next fun later proceeds => ?_
      cases proceeds
      exact resumes result _ (after.closeFrame_unread state.frame)

section Resuming

variable (words : engine.dictionary.Only fun action => action.setsCursor = false)
  (enters : engine.Enters callers)
  (leaves : ∀ result after, Moment.Finishes engine ⟨.leave result, callers, after⟩)

include words enters leaves

theorem Engine.Enters.after (result : Except Fault Unit) (state : State) :
    Moment.Finishes engine ⟨.after result, callers, state⟩ := by
  cases result with
  | ok value => exact enters.read words leaves state
  | error cause => exact leaves _ state

theorem Engine.Enters.hear {asker : Asker}
    (only : asker.Only fun action => action.setsCursor = false) (action : Action)
    (result : Except Fault (Answer × Int)) (state : State) :
    (asker.hear action result callers state).Finishes engine := by
  cases asker with
  | host => exact .of_over (.inl ⟨_, rfl⟩)
  | word next =>
    exact enters.perform (only _) fun result last _ => enters.after words leaves result last

theorem Engine.Enters.resume {waiting : Waiting}
    (only : waiting.Only fun action => action.setsCursor = false) (result : Except Fault Unit)
    (state : State) : (waiting.resume result callers state).Finishes engine := by
  cases waiting with
  | reader => exact enters.after words leaves result state
  | request asker action answer => exact enters.hear words leaves only action _ state

end Resuming

theorem Engine.leave_finishes
    (words : engine.dictionary.Only fun action => action.setsCursor = false)
    (only : ∀ caller ∈ callers, caller.waiting.Only fun action => action.setsCursor = false)
    (deep : callers.length ≤ engine.levels) (result : Except Fault Unit) (state : State) :
    Moment.Finishes engine ⟨.leave result, callers, state⟩ := by
  -- By induction on those who wait below.
  induction callers generalizing result state with
  | nil =>
    refine .of_next fun later proceeds => ?_
    cases proceeds
  | cons caller callers ih =>
    obtain ⟨waits, only⟩ := List.forall_mem_cons.1 only
    have shallow : callers.length ≤ engine.levels := Nat.le_of_succ_le deep
    have enters : engine.Enters callers := engine.enters words (Nat.add_sub_of_le shallow)
    refine .of_next fun later proceeds => ?_
    cases proceeds
    exact enters.resume words (ih only shallow) waits result _

theorem Moment.Only.finishes
    (words : engine.dictionary.Only fun action => action.setsCursor = false)
    (only : moment.Only fun action => action.setsCursor = false)
    (deep : moment.callers.length ≤ engine.levels) : moment.Finishes engine := by
  obtain ⟨task, callers, state⟩ := moment
  obtain ⟨only, others⟩ := only
  have leaves := engine.leave_finishes words others deep
  have enters : engine.Enters callers := engine.enters words (Nat.add_sub_of_le deep)
  cases task with
  | rest answer => exact .of_over (.inl ⟨answer, rfl⟩)
  | crashed => exact .of_over (.inr rfl)
  | ask asker accumulator action =>
    exact enters.ask only.2 fun result after _ =>
      enters.hear words leaves only.1 action result after
  | perform program =>
    exact enters.perform only fun result after _ => enters.after words leaves result after
  | enter span waiting =>
    exact enters span waiting state fun result after _ =>
      enters.resume words leaves only result after
  | read => exact enters.read words leaves state
  | leave result => exact leaves result state

theorem Engine.Reaches.finishes
    (words : engine.dictionary.Only fun action => action.setsCursor = false)
    (reaches : engine.Reaches asks moment) : moment.Finishes engine := by
  rcases reaches.only_or_host words with only | ⟨accumulator, action, state, rfl⟩
  · exact only.finishes words reaches.sound.levels
  · refine .of_next fun later proceeds => ?_
    have levels := (reaches.next proceeds.leads).sound.levels
    exact proceeds.only_of_host.finishes words levels

end Moments

/-- Where no registered word sets the cursor, every script and every span is read to an end, at any
depth and in any state. The loop never takes a rewind for that, and no moment of a session is
followed by others for ever. -/
theorem Engine.runs_end {words : List Word}
    (registered : engine.dictionary = (Dictionary.standard.registerAll words).1)
    (programmed : ∀ word ∈ words, word.Programmed fun action => action.setsCursor = false) :
    (∀ levels script state, Step.run (engine.readAt levels) script state ≠ .endless) ∧
    (∀ levels span state, engine.readAt levels span state ≠ .endless) ∧
    (∀ levels rewinds state,
      engine.scan (engine.readAt levels) (rewinds + 1) state =
        engine.scan (engine.readAt levels) 1 state) ∧
    ∀ {asks : Action → Prop} {moment : Moment}, engine.Reaches asks moment →
      Acc (fun later earlier => engine.Proceeds earlier later) moment := by
  have only : engine.dictionary.Only fun action => action.setsCursor = false := by
    rw [registered]
    exact Dictionary.only_registerAll programmed
  have ends levels span (state : State) : engine.readAt levels span state ≠ .endless := by
    intro endless
    have reads := engine.readAt_onward only levels span state.frame.unread state (Nat.le_refl _)
    rw [endless] at reads
    exact reads
  refine ⟨fun levels script state => ends levels _ (state.load script), ends, ?_, fun reaches => ?_⟩
  · intro levels rewinds state
    obtain ⟨outcome, _, scans⟩ := engine.scan_settles only (engine.readAt_onward only levels) state
    exact (scans rewinds).trans (scans 0).symm
  · exact reaches.finishes only

def Word.retry : Word where
  name := "retry".toList
  inputs := 0
  outputs := 0
  operation := .body [.act (.run "0 do retry 0 do".toList) true, .skipIfZero 1,
    .act (.runQuotation (some 0)) true]

def retrying : Engine where
  dictionary := (Dictionary.standard.registerAll [.retry]).1
  settings := .default

theorem Engine.runs_end_retry : ∃ state,
    retrying.start? .unlimited = some state ∧
    retrying.run "[ 0 do retry 0 do ] do".toList state ≠ .endless ∧
    ∃ caller inner, retrying.Reaches (fun _ => True) ⟨.enter ⟨1, 17⟩ .reader, [caller], inner⟩ ∧
      Acc (fun later earlier => retrying.Proceeds earlier later)
        ⟨.enter ⟨1, 17⟩ .reader, [caller], inner⟩ := by
  have started : retrying.start? .unlimited = some _ := rfl
  have asked : retrying.Reaches (fun _ => True)
      ⟨.ask .host 0 (.run "[ 0 do retry 0 do ] do".toList), [], _⟩ :=
    .next (.start started) (.request trivial)
  have awaited := asked.next (.await rfl)
  have opened := awaited.next (.enter (by decide) (by decide))
  have captured := opened.next (.read rfl)
  have reaches : retrying.Reaches (fun _ => True) ⟨.enter ⟨1, 17⟩ .reader, [_], _⟩ :=
    captured.next (.read rfl)
  have programmed : ∀ word ∈ [Word.retry],
      word.Programmed fun action => action.setsCursor = false := by
    refine List.forall_mem_singleton.2 ⟨_, rfl, Program.only_ofInstructions ?_ 0 0⟩
    simp [Instruction.Only, Action.setsCursor]
  have registered : retrying.dictionary = (Dictionary.standard.registerAll [.retry]).1 := rfl
  obtain ⟨runs, _, _, finishes⟩ := Engine.runs_end registered programmed
  exact ⟨_, started, runs _ _ _, _, _, reaches, finishes reaches⟩

end Reading

end StackScript

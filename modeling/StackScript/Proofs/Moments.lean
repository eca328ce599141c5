import Mathlib.Logic.Relation
import StackScript.Proofs.Conformance
import StackScript.Session

set_option autoImplicit false

namespace StackScript

open Relation Step

inductive Asker where
  | host
  | word (next : Except Fault (Reply Signature × Int) → Program)

inductive Waiting where
  | reader
  | request (asker : Asker) (action : Action) (answer : Answer × Int)

structure Caller where
  frame : Frame
  waiting : Waiting

inductive Task where
  -- The host has the turn. It was answered this.
  | rest (answer : Except Fault Answer)
  | ask (asker : Asker) (accumulator : Int) (action : Action)
  | perform (program : Program)
  | enter (span : Span) (waiting : Waiting)
  -- The next word of the frame is to be read.
  | read
  | leave (result : Except Fault Unit)
  | crashed

/-- What an engine is about to do, the frames that it will come back to, the last one first, and
its state. -/
structure Moment where
  task : Task
  callers : List Caller
  state : State

def Task.after : Except Fault Unit → Task
  | .ok () => read
  | .error cause => leave (.error cause)

def Asker.hear (action : Action) (result : Except Fault (Answer × Int)) (callers : List Caller)
    (state : State) : Asker → Moment
  | host => ⟨.rest (result.map Prod.fst), callers, state⟩
  | word next => ⟨.perform (next (result.map Answer.told)), callers,
      state.enter { action := action, result := result.map Prod.fst }⟩

def Waiting.resume (result : Except Fault Unit) (callers : List Caller) (state : State) :
    Waiting → Moment
  | reader => ⟨.after result, callers, state⟩
  | request asker action answer => asker.hear action (result.map fun () => answer) callers state

inductive Errand where
  | nothing
  | read (span : Span)
  | perform (program : Program)

def Errand.task : Errand → Task
  | nothing => .read
  | read span => .enter span .reader
  | perform program => .perform program

def Errand.settle (engine : Engine) (reads : Span → Step Unit) : Errand → Step Unit
  | nothing => return ()
  | read span => reads span
  | perform program => engine.perform reads program

def Builtin.errand : Builtin → Step Errand
  | call => do
    match ← callee with
    | some body => return .read body
    | none => return .nothing
  | builtin => do
    builtin.invoke fun _ => return ()
    return .nothing

namespace Engine

def errand (engine : Engine) (name : Text) : Step Errand :=
  match engine.dictionary.meaning name with
  | .word word => do
    checkArity word
    match word.operation with
    | .builtin builtin => builtin.errand
    | .program program => return .perform program
  | .number value => do
    note (.pushing value)
    push value
    return .nothing
  | .unknown => fail (.unknownWord name)

def readWord (engine : Engine) : Step Task := do
  match ← nextName? with
  | none => return .leave (.ok ())
  | some name => return (← engine.errand name).task

/-- Which moment leads to which, where the host asks for such actions. -/
inductive Leads (engine : Engine) (asks : Action → Prop) : Moment → Moment → Prop where
  | request {answer : Except Fault Answer} {state : State} {action : Action}
      (wanted : asks action) :
      Leads engine asks ⟨.rest answer, [], state⟩ ⟨.ask .host 0 action, [], state.hush⟩
  | answer {asker : Asker} {accumulator : Int} {action : Action} {callers : List Caller}
      {state after : State} {answer : Answer × Int}
      (prepared : engine.prepare accumulator action state = .done (.now answer) after) :
      Leads engine asks ⟨.ask asker accumulator action, callers, state⟩
        (asker.hear action (.ok answer) callers after)
  | refuse {asker : Asker} {accumulator : Int} {action : Action} {callers : List Caller}
      {state after : State} {cause : Fault}
      (prepared : engine.prepare accumulator action state = .fault cause after) :
      Leads engine asks ⟨.ask asker accumulator action, callers, state⟩
        (asker.hear action (.error cause) callers after)
  | await {asker : Asker} {accumulator : Int} {action : Action} {callers : List Caller}
      {state after : State} {span : Span} {answer : Answer × Int}
      (prepared : engine.prepare accumulator action state = .done (.reading span answer) after) :
      Leads engine asks ⟨.ask asker accumulator action, callers, state⟩
        ⟨.enter span (.request asker action answer), callers, after⟩
  | breakAction {asker : Asker} {accumulator : Int} {action : Action} {callers : List Caller}
      {state after : State} (prepared : engine.prepare accumulator action state = .crash after) :
      Leads engine asks ⟨.ask asker accumulator action, callers, state⟩ ⟨.crashed, callers, after⟩
  | ask {accumulator : Int} {action : Action}
      {next : Except Fault (Reply Signature × Int) → Program} {callers : List Caller}
      {state : State} :
      Leads engine asks ⟨.perform (.ask accumulator action next), callers, state⟩
        ⟨.ask (.word next) accumulator action, callers, state⟩
  | finish {result : Except Fault Unit} {callers : List Caller} {state : State} :
      Leads engine asks ⟨.perform (.finish result), callers, state⟩
        ⟨.after result, callers, state⟩
  | read {task : Task} {callers : List Caller} {state after : State}
      (word : engine.readWord state = .done task after) :
      Leads engine asks ⟨.read, callers, state⟩ ⟨task, callers, after⟩
  | fail {cause : Fault} {callers : List Caller} {state after : State}
      (word : engine.readWord state = .fault cause after) :
      Leads engine asks ⟨.read, callers, state⟩ ⟨.leave (.error cause), callers, after⟩
  | breakWord {callers : List Caller} {state after : State}
      (word : engine.readWord state = .crash after) :
      Leads engine asks ⟨.read, callers, state⟩ ⟨.crashed, callers, after⟩
  | tooDeep {span : Span} {waiting : Waiting} {callers : List Caller} {state : State}
      (deep : engine.settings.maxNesting < callers.length) :
      Leads engine asks ⟨.enter span waiting, callers, state⟩
        (waiting.resume (.error (.nestingTooDeep engine.settings.maxNesting)) callers state)
  | enter {span : Span} {waiting : Waiting} {callers : List Caller} {state : State}
      (shallow : callers.length ≤ engine.settings.maxNesting) (fits : span.fits = true) :
      Leads engine asks ⟨.enter span waiting, callers, state⟩
        ⟨.read, ⟨state.frame, waiting⟩ :: callers, state.openFrame span⟩
  | breakSpan {span : Span} {waiting : Waiting} {callers : List Caller} {state : State}
      (shallow : callers.length ≤ engine.settings.maxNesting) (long : span.fits = false) :
      Leads engine asks ⟨.enter span waiting, callers, state⟩ ⟨.crashed, callers, state⟩
  | leave {result : Except Fault Unit} {caller : Caller} {callers : List Caller} {state : State} :
      Leads engine asks ⟨.leave result, caller :: callers, state⟩
        (caller.waiting.resume result callers (state.closeFrame caller.frame))

abbrev Passes (engine : Engine) (asks : Action → Prop) : Moment → Moment → Prop :=
  ReflTransGen (engine.Leads asks)

inductive Reaches (engine : Engine) (asks : Action → Prop) : Moment → Prop where
  | start {sink : Sink} {state : State} (started : engine.start? sink = some state) :
      Reaches engine asks ⟨.rest (.ok .nothing), [], state⟩
  | next {moment later : Moment} (reached : Reaches engine asks moment)
      (leads : engine.Leads asks moment later) : Reaches engine asks later

theorem Leads.unique {engine : Engine} {asks : Action → Prop} {moment later other : Moment}
    (busy : ∀ answer, moment.task ≠ .rest answer) (leads : engine.Leads asks moment later)
    (leads' : engine.Leads asks moment other) : later = other := by
  cases leads with
  | request => exact absurd rfl (busy _)
  | answer prepared | refuse prepared | await prepared | breakAction prepared =>
    cases leads' with
    | answer prepared' | refuse prepared' | await prepared' | breakAction prepared' =>
      cases prepared.symm.trans prepared' <;> rfl
  | ask | finish | leave =>
    cases leads'
    rfl
  | read word | fail word | breakWord word =>
    cases leads' with
    | read word' | fail word' | breakWord word' => cases word.symm.trans word' <;> rfl
  | tooDeep deep =>
    cases leads' with
    | tooDeep => rfl
    | enter shallow | breakSpan shallow => exact absurd shallow (Nat.not_le.2 deep)
  | enter shallow fits =>
    cases leads' with
    | tooDeep deep => exact absurd shallow (Nat.not_le.2 deep)
    | enter => rfl
    | breakSpan _ long => cases fits.symm.trans long
  | breakSpan shallow long =>
    cases leads' with
    | tooDeep deep => exact absurd shallow (Nat.not_le.2 deep)
    | enter _ fits => cases fits.symm.trans long
    | breakSpan => rfl

end Engine

def Outcome.Ends {α : Type} (engine : Engine) (asks : Action → Prop) (moment : Moment)
    (back : Except Fault α → State → Moment) : Outcome α → Prop
  | .done value after => engine.Passes asks moment (back (.ok value) after)
  | .fault cause after => engine.Passes asks moment (back (.error cause) after)
  | .crash after => ∃ callers, engine.Passes asks moment ⟨.crashed, callers, after⟩
  | .endless => True

section Turns

variable {engine : Engine} {asks : Action → Prop} {α β : Type} {outcome : Outcome α}
  {moment later : Moment} {back : Except Fault α → State → Moment} {callers : List Caller}
  {state : State} {reads : Span → Step Unit}

theorem Outcome.Ends.prepend (passes : engine.Passes asks moment later)
    (ends : outcome.Ends engine asks later back) : outcome.Ends engine asks moment back := by
  cases outcome with
  | done value after | fault cause after => exact passes.trans ends
  | crash after =>
    obtain ⟨callers, crashes⟩ := ends
    exact ⟨callers, passes.trans crashes⟩
  | endless => trivial

theorem Outcome.Ends.bind {next : α → State → Outcome β} {last : Except Fault β → State → Moment}
    (ends : outcome.Ends engine asks moment back)
    (onward : ∀ value after, (next value after).Ends engine asks (back (.ok value) after) last)
    (fails : ∀ cause after, engine.Passes asks (back (.error cause) after)
      (last (.error cause) after)) : (outcome.bind next).Ends engine asks moment last := by
  cases outcome with
  | done value after => exact (onward value after).prepend ends
  | fault cause after => exact ReflTransGen.trans ends (fails cause after)
  | crash after => exact ends
  | endless => trivial

theorem Errand.settle_nothing (engine : Engine) (outcome : Outcome Unit) :
    (outcome.bind fun _ after => .done Errand.nothing after).bind
      (fun errand => errand.settle engine reads) = outcome := by
  cases outcome <;> rfl

theorem Builtin.invoke_eq (engine : Engine) (builtin : Builtin) (state : State) :
    builtin.invoke reads state =
      (builtin.errand state).bind fun errand => errand.settle engine reads := by
  cases builtin with
  | call =>
    rw [invoke, callQuotation, errand, bind_apply, bind_apply]
    rcases callee state with ⟨_ | body, after⟩ | ⟨_, _⟩ | ⟨_⟩ | _ <;> rfl
  | _ => exact (Errand.settle_nothing engine _).symm

theorem Engine.obey_eq (engine : Engine) (name : Text) (state : State) :
    engine.obey reads name state =
      (engine.errand name state).bind fun errand => errand.settle engine reads := by
  unfold obey errand
  cases engine.dictionary.meaning name with
  | word word =>
    dsimp only
    rw [dispatch, bind_apply, bind_apply]
    cases checkArity word state with
    | done value after =>
      simp only [Outcome.bind_done, invoke]
      cases word.operation with
      | builtin builtin => exact Builtin.invoke_eq engine builtin after
      | program program => rfl
    | fault | crash | endless => rfl
  | number value =>
    exact (Errand.settle_nothing engine _).symm
  | unknown => rfl

def Engine.Opens (engine : Engine) (asks : Action → Prop) (callers : List Caller)
    (reads : Span → Step Unit) : Prop :=
  ∀ span waiting state, (reads span state).Ends engine asks ⟨.enter span waiting, callers, state⟩
    fun result after => waiting.resume result callers after

theorem Engine.answer_ends (opens : engine.Opens asks callers reads) (asker : Asker)
    (accumulator : Int) (action : Action) (state : State) :
    (engine.answer reads accumulator action state).Ends engine asks
      ⟨.ask asker accumulator action, callers, state⟩
      fun result after => asker.hear action result callers after := by
  rw [answer, bind_apply]
  cases prepared : engine.prepare accumulator action state with
  | done due after =>
    cases due with
    | now answer => exact .single (.answer prepared)
    | reading span answer =>
      apply Outcome.Ends.prepend (.single (.await prepared))
      have opened := opens span (.request asker action answer) after
      exact opened.bind (fun _ _ => .refl) fun _ _ => .refl
  | fault cause after => exact .single (.refuse prepared)
  | crash after => exact ⟨callers, .single (.breakAction prepared)⟩
  | endless => trivial

theorem Engine.perform_ends (opens : engine.Opens asks callers reads) (program : Program)
    (state : State) :
    (engine.perform reads program state).Ends engine asks ⟨.perform program, callers, state⟩
      fun result after => ⟨.after result, callers, after⟩ := by
  induction program generalizing state with
  | finish result =>
    cases result with
    | ok value => exact .single .finish
    | error cause => exact .single .finish
  | ask accumulator action next ih =>
    have answered := answer_ends opens (.word next) accumulator action state
    apply Outcome.Ends.prepend (.single .ask)
    rw [perform, bind_apply, attempt]
    cases asked : engine.answer reads accumulator action state with
    | done value after =>
      rw [asked] at answered
      exact (ih _ _).prepend answered
    | fault cause after =>
      rw [asked] at answered
      exact (ih _ _).prepend answered
    | crash after =>
      rw [asked] at answered
      exact answered
    | endless => trivial

theorem Errand.settle_ends (opens : engine.Opens asks callers reads) (errand : Errand)
    (state : State) :
    (errand.settle engine reads state).Ends engine asks ⟨errand.task, callers, state⟩
      fun result after => ⟨.after result, callers, after⟩ := by
  cases errand with
  | nothing => exact .refl
  | read span => exact opens span .reader state
  | perform program => exact engine.perform_ends opens program state

def Task.advanced : Except Fault Bool → Task
  | .ok true => read
  | .ok false => leave (.ok ())
  | .error cause => leave (.error cause)

namespace Engine

theorem readWord_of_name {after : State} {name : Text}
    (found : nextName? state = .done (some name) after) :
    engine.readWord state = (engine.errand name after).bind fun errand => .done errand.task := by
  rw [readWord, bind_apply, found]
  rfl

theorem advance_of_name {after : State} {name : Text}
    (found : nextName? state = .done (some name) after) :
    engine.advance reads state =
      ((engine.errand name after).bind fun errand => errand.settle engine reads).bind
        fun _ => .done true := by
  rw [advance, bind_apply, found, ← obey_eq]
  rfl

theorem advance_ends (opens : engine.Opens asks callers reads) (state : State) :
    (engine.advance reads state).Ends engine asks ⟨.read, callers, state⟩
      fun result after => ⟨.advanced result, callers, after⟩ := by
  cases found : nextName? state with
  | done name? after =>
    cases name? with
    | none =>
      have word : engine.readWord state = .done (.leave (.ok ())) after := by
        rw [readWord, bind_apply, found]
        rfl
      rw [advance, bind_apply, found]
      exact .single (.read word)
    | some name =>
      have word := engine.readWord_of_name found
      rw [advance_of_name found]
      -- The word is read in one moment, and the moments of its errand follow.
      cases sent : engine.errand name after with
      | done errand last =>
        rw [sent] at word
        apply Outcome.Ends.prepend (.single (.read word))
        exact (errand.settle_ends opens last).bind (fun _ _ => .refl) fun _ _ => .refl
      | fault cause last =>
        rw [sent] at word
        exact .single (.fail word)
      | crash last =>
        rw [sent] at word
        exact ⟨callers, .single (.breakWord word)⟩
      | endless => trivial
  | fault cause after =>
    have word : engine.readWord state = .fault cause after := by
      rw [readWord, bind_apply, found]
      rfl
    rw [advance, bind_apply, found]
    exact .single (.fail word)
  | crash after =>
    have word : engine.readWord state = .crash after := by
      rw [readWord, bind_apply, found]
      rfl
    rw [advance, bind_apply, found]
    exact ⟨callers, .single (.breakWord word)⟩
  | endless =>
    rw [advance, bind_apply, found]
    trivial

theorem sweep_ends (opens : engine.Opens asks callers reads) {again : Step Unit}
    (goesOn : ∀ state, (again state).Ends engine asks ⟨.read, callers, state⟩
      fun result after => ⟨.leave result, callers, after⟩) (count : Nat) (state : State) :
    (engine.sweep reads again count state).Ends engine asks ⟨.read, callers, state⟩
      fun result after => ⟨.leave result, callers, after⟩ := by
  induction count generalizing state with
  | zero => exact goesOn state
  | succ count ih =>
    have advances := advance_ends opens state
    rw [sweep]
    cases advanced : engine.advance reads state with
    | done more after =>
      rw [advanced] at advances
      cases more with
      | true =>
        apply Outcome.Ends.prepend advances
        dsimp only
        split
        · exact ih after
        · exact goesOn after
      | false => exact advances
    | fault cause after | crash after =>
      rw [advanced] at advances
      exact advances
    | endless => trivial

theorem scan_ends (opens : engine.Opens asks callers reads) (rewinds : Nat) (state : State) :
    (engine.scan reads rewinds state).Ends engine asks ⟨.read, callers, state⟩
      fun result after => ⟨.leave result, callers, after⟩ := by
  induction rewinds generalizing state with
  | zero => trivial
  | succ rewinds ih => exact sweep_ends opens ih _ state

theorem readAt_ends {levels : Nat} (deep : callers.length + levels = engine.levels) :
    engine.Opens asks callers (engine.readAt levels) := by
  induction levels generalizing callers with
  | zero =>
    intro span waiting state
    have full : engine.settings.maxNesting < callers.length := by
      rw [levels] at deep
      omega
    exact .single (.tooDeep full)
  | succ levels ih =>
    intro span waiting state
    have shallow : callers.length ≤ engine.settings.maxNesting := by
      rw [Engine.levels] at deep
      omega
    rw [readAt, readFrame]
    split
    · next fits =>
      apply Outcome.Ends.prepend (.single (.enter shallow fits))
      have opens : engine.Opens asks (⟨state.frame, waiting⟩ :: callers) (engine.readAt levels) :=
        ih (by rw [List.length_cons, ← deep]; omega)
      have scans := scan_ends opens rewindLimit (state.openFrame span)
      cases scanned : engine.scan (engine.readAt levels) rewindLimit (state.openFrame span) with
      | done value after | fault cause after =>
        rw [scanned] at scans
        exact scans.tail .leave
      | crash after =>
        rw [scanned] at scans
        exact scans
      | endless => trivial
    · next long => exact ⟨callers, .single (.breakSpan shallow (Bool.eq_false_iff.2 long))⟩

theorem runSpan_opens : engine.Opens asks [] engine.runSpan :=
  readAt_ends (Nat.zero_add _)

end Engine

def Turn.Ends (engine : Engine) (asks : Action → Prop) (moment : Moment) : Turn → Prop
  | .returned result after => engine.Passes asks moment ⟨.rest result, [], after⟩
  | .crashed after => ∃ callers, engine.Passes asks moment ⟨.crashed, callers, after⟩
  | .endless => True

theorem Engine.turn_ends (action : Action) (state : State) :
    (engine.turn action state).Ends engine asks ⟨.ask .host 0 action, [], state.hush⟩ := by
  have opens : engine.Opens asks [] engine.runSpan := runSpan_opens
  have answers := engine.answer_ends opens .host 0 action state.hush
  have acts : (engine.act action state.hush).Ends engine asks ⟨.ask .host 0 action, [], state.hush⟩
      fun result after => ⟨.rest result, [], after⟩ :=
    answers.bind (fun _ _ => .refl) fun _ _ => .refl
  rw [turn]
  cases acted : engine.act action state.hush with
  | done value after | fault cause after | crash after =>
    rw [acted] at acts
    exact acts
  | endless => trivial

theorem Engine.turn_passes {action : Action} (wanted : asks action)
    (answer : Except Fault Answer) (state : State) :
    (engine.turn action state).Ends engine asks ⟨.rest answer, [], state⟩ := by
  have ends : (engine.turn action state).Ends engine asks _ := engine.turn_ends action state
  cases turned : engine.turn action state with
  | returned result after =>
    rw [turned] at ends
    exact .head (.request wanted) ends
  | crashed after =>
    rw [turned] at ends
    obtain ⟨callers, crashes⟩ := ends
    exact ⟨callers, .head (.request wanted) crashes⟩
  | endless => trivial

inductive Engine.Between (engine : Engine) (asks : Action → Prop) : State → Prop where
  | start {sink : Sink} {state : State} (started : engine.start? sink = some state) :
      Between engine asks state
  | turn {action : Action} {result : Except Fault Answer} {before state : State}
      (earlier : Between engine asks before) (wanted : asks action)
      (returned : engine.turn action before = .returned result state) : Between engine asks state

theorem Engine.Reaches.passes (reaches : engine.Reaches asks moment)
    (passes : engine.Passes asks moment later) : engine.Reaches asks later := by
  induction passes with
  | refl => exact reaches
  | tail _ leads ih => exact ih.next leads

theorem Engine.Between.reaches (between : engine.Between asks state) :
    ∃ answer, engine.Reaches asks ⟨.rest answer, [], state⟩ := by
  induction between with
  | start started => exact ⟨_, .start started⟩
  | @turn action result before state _ wanted returned ih =>
    obtain ⟨answer, reaches⟩ := ih
    have ends := engine.turn_passes wanted answer before
    rw [returned] at ends
    exact ⟨result, reaches.passes ends⟩

end Turns

end StackScript

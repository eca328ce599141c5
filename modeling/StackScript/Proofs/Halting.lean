import StackScript.Proofs.Poise

set_option autoImplicit false

namespace StackScript

open Relation Step

def Action.runs : Action → Bool
  | run _ => true
  | _ => false

/-- From the moment on the run is halted, or it is no longer. -/
inductive Engine.Sets (engine : Engine) : Moment → Bool → Prop where
  | action {asker : Asker} {accumulator : Int} {action : Action} {callers : List Caller}
      {state : State} {flag : Bool} (sets : action.flag? = some flag) :
      Sets engine ⟨.ask asker accumulator action, callers, state⟩ flag
  | word {callers : List Caller} {state : State} (calls : engine.Calls state .halt) :
      Sets engine ⟨.read, callers, state⟩ true

section Moments

variable {engine : Engine} {asks : Action → Prop} {moment next later : Moment}
  {callers : List Caller} {halted : Bool} {capacity : Nat} {state after : State}

theorem State.Poised.hear (poised : state.Poised halted capacity) (asker : Asker) (action : Action)
    (result : Except Fault (Answer × Int)) (callers : List Caller) :
    (asker.hear action result callers state).state.Poised halted capacity := by
  cases asker with
  | host => exact poised
  | word next => exact ⟨poised.halted, poised.capacity⟩

theorem State.Poised.resume (poised : state.Poised halted capacity) (waiting : Waiting)
    (result : Except Fault Unit) (callers : List Caller) :
    (waiting.resume result callers state).state.Poised halted capacity := by
  cases waiting with
  | reader => exact poised
  | request asker action answer => exact poised.hear asker action _ callers

theorem State.closeFrame_of_stays {caller : Frame}
    (stays : state.nesting - 1 ≠ 0 ∨ state.resetPending = false) :
    state.closeFrame caller = { state with frame := caller, nesting := state.nesting - 1 } := by
  refine if_neg ?_
  simpa [← not_or, imp_iff_not_or] using stays

theorem Asker.Framed.inside {asker : Asker} {action : Action}
    {result : Except Fault (Answer × Int)} (framed : asker.Framed callers)
    (above : state.place.Above callers) (goesOn : ¬ (asker.hear action result callers after).Over) :
    state.nesting ≠ 0 := by
  cases asker with
  | host => exact absurd (.inl ⟨_, rfl⟩) goesOn
  | word next => exact mt above.shut_iff.1 framed

theorem Moment.Resolves.running {name : Text} (resolves : moment.Resolves name) :
    ¬ moment.Over ∧ moment.state.halted = false := by
  obtain ⟨reads, behind, found⟩ := resolves
  refine ⟨?_, (Engine.nextName?_some found).1⟩
  simp [Moment.Over, reads]

namespace Engine

def Steers (engine : Engine) (moment : Moment) (halted : Bool) (capacity : Nat) (after : State) :
    Prop :=
  (∃ flag, engine.Sets moment flag ∧ after.Poised flag capacity) ∨
    (∀ flag, ¬ engine.Sets moment flag) ∧ after.Poised halted capacity

theorem steers_action {asker : Asker} {accumulator : Int} {action : Action}
    (poised : after.Poised (action.flag?.getD halted) capacity) :
    engine.Steers ⟨.ask asker accumulator action, callers, state⟩ halted capacity after := by
  cases flagged : action.flag? with
  | some flag =>
    rw [flagged] at poised
    exact .inl ⟨flag, .action flagged, poised⟩
  | none =>
    rw [flagged] at poised
    refine .inr ⟨fun flag sets => ?_, poised⟩
    cases sets with
    | action sets => cases flagged.symm.trans sets

theorem steers_word (callers : List Caller) (result : Except Fault Task)
    (word : engine.readWord state = .returned result after)
    (poised : state.Poised halted capacity) :
    engine.Steers ⟨.read, callers, state⟩ halted capacity after := by
  by_cases calls : engine.Calls state .halt
  · obtain ⟨cursor, event, halts⟩ := readWord_of_halt calls
    cases result with
    | ok task =>
      cases halts.symm.trans word
      exact .inl ⟨true, .word calls, rfl, poised.capacity⟩
    | error cause => cases halts.symm.trans word
  · have left : after.Poised halted capacity := by
      cases result with
      | ok task => exact readWord_poised word calls poised
      | error cause => exact readWord_poised word calls poised
    refine .inr ⟨fun flag sets => ?_, left⟩
    cases sets with
    | word called => exact calls called

theorem Sets.unique {flag flag' : Bool} (sets : engine.Sets moment flag)
    (sets' : engine.Sets moment flag') : flag = flag' := by
  cases sets with
  | action sets =>
    cases sets' with
    | action sets' => exact Option.some_inj.1 (sets.symm.trans sets')
  | word =>
    cases sets'
    rfl

theorem Proceeds.steers (proceeds : engine.Proceeds moment later) (sound : moment.Sound engine)
    (goesOn : ¬ later.Over) (poised : moment.state.Poised halted capacity) :
    engine.Steers moment halted capacity later.state := by
  obtain ⟨above, _, ready⟩ := sound
  -- A reset that the host asks for ends the turn, and every other one waits.
  cases proceeds with
  | request wanted => exact wanted.elim
  | answer prepared | refuse prepared =>
    have left := prepare_poised prepared (.inl (ready.1.inside above goesOn)) poised
    exact steers_action (State.Poised.hear left _ _ _ _)
  | @await _ _ action _ state _ _ _ prepared =>
    have reads : action ≠ .reset := by
      rintro rfl
      by_cases shut : state.nesting = 0
      · simp [engine.prepare_reset_shut _ shut] at prepared
      · simp [engine.prepare_reset_inside _ shut] at prepared
    exact steers_action (prepare_poised prepared (.inr reads) poised)
  | @read task callers _ _ word => exact steers_word callers (.ok task) word poised
  | @fail cause callers _ _ word => exact steers_word callers (.error cause) word poised
  | tooDeep => exact .inr ⟨nofun, poised.resume _ _ _⟩
  | @leave result caller callers state =>
    obtain ⟨_, framed, _⟩ := above.callers
    have lower : callers ≠ [] := by
      rintro rfl
      obtain ⟨answer, resumed⟩ := framed.host result (state.closeFrame caller.frame)
      exact goesOn (.inl ⟨answer, congrArg Moment.task resumed⟩)
    have stays : state.nesting - 1 ≠ 0 := by
      have nesting : state.nesting = callers.length + 1 := above.nesting
      rw [nesting]
      exact mt List.length_eq_zero_iff.1 lower
    have closed : (state.closeFrame caller.frame).Poised halted capacity := by
      rw [State.closeFrame_of_stays (.inl stays)]
      exact ⟨poised.halted, poised.capacity⟩
    exact .inr ⟨nofun, closed.resume _ _ _⟩
  | ask | finish | enter => exact .inr ⟨nofun, poised.halted, poised.capacity⟩
  | breakAction | breakWord | breakSpan => exact absurd (.inr rfl) goesOn

theorem Sets.halts {flag : Bool} (sets : engine.Sets moment flag)
    (only : moment.Only fun action => action.runs = false) : flag = true := by
  cases sets with
  | @action _ _ action _ _ flag sets =>
    have quiet : action.runs = false := only.task.2
    cases action with
    | run => cases quiet
    | halt | reset =>
      cases sets
      rfl
    | _ => cases sets
  | word => rfl

theorem Within.over_or_halted (words : engine.dictionary.Only fun action => action.runs = false)
    (within : engine.Within moment later) (only : moment.Only fun action => action.runs = false)
    (sound : moment.Sound engine) (halted : moment.Over ∨ moment.state.halted = true) :
    later.Over ∨ later.state.halted = true := by
  induction within with
  | refl => exact halted
  | @tail earlier later before proceeds ih =>
    have halted := ih.resolve_left proceeds.not_over
    have only := Within.only words before only
    have sound := Within.sound before sound
    by_cases ended : later.Over
    · exact .inl ended
    · refine .inr ?_
      rcases proceeds.steers sound ended ⟨halted, rfl⟩ with ⟨flag, sets, poised⟩ | ⟨_, poised⟩
      · exact poised.halted.trans (sets.halts only)
      · exact poised.halted

theorem Sets.over_or_halted (sets : engine.Sets moment true)
    (proceeds : engine.Proceeds moment next) (sound : moment.Sound engine) :
    next.Over ∨ next.state.halted = true := by
  by_cases ended : next.Over
  · exact .inl ended
  · refine .inr ?_
    rcases proceeds.steers sound ended ⟨rfl, rfl⟩ with ⟨flag, sets', poised⟩ | ⟨unset, _⟩
    · exact poised.halted.trans (sets'.unique sets)
    · exact absurd sets (unset true)

theorem Shifts.resetPending {place : Place} (shifts : engine.Shifts moment place) :
    place.resetPending = moment.state.resetPending ∨
    (place.nesting = 0 ∧ place.resetPending = false) ∨
    ∃ asker accumulator, moment.task = .ask asker accumulator .reset ∧
      moment.state.nesting ≠ 0 ∧ place.resetPending = true := by
  cases shifts with
  | nothing | finds | opens => exact .inl rfl
  | alters alters =>
    cases alters with
    | nothing | load | capture | forget => exact .inl rfl
    | move moves =>
      obtain ⟨cursor, _, rfl⟩ := moves.moved
      exact .inl rfl
    | clear shut => exact .inr (.inl ⟨shut, rfl⟩)
    | postpone inside => exact .inr (.inr ⟨_, _, rfl, inside, rfl⟩)
  | obeys obeys =>
    cases obeys with
    | behind => exact .inl rfl
    | quotes left _ _ _ quotes =>
      cases quotes with
      | nothing => exact .inl rfl
      | captured _ moves =>
        obtain ⟨cursor, _, rfl⟩ := moves.moved
        exact .inl rfl
  | closes closes =>
    cases closes with
    | back => exact .inl rfl
    | reset last => exact .inr (.inl ⟨last, rfl⟩)

end Engine

end Moments

-- Who waits where no word has a program: the host for the first frame, and for every other one the
-- reader of the frame below.
def Waiting.Plain (callers : List Caller) : Waiting → Prop
  | reader => callers ≠ []
  | request asker _ _ => asker = .host ∧ callers = []

def Caller.AllPlain : List Caller → Prop
  | [] => True
  | caller :: callers => caller.waiting.Plain callers ∧ AllPlain callers

def Task.Plain (callers : List Caller) : Task → Prop
  | ask asker _ _ => asker = .host ∧ callers = []
  | perform _ => False
  | enter _ waiting => waiting.Plain callers
  | rest _ | read | leave _ | crashed => True

structure Moment.Plain (moment : Moment) : Prop where
  task : moment.task.Plain moment.callers
  callers : Caller.AllPlain moment.callers
  running : moment.state.resetPending = false

theorem Dictionary.builtin_of_standard {word : Word} (member : word ∈ Dictionary.standard.words)
    (program : Program) : word.operation ≠ .program program := by
  have builtins : Dictionary.standard.words.all (fun word => word.declared?.isSome) = true := by
    decide
  obtain ⟨builtin, declared⟩ := Option.isSome_iff_exists.1 (List.all_eq_true.1 builtins word member)
  rw [(Word.spec_of_declared? declared).1]
  exact nofun

section Plain

variable {engine : Engine} {asks : Action → Prop} {moment later : Moment} {callers : List Caller}
  {action : Action} {state inner : State}

namespace Engine

theorem readWord_plain (standard : engine.dictionary = .standard) (framed : callers ≠ []) :
    engine.readWord.Gives fun task => task.Plain callers := by
  refine .bind (.any _) fun name? _ => ?_
  cases name? with
  | none => exact .pure trivial
  | some name =>
    have plain : (engine.errand name).Gives fun errand => errand.task.Plain callers := by
      refine errand_gives (trivial : Task.read.Plain callers) (fun _ => framed)
        (fun word member program operation => ?_) name
      rw [standard] at member
      exact absurd operation (Dictionary.builtin_of_standard member program)
    exact plain.bind fun _ plain => .pure plain

theorem Proceeds.plain (standard : engine.dictionary = .standard)
    (proceeds : engine.Proceeds moment later) (sound : moment.Sound engine)
    (plain : moment.Plain) : later.Plain := by
  obtain ⟨task, all, running⟩ := plain
  have running : later.state.resetPending = false := by
    rcases proceeds.shifts.resetPending with same | ⟨_, none⟩ | ⟨asker, _, asked, inside, _⟩
    · exact same.trans running
    · exact none
    · rw [asked] at task
      exact absurd (sound.above.shut_iff.2 task.2) inside
  cases proceeds with
  | request wanted => exact wanted.elim
  | answer | refuse =>
    obtain ⟨rfl, rfl⟩ := task
    exact ⟨trivial, trivial, running⟩
  | await => exact ⟨task, all, running⟩
  | ask | finish => exact task.elim
  | read word => exact ⟨readWord_plain standard sound.ready.1 _ _ _ word, all, running⟩
  | fail | breakAction | breakWord | breakSpan => exact ⟨trivial, all, running⟩
  | @tooDeep _ waiting =>
    cases waiting with
    | reader => exact ⟨trivial, all, running⟩
    | request asker action answer =>
      obtain ⟨rfl, rfl⟩ := task
      exact ⟨trivial, trivial, running⟩
  | enter => exact ⟨trivial, ⟨task, all⟩, running⟩
  | @leave result caller =>
    obtain ⟨frame, waiting⟩ := caller
    obtain ⟨waits, all⟩ := all
    cases waiting with
    | reader =>
      cases result with
      | ok value => exact ⟨trivial, all, running⟩
      | error cause => exact ⟨trivial, all, running⟩
    | request asker action answer =>
      obtain ⟨rfl, rfl⟩ := waits
      exact ⟨trivial, trivial, running⟩

theorem Within.plain (standard : engine.dictionary = .standard)
    (within : engine.Within moment later) (sound : moment.Sound engine) (plain : moment.Plain) :
    later.Plain := by
  induction within with
  | refl => exact plain
  | tail before proceeds ih => exact proceeds.plain standard (Within.sound before sound) ih

theorem halted_closes (engine : Engine) (state : State) (plain : Caller.AllPlain callers)
    (framed : callers ≠ []) (halted : state.halted = true)
    (running : state.resetPending = false) : ∃ answer after,
    engine.Within ⟨.read, callers, state⟩ ⟨.rest (.ok answer), [], after⟩ ∧ after.halted = true ∧
      after.stack = state.stack ∧ after.quotations = state.quotations ∧
      after.sink = state.sink := by
  -- By induction on those who wait. A run that is halted finds no word, and its frame is closed.
  induction callers generalizing state with
  | nil => exact absurd rfl framed
  | cons caller callers ih =>
    have none : engine.readWord state = .done (.leave (.ok ())) state := by
      rw [readWord, bind_apply, nextName?_apply, if_pos halted]
      rfl
    have leaves : engine.Within ⟨.read, caller :: callers, state⟩
        (caller.waiting.resume (.ok ()) callers (state.closeFrame caller.frame)) :=
      .tail (.single (.read none)) .leave
    rw [State.closeFrame_of_stays (.inr running)] at leaves
    obtain ⟨frame, waiting⟩ := caller
    obtain ⟨waits, plain⟩ := plain
    cases waiting with
    | reader =>
      obtain ⟨answer, after, closes, same⟩ :=
        ih { state with frame := frame, nesting := state.nesting - 1 } plain waits halted running
      exact ⟨answer, after, leaves.trans closes, same⟩
    | request asker action answer =>
      obtain ⟨rfl, rfl⟩ := waits
      exact ⟨_, _, leaves, halted, rfl, rfl, rfl⟩

theorem fault_closes (engine : Engine) (cause : Fault) (state : State)
    (plain : Caller.AllPlain callers) (framed : callers ≠ [])
    (running : state.resetPending = false) : ∃ after,
    engine.Within ⟨.leave (.error cause), callers, state⟩ ⟨.rest (.error cause), [], after⟩ ∧
      after = { state with frame := after.frame, nesting := after.nesting } := by
  induction callers generalizing state with
  | nil => exact absurd rfl framed
  | cons caller callers ih =>
    have leaves : engine.Within ⟨.leave (.error cause), caller :: callers, state⟩
        (caller.waiting.resume (.error cause) callers (state.closeFrame caller.frame)) :=
      .single .leave
    rw [State.closeFrame_of_stays (.inr running)] at leaves
    obtain ⟨frame, waiting⟩ := caller
    obtain ⟨waits, plain⟩ := plain
    cases waiting with
    | reader =>
      obtain ⟨after, closes, same⟩ :=
        ih { state with frame := frame, nesting := state.nesting - 1 } plain waits running
      exact ⟨after, leaves.trans closes, same⟩
    | request asker action answer =>
      obtain ⟨rfl, rfl⟩ := waits
      exact ⟨_, leaves, rfl⟩

theorem Reaches.runSpan_of_halted {asker : Asker} {accumulator : Int} {span : Span}
    (reaches : engine.Reaches asks ⟨.ask asker accumulator (.runSpan span), callers, state⟩)
    (halted : state.halted = true) (shallow : callers.length ≤ engine.settings.maxNesting)
    (fits : span.fits = true) :
    engine.answer (engine.readOver callers) accumulator (.runSpan span) state =
      .done (.nothing, accumulator) state := by
  have above := reaches.sound.above
  have stays : state.nesting ≠ 0 ∨ state.resetPending = false := by
    by_cases none : callers = []
    · exact .inr (above.idle none).2
    · exact .inl (mt above.shut_iff.1 none)
  have levels : engine.levels - callers.length =
      engine.settings.maxNesting - callers.length + 1 := Nat.succ_sub shallow
  have read : engine.readOver callers span state = .done () state := by
    rw [readOver, levels, readAt, readFrame_of_halted engine _ span halted stays, if_pos fits]
  have answers : engine.answer (engine.readOver callers) accumulator (.runSpan span) state =
      (engine.readOver callers span state).bind fun _ after =>
        .done (.nothing, accumulator) after := rfl
  rw [answers, read]
  rfl

theorem Within.plain_of_turn (standard : engine.dictionary = .standard)
    (between : engine.Between asks state) (wanted : asks action)
    (within : engine.Within (.opening action state) moment) : moment.Plain := by
  have sound := (between.opening wanted).sound
  exact Within.plain standard within sound ⟨⟨rfl, rfl⟩, trivial, (sound.above.idle rfl).2⟩

theorem Within.returned_of_standard {result : Except Fault Answer} {after : State}
    (standard : engine.dictionary = .standard)
    (within : engine.Within (.opening action state) ⟨.rest result, [], after⟩) :
    engine.turn action state = .returned result after := by
  have only : engine.dictionary.Only fun action => action.setsCursor = false := by
    rw [standard]
    exact Dictionary.only_standard _
  exact Within.returned within (turn_ne_endless only action state)

theorem Within.turn_of_halt (standard : engine.dictionary = .standard)
    (between : engine.Between asks state) (wanted : asks action)
    (within : engine.Within (.opening action state) ⟨.read, callers, inner⟩)
    (calls : engine.Calls inner .halt) : ∃ answer after,
    engine.turn action state = .returned (.ok answer) after ∧ after.halted = true ∧
      after.stack = inner.stack ∧ after.quotations = inner.quotations ∧
      after.sink = inner.sink := by
  have plain := Within.plain_of_turn standard between wanted within
  have framed := (Within.sound within (between.opening wanted).sound).ready.1
  obtain ⟨cursor, event, halts⟩ := readWord_of_halt calls
  obtain ⟨answer, after, closes, same⟩ :=
    engine.halted_closes { (inner.at cursor).note event with halted := true } plain.callers framed
      rfl plain.running
  have returns := (ReflTransGen.tail within (.read halts)).trans closes
  exact ⟨answer, after, Within.returned_of_standard standard returns, same⟩

theorem Within.turn_of_fault {cause : Fault} {behind : State}
    (standard : engine.dictionary = .standard) (between : engine.Between asks state)
    (wanted : asks action)
    (within : engine.Within (.opening action state) ⟨.read, callers, inner⟩)
    (failed : engine.readWord inner = .fault cause behind) : ∃ after,
    engine.turn action state = .returned (.error cause) after ∧
      after = { behind with frame := after.frame, nesting := after.nesting } := by
  have leaves : engine.Within (.opening action state) ⟨.leave (.error cause), callers, behind⟩ :=
    .tail within (.fail failed)
  have plain := Within.plain_of_turn standard between wanted leaves
  have framed := (Within.sound within (between.opening wanted).sound).ready.1
  obtain ⟨after, closes, same⟩ :=
    engine.fault_closes cause behind plain.callers framed plain.running
  exact ⟨after, Within.returned_of_standard standard (leaves.trans closes), same⟩

/-- While no word runs a script, a run that was halted reads no further word, in whichever frame it
was halted: not in that frame, nor in those that wait, nor in new ones, of which it takes no notice
even where they do not lie in the arena. With the built-in words only, it returns with what there
was where it was halted. -/
theorem halt_unwinds (bodies : engine.dictionary.Only fun action => action.runs = false) :
    (∀ {moment next later : Moment}, engine.Reaches asks moment → engine.Sets moment true →
      engine.Proceeds moment next → engine.Within next later → ∀ name, ¬ later.Resolves name) ∧
    (∀ {asker : Asker} {accumulator : Int} {span : Span} {callers : List Caller} {state : State},
      engine.Reaches asks ⟨.ask asker accumulator (.runSpan span), callers, state⟩ →
      state.halted = true → callers.length ≤ engine.settings.maxNesting → span.fits = true →
        engine.answer (engine.readOver callers) accumulator (.runSpan span) state =
          .done (.nothing, accumulator) state) ∧
    (engine.dictionary = .standard → ∀ {action : Action} {callers : List Caller}
      {state inner : State}, engine.Between asks state → asks action →
      engine.Within (.opening action state) ⟨.read, callers, inner⟩ → engine.Calls inner .halt →
        ∃ answer after, engine.turn action state = .returned (.ok answer) after ∧
          after.halted = true ∧ after.stack = inner.stack ∧
          after.quotations = inner.quotations ∧ after.sink = inner.sink) := by
  refine ⟨fun reaches sets proceeds within name resolves => ?_,
    fun reaches halted shallow fits => reaches.runSpan_of_halted halted shallow fits,
    fun standard => fun between wanted within calls =>
      Within.turn_of_halt standard between wanted within calls⟩
  have only := reaches.only_next bodies proceeds
  have sound := (reaches.next proceeds.leads).sound
  have halts := sets.over_or_halted proceeds reaches.sound
  have halted := Within.over_or_halted bodies within only sound halts
  obtain ⟨goesOn, running⟩ := resolves.running
  cases (halted.resolve_left goesOn).symm.trans running

end Engine

end Plain

def usual : Engine where
  dictionary := .standard
  settings := .default

def State.fresh : State :=
  .resting ⟨[], Settings.default.stackCapacity⟩ .empty .empty

theorem Engine.halt_unwinds_nested : ∃ caller host inner answer after,
    usual.Within (.opening (.run "1 [ 2 bye 3 ] do 4".toList) .fresh)
      ⟨.read, [caller, host], inner⟩ ∧
    usual.Calls inner .halt ∧
    (∀ next later, usual.Proceeds ⟨.read, [caller, host], inner⟩ next →
      usual.Within next later → ∀ name, ¬ later.Resolves name) ∧
    usual.turn (.run "1 [ 2 bye 3 ] do 4".toList) .fresh = .returned (.ok answer) after ∧
    after.halted = true ∧ after.stack.toList = [1, 2] ∧
    usual.answer (usual.readOver []) 0 (.runSpan ⟨5, 99⟩) after.hush =
      .done (.nothing, 0) after.hush := by
  have between : usual.Between (fun _ => True) .fresh :=
    .start (rfl : usual.start? .unlimited = some .fresh)
  have awaited : usual.Within (.opening (.run "1 [ 2 bye 3 ] do 4".toList) .fresh) _ :=
    .single (.await rfl)
  have opened := awaited.tail (.enter (by decide) (by decide))
  have pushed := opened.tail (.read rfl)
  have captured := pushed.tail (.read rfl)
  have called := captured.tail (.read rfl)
  have entered := called.tail (.enter (by decide) (by decide))
  have comes := entered.tail (.read rfl)
  obtain ⟨caller, host, inner, within, calls, cells⟩ : ∃ caller host inner,
      usual.Within _ ⟨.read, [caller, host], inner⟩ ∧ usual.Calls inner .halt ∧
        inner.stack.toList = [1, 2] :=
    ⟨_, _, _, comes, ⟨_, _, _, rfl, rfl, rfl, Nat.zero_le _, Nat.zero_le _⟩, rfl⟩
  have words : usual.dictionary.Only fun action => action.runs = false :=
    Dictionary.only_standard _
  obtain ⟨unwinds, passes, returns⟩ := halt_unwinds words
  obtain ⟨answer, after, returned, halted, stack, _⟩ := returns rfl between trivial within calls
  have reaches := (between.opening trivial).within within
  have later : usual.Reaches (fun _ => True) (.opening (.runSpan ⟨5, 99⟩) after) :=
    (between.turn trivial returned).opening trivial
  exact ⟨caller, host, inner, answer, after, within, calls,
    fun _ _ => unwinds reaches (.word calls), returned, halted,
    (congrArg Stack.toList stack).trans cells, passes later halted (Nat.zero_le _) (by decide)⟩

end StackScript

import StackScript.Proofs.Halting
import StackScript.Proofs.StackBounds

set_option autoImplicit false

namespace StackScript

open Relation Step

structure State.Cleared (state : State) : Prop where
  clear : state.clear = state
  nesting : state.nesting = 0

/-- But for what the turn showed, the state is that of a new engine with the same sink. So a session
goes on as a new one would begin. -/
def Engine.Renewed (engine : Engine) (state : State) : Prop :=
  ∃ fresh, engine.start? state.sink = some fresh ∧
    { state with events := [], journal := [] } = fresh ∧
    ∀ actions, engine.session state actions = engine.session fresh actions

def Engine.ProceedsAbove (engine : Engine) (depth : Nat) (before after : Moment) : Prop :=
  engine.Proceeds before after ∧ depth ≤ before.callers.length

def Engine.Remains (engine : Engine) (moment later : Moment) : Prop :=
  ReflTransGen (engine.ProceedsAbove later.callers.length) moment later

/-- No frame that is open at the moment is read any further. -/
def Engine.Stops (engine : Engine) (moment : Moment) : Prop :=
  ∀ later name, engine.Remains moment later → ¬ later.Resolves name

/-- After the one moment a script was run, and up to the other the run was not halted again. -/
def Engine.Resumes (engine : Engine) (moment later : Moment) : Prop :=
  ∃ running after, engine.Within moment running ∧ engine.Sets running false ∧
    engine.Proceeds running after ∧
    ReflTransGen (fun before after => engine.Proceeds before after ∧ ¬ engine.Sets before true)
      after later

section Waiting

variable {engine : Engine} {asks : Action → Prop} {moment later : Moment} {callers : List Caller}
  {state : State}

namespace Engine

theorem session_of_hush {first second : State} (same : first.hush = second.hush)
    (actions : List Action) : engine.session first actions = engine.session second actions := by
  cases actions with
  | nil => rfl
  | cons action rest => rw [session, session, turn, turn, same]

theorem renewed_of_cleared (cleared : state.Cleared)
    (new : Stack.empty? engine.settings.stackCapacity = some state.stack.clear) :
    engine.Renewed state := by
  refine ⟨{ state with events := [], journal := [] }, ?_, rfl, session_of_hush rfl⟩
  rw [start?, new, Option.map_some]
  conv_rhs => rw [← cleared.clear]
  simp [State.clear, cleared.nesting]

theorem Proceeds.waits_or_cleared (proceeds : engine.Proceeds moment later)
    (sound : moment.Sound engine) (opened : moment.callers ≠ [])
    (waits : moment.state.resetPending = true) :
    later.callers ≠ [] ∧ later.state.resetPending = true ∨
      later.Over ∧ later.state.Cleared := by
  rcases proceeds.open_or_rest sound opened with lower | ⟨result, caller, inner, answer, rfl, rfl⟩
  · refine .inl ⟨lower, ?_⟩
    rcases proceeds.shifts.resetPending with same | ⟨shut, _⟩ | ⟨_, _, _, _, waits⟩
    · exact same.trans waits
    · exact absurd ((Leads.sound proceeds sound).above.shut_iff.1 shut) lower
    · exact waits
  · refine .inr ⟨.inl ⟨answer, rfl⟩, ?_⟩
    have last : inner.nesting - 1 = 0 := by
      have nesting : inner.nesting = 1 := sound.above.nesting
      rw [nesting]
    have clears : inner.closeFrame caller.frame =
        { inner with frame := caller.frame, nesting := inner.nesting - 1 }.clear :=
      if_pos ⟨last, waits⟩
    rw [clears]
    exact ⟨rfl, last⟩

theorem Within.waits_or_cleared (within : engine.Within moment later)
    (sound : moment.Sound engine) (opened : moment.callers ≠ [])
    (waits : moment.state.resetPending = true) :
    later.callers ≠ [] ∧ later.state.resetPending = true ∨
      later.Over ∧ later.state.Cleared := by
  induction within with
  | refl => exact .inl ⟨opened, waits⟩
  | tail before proceeds ih =>
    rcases ih with ⟨opened, waits⟩ | ⟨ended, _⟩
    · exact proceeds.waits_or_cleared (Within.sound before sound) opened waits
    · exact absurd ended proceeds.not_over

theorem Within.cleared {action : Action} {asker : Asker} {accumulator : Int} {inner after : State}
    {result : Except Fault Answer}
    (within : engine.Within (.opening action state) ⟨.ask asker accumulator .reset, callers, inner⟩)
    (sound : (Moment.opening action state).Sound engine)
    (returned : engine.turn action state = .returned result after) : after.Cleared := by
  have asked := Within.sound within sound
  have above := asked.above
  have framed : asker.Framed callers := asked.ready.1
  have returns := Within.returns within returned
  obtain ⟨next, proceeds, onward⟩ := (ReflTransGen.cases_head returns).resolve_left nofun
  -- The host resets at once, and a word when the last frame is closed.
  by_cases outermost : callers = []
  · subst outermost
    have shut : inner.nesting = 0 := above.nesting
    cases asker with
    | word next => exact absurd rfl framed
    | host =>
      cases proceeds.unique (.answer (engine.prepare_reset_shut accumulator shut))
      cases Within.eq_of_over onward (.inl ⟨_, rfl⟩)
      exact ⟨rfl, shut⟩
  · have inside : inner.nesting ≠ 0 := mt above.shut_iff.1 outermost
    have heard := proceeds.unique (.answer (engine.prepare_reset_inside accumulator inside))
    have opened : next.callers ≠ [] ∧ next.state.resetPending = true := by
      rw [heard]
      cases asker with
      | host | word => exact ⟨outermost, rfl⟩
    rcases Within.waits_or_cleared onward (Leads.sound proceeds asked) opened.1 opened.2 with
      ⟨open', _⟩ | ⟨_, cleared⟩
    · exact absurd rfl open'
    · exact cleared

theorem turn_reset (engine : Engine) (shut : state.hush.nesting = 0) :
    engine.turn .reset state = .returned (.ok (.flag false)) state.hush.clear := by
  simp [turn, act, answer, engine.prepare_reset_shut 0 shut, Due.settle]

/-- A reset, by the host or by a word in whichever frame, makes the engine a new one by the end of
the turn, whatever the words do after it and whether the turn fails. -/
theorem Between.reset_renews (between : engine.Between (fun _ => True) state) :
    (∃ after, engine.turn .reset state = .returned (.ok (.flag false)) after ∧
      engine.Renewed after) ∧
    ∀ {action : Action} {asker : Asker} {accumulator : Int} {callers : List Caller}
      {inner after : State} {result : Except Fault Answer},
      engine.Within (.opening action state) ⟨.ask asker accumulator .reset, callers, inner⟩ →
      engine.turn action state = .returned result after → engine.Renewed after := by
  have opening action : engine.Reaches (fun _ => True) (.opening action state) :=
    between.opening trivial
  have renews {action asker accumulator callers} {inner after : State} {result}
      (within : engine.Within (.opening action state)
        ⟨.ask asker accumulator .reset, callers, inner⟩)
      (returned : engine.turn action state = .returned result after) : engine.Renewed after := by
    have ends := (opening action).within (within.trans (Within.returns within returned))
    exact renewed_of_cleared (Within.cleared within (opening action).sound returned)
      (ends.new_stack nofun)
  have returned := engine.turn_reset (opening .reset).sound.above.nesting
  exact ⟨⟨_, returned, renews .refl returned⟩, fun within returned => renews within returned⟩

end Engine

end Waiting

def Word.relapse : Word where
  name := "w".toList
  inputs := 0
  outputs := 0
  operation := .body [.act .reset false, .act (.run []) false]

def relapsing : Engine where
  dictionary := (Dictionary.standard.registerAll [.relapse]).1
  settings := .default

def Turn.output? : Turn → Option Text
  | .returned _ after => some after.output
  | .crashed _ | .endless => none

theorem Turn.exists_of_output? {turn : Turn} {shown : Text} (output : turn.output? = some shown) :
    ∃ result after, turn = .returned result after ∧ after.output = shown := by
  cases turn with
  | returned result after => exact ⟨result, after, rfl, Option.some_inj.1 output⟩
  | crashed after | endless => cases output

theorem relapsing_between : relapsing.Between (fun _ => True) .fresh :=
  .start (rfl : relapsing.start? .unlimited = some .fresh)

theorem relapsing_goes_on : ∃ next callers inner later,
    relapsing.Within (.opening (.run "w 3 out".toList) .fresh)
      ⟨.ask (.word next) 0 .reset, callers, inner⟩ ∧
    ReflTransGen (relapsing.ProceedsAbove 1) ⟨.ask (.word next) 0 .reset, callers, inner⟩ later ∧
    later.callers.length = 1 ∧ later.Resolves "3".toList := by
  have awaited : relapsing.Within (.opening (.run "w 3 out".toList) .fresh) _ :=
    .single (.await rfl)
  have opened := awaited.tail (.enter (by decide) (by decide))
  have found := opened.tail (.read rfl)
  have asked := found.tail .ask
  -- From where the word asks on, the frame that calls it stays open.
  have here {moment : Moment}
      (_ : relapsing.Within (.opening (.run "w 3 out".toList) .fresh) moment) :
      ReflTransGen (relapsing.ProceedsAbove 1) moment moment := .refl
  have postponed := (here asked).tail ⟨.answer rfl, Nat.le_refl 1⟩
  have running := postponed.tail ⟨.ask, Nat.le_refl 1⟩
  have awaited := running.tail ⟨.await rfl, Nat.le_refl 1⟩
  have opened := awaited.tail ⟨.enter (by decide) (by decide), Nat.le_refl 1⟩
  have ended := opened.tail ⟨.read rfl, Nat.le_succ 1⟩
  have closed := ended.tail ⟨.leave, Nat.le_succ 1⟩
  have resumed := closed.tail ⟨.finish, Nat.le_refl 1⟩
  exact ⟨_, _, _, _, asked, resumed, rfl, rfl, _, rfl⟩

theorem relapsing_prints :
    (relapsing.turn (.run "w 3 out".toList) .fresh).output? = some "3\n".toList := by
  decide +kernel

theorem Engine.Between.reset_renews_relapsing : ∃ next callers inner result after,
    relapsing.Within (.opening (.run "w 3 out".toList) .fresh)
      ⟨.ask (.word next) 0 .reset, callers, inner⟩ ∧
    relapsing.turn (.run "w 3 out".toList) .fresh = .returned result after ∧
    after.output = "3\n".toList ∧ relapsing.Renewed after := by
  obtain ⟨next, callers, inner, _, within, _⟩ := relapsing_goes_on
  obtain ⟨result, after, returned, output⟩ := Turn.exists_of_output? relapsing_prints
  exact ⟨next, callers, inner, result, after, within, returned, output,
    relapsing_between.reset_renews.2 within returned⟩

section Stopping

variable {engine : Engine} {asks : Action → Prop} {moment first later : Moment}
  {callers : List Caller} {state : State}

namespace Engine

theorem Remains.within (remains : engine.Remains moment later) : engine.Within moment later :=
  ReflTransGen.mono (fun _ _ above => above.1) _ _ remains

theorem Resumes.running (resumes : engine.Resumes moment later) (sound : moment.Sound engine)
    (goesOn : ¬ later.Over) : later.state.halted = false := by
  obtain ⟨running, after, reached, sets, proceeds, onward⟩ := resumes
  have sound := Within.sound reached sound
  induction onward with
  | refl =>
    rcases proceeds.steers sound goesOn ⟨rfl, rfl⟩ with ⟨flag, sets', poised⟩ | ⟨unset, _⟩
    · exact poised.halted.trans (sets'.unique sets)
    · exact absurd sets (unset false)
  | @tail before later passed next ih =>
    have before' := ReflTransGen.head proceeds (ReflTransGen.mono (fun _ _ => And.left) _ _ passed)
    have running := ih next.1.not_over
    rcases next.1.steers (Within.sound before' sound) goesOn ⟨running, rfl⟩ with
      ⟨flag, sets', poised⟩ | ⟨_, poised⟩
    · cases flag with
      | true => exact absurd sets' next.2
      | false => exact poised.halted
    · exact poised.halted

theorem Proceeds.running_iff (proceeds : engine.Proceeds moment first)
    (sets : engine.Sets moment true) (sound : moment.Sound engine)
    (within : engine.Within first later) (goesOn : ¬ later.Over) :
    later.state.halted = false ↔ engine.Resumes moment later := by
  refine ⟨fun running => ?_, fun resumes => resumes.running sound goesOn⟩
  induction within with
  | refl =>
    have halted := (sets.over_or_halted proceeds sound).resolve_left goesOn
    cases halted.symm.trans running
  | @tail before later passed next ih =>
    have reached := ReflTransGen.head proceeds passed
    rcases next.steers (Within.sound reached sound) goesOn ⟨rfl, rfl⟩ with
      ⟨flag, sets', poised⟩ | ⟨unset, poised⟩
    · obtain rfl : flag = false := poised.halted.symm.trans running
      exact ⟨before, later, reached, sets', next, .refl⟩
    · obtain ⟨start, after, reached, sets', starts, onward⟩ :=
        ih next.not_over (poised.halted.symm.trans running)
      exact ⟨start, after, reached, sets', starts, onward.tail ⟨next, unset true⟩⟩

/-- A reset that a word asks for stops the frames that are open, exactly where no word of theirs is
left once a script was run after the reset. -/
theorem Reaches.reset_stops_iff {next : Except Fault (Reply Signature × Int) → Program}
    {accumulator : Int}
    (reaches : engine.Reaches asks ⟨.ask (.word next) accumulator .reset, callers, state⟩) :
    engine.Stops ⟨.ask (.word next) accumulator .reset, callers, state⟩ ↔
      ∀ later, engine.Remains ⟨.ask (.word next) accumulator .reset, callers, state⟩ later →
        later.task = .read → later.state.Ahead →
          ¬ engine.Resumes ⟨.ask (.word next) accumulator .reset, callers, state⟩ later := by
  have running_iff {later : Moment}
      (remains : engine.Remains ⟨.ask (.word next) accumulator .reset, callers, state⟩ later)
      (reads : later.task = .read) : later.state.halted = false ↔
        engine.Resumes ⟨.ask (.word next) accumulator .reset, callers, state⟩ later := by
    have goesOn : ¬ later.Over := by simp [Moment.Over, reads]
    rcases ReflTransGen.cases_head remains.within with rfl | ⟨first, proceeds, within⟩
    · cases reads
    · exact proceeds.running_iff (.action rfl) reaches.sound within goesOn
  constructor
  · intro stops later remains reads ahead resumes
    obtain ⟨name, behind, found⟩ := nextName?_of_ahead ((running_iff remains reads).2 resumes) ahead
    exact stops later name remains ⟨reads, behind, found⟩
  · intro quiet later name remains resolves
    obtain ⟨reads, behind, found⟩ := resolves
    obtain ⟨running, ahead, _⟩ := nextName?_some found
    exact quiet later remains reads ahead ((running_iff remains reads).1 running)

end Engine

end Stopping

def Word.wipe : Word where
  name := "wipe".toList
  inputs := 0
  outputs := 0
  operation := .body [.act .reset false]

def wiping : Engine where
  dictionary := (Dictionary.standard.registerAll [.wipe]).1
  settings := .default

theorem Engine.Reaches.reset_stops_wiping : ∃ next caller host inner,
    wiping.Reaches (fun _ => True) ⟨.ask (.word next) 0 .reset, [caller, host], inner⟩ ∧
    wiping.Stops ⟨.ask (.word next) 0 .reset, [caller, host], inner⟩ := by
  have started : wiping.start? .unlimited = some .fresh := rfl
  have asked : wiping.Reaches (fun _ => True)
      ⟨.ask .host 0 (.run "[ wipe 5 ] do 1".toList), [], _⟩ :=
    .next (.start started) (.request trivial)
  have awaited := asked.next (.await rfl)
  have opened := awaited.next (.enter (by decide) (by decide))
  have captured := opened.next (.read rfl)
  have called := captured.next (.read rfl)
  have entered := called.next (.enter (by decide) (by decide))
  have found := entered.next (.read rfl)
  obtain ⟨next, caller, host, inner, reaches⟩ : ∃ next caller host inner,
      wiping.Reaches (fun _ => True) ⟨.ask (.word next) 0 .reset, [caller, host], inner⟩ :=
    ⟨_, _, _, _, found.next .ask⟩
  have words : wiping.dictionary.Only fun action => action.runs = false := by
    refine Dictionary.only_registerAll (List.forall_mem_singleton.2 ⟨_, rfl, ?_⟩)
    exact Program.only_ofInstructions (by simp [Instruction.Only, Action.runs]) 0 0
  have only := (reaches.only_or_host words).resolve_right (by
    rintro ⟨_, _, _, same⟩
    cases same)
  refine ⟨next, caller, host, inner, reaches, reaches.reset_stops_iff.2 ?_⟩
  rintro later _ _ _ ⟨running, after, passed, sets, _⟩
  cases sets.halts (Within.only words passed only)

-- But a script that is run after a reset lets the frame go on that was open: what it prints then is
-- seen by the host.
theorem Engine.not_stops_relapsing : ∃ next callers inner,
    relapsing.Reaches (fun _ => True) ⟨.ask (.word next) 0 .reset, callers, inner⟩ ∧
    ¬ relapsing.Stops ⟨.ask (.word next) 0 .reset, callers, inner⟩ ∧
    (relapsing.turn (.run "w 3 out".toList) .fresh).output? = some "3\n".toList := by
  obtain ⟨next, callers, inner, later, within, remains, depth, resolves⟩ := relapsing_goes_on
  have remains : relapsing.Remains ⟨.ask (.word next) 0 .reset, callers, inner⟩ later := by
    rw [Remains, depth]
    exact remains
  exact ⟨next, callers, inner, (relapsing_between.opening trivial).within within,
    fun stops => stops later _ remains resolves, relapsing_prints⟩

end StackScript

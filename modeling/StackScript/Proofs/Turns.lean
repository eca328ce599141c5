import StackScript.Proofs.Frames
import StackScript.Proofs.Requests

set_option autoImplicit false

namespace StackScript

open Relation

-- One moment leads to the other while the host waits for its answer.
abbrev Engine.Proceeds (engine : Engine) : Moment → Moment → Prop :=
  engine.Leads fun _ => False

abbrev Engine.Within (engine : Engine) : Moment → Moment → Prop :=
  ReflTransGen engine.Proceeds

def Moment.opening (action : Action) (state : State) : Moment :=
  ⟨.ask .host 0 action, [], state.hush⟩

def Moment.Over (moment : Moment) : Prop :=
  (∃ answer, moment.task = .rest answer) ∨ moment.task = .crashed

def Moment.Resolves (moment : Moment) (name : Text) : Prop :=
  moment.task = .read ∧ ∃ behind, Engine.nextName? moment.state = .done (some name) behind

section Turns

variable {engine : Engine} {asks asks' : Action → Prop} {moment later other : Moment}
  {action : Action} {state after : State}

namespace Engine

theorem Leads.mono
    (implied : ∀ answer, moment.task = .rest answer → ∀ action, asks action → asks' action)
    (leads : engine.Leads asks moment later) : engine.Leads asks' moment later := by
  cases leads with
  | request wanted => exact .request (implied _ rfl _ wanted)
  | answer prepared => exact .answer prepared
  | refuse prepared => exact .refuse prepared
  | await prepared => exact .await prepared
  | breakAction prepared => exact .breakAction prepared
  | ask => exact .ask
  | finish => exact .finish
  | read word => exact .read word
  | fail word => exact .fail word
  | breakWord word => exact .breakWord word
  | tooDeep deep => exact .tooDeep deep
  | enter shallow fits => exact .enter shallow fits
  | breakSpan shallow long => exact .breakSpan shallow long
  | leave => exact .leave

theorem Proceeds.leads (proceeds : engine.Proceeds moment later) :
    engine.Leads asks moment later :=
  proceeds.mono fun _ _ _ => False.elim

theorem Within.passes (within : engine.Within moment later) : engine.Passes asks moment later :=
  ReflTransGen.mono (fun _ _ => Proceeds.leads) _ _ within

theorem Reaches.within (reaches : engine.Reaches asks moment)
    (within : engine.Within moment later) : engine.Reaches asks later :=
  reaches.passes within.passes

theorem Between.opening (between : engine.Between asks state) (wanted : asks action) :
    engine.Reaches asks (.opening action state) := by
  obtain ⟨answer, reaches⟩ := between.reaches
  exact reaches.next (.request wanted)

theorem Within.sound (within : engine.Within moment later) (sound : moment.Sound engine) :
    later.Sound engine :=
  Passes.sound within sound

theorem Proceeds.unique (proceeds : engine.Proceeds moment later)
    (proceeds' : engine.Proceeds moment other) : later = other := by
  cases rest : moment.task with
  | rest answer =>
    obtain ⟨task, callers, state⟩ := moment
    cases rest
    cases proceeds with
    | request wanted => exact wanted.elim
  | _ => exact Leads.unique (by simp [rest]) proceeds proceeds'

theorem Proceeds.not_over (proceeds : engine.Proceeds moment later) : ¬ moment.Over := by
  intro ended
  cases proceeds with
  | request wanted => exact wanted.elim
  | _ => simp [Moment.Over] at ended

theorem Within.eq_of_over (within : engine.Within moment later) (ended : moment.Over) :
    later = moment := by
  rcases ReflTransGen.cases_head within with same | ⟨next, proceeds, _⟩
  · exact same.symm
  · exact absurd ended proceeds.not_over

theorem Within.returns {result : Except Fault Answer}
    (within : engine.Within (.opening action state) moment)
    (returned : engine.turn action state = .returned result after) :
    engine.Within moment ⟨.rest result, [], after⟩ := by
  have ends : (engine.turn action state).Ends engine (fun _ => False) _ :=
    engine.turn_ends action state
  rw [returned] at ends
  have unique : Relator.RightUnique engine.Proceeds := fun _ _ _ => Proceeds.unique
  rcases ReflTransGen.total_of_right_unique unique within ends with onward | back
  · exact onward
  · exact Within.eq_of_over back (.inl ⟨result, rfl⟩) ▸ .refl

theorem Within.returned {result : Except Fault Answer}
    (within : engine.Within (.opening action state) ⟨.rest result, [], after⟩)
    (ends : engine.turn action state ≠ .endless) :
    engine.turn action state = .returned result after := by
  have ended : Moment.Over ⟨.rest result, [], after⟩ := .inl ⟨result, rfl⟩
  have unique : Relator.RightUnique engine.Proceeds := fun _ _ _ => Proceeds.unique
  have same {last : Moment} (comes : engine.Within (.opening action state) last)
      (final : last.Over) : last = ⟨.rest result, [], after⟩ := by
    rcases ReflTransGen.total_of_right_unique unique within comes with onward | back
    · exact Within.eq_of_over onward ended
    · exact (Within.eq_of_over back final).symm
  have comes : (engine.turn action state).Ends engine (fun _ => False) _ :=
    engine.turn_ends action state
  cases turned : engine.turn action state with
  | returned result' after' =>
    rw [turned] at comes
    cases same comes (.inl ⟨result', rfl⟩)
    rfl
  | crashed after' =>
    rw [turned] at comes
    obtain ⟨callers, comes⟩ := comes
    cases same comes (.inr rfl)
  | endless => exact absurd turned ends

theorem Leads.only_of_host {accumulator : Int}
    (leads : engine.Leads asks' ⟨.ask .host accumulator action, [], state⟩ later) :
    later.Only asks := by
  have none : ∀ caller ∈ ([] : List Caller), caller.waiting.Only asks := List.forall_mem_nil _
  cases leads with
  | answer | refuse | await | breakAction => exact ⟨trivial, none⟩

theorem Reaches.only_or_host (words : engine.dictionary.Only asks)
    (reaches : engine.Reaches asks' moment) :
    moment.Only asks ∨
      ∃ accumulator action state, moment = ⟨.ask .host accumulator action, [], state⟩ := by
  induction reaches with
  | start => exact .inl ⟨trivial, List.forall_mem_nil _⟩
  | @next moment later _ leads ih =>
    rcases ih with only | ⟨accumulator, action, state, rfl⟩
    · by_cases rest : ∃ answer, moment.task = .rest answer
      · cases leads with
        | request => exact .inr ⟨_, _, _, rfl⟩
        | _ => simp at rest
      · have leads : engine.Leads asks moment later :=
          leads.mono fun answer task => absurd ⟨answer, task⟩ rest
        exact .inl (leads.only words only)
    · exact .inl leads.only_of_host

end Engine

theorem Engine.Reaches.only_next (words : engine.dictionary.Only asks)
    (reaches : engine.Reaches asks' moment) (proceeds : engine.Proceeds moment later) :
    later.Only asks := by
  rcases reaches.only_or_host words with only | ⟨accumulator, action, state, rfl⟩
  · exact proceeds.leads.only words only
  · exact proceeds.only_of_host

theorem Engine.Within.only (words : engine.dictionary.Only asks)
    (within : engine.Within moment later) (only : moment.Only asks) : later.Only asks := by
  induction within with
  | refl => exact only
  | tail _ proceeds ih => exact proceeds.leads.only words ih

theorem Waiting.Framed.host {waiting : Waiting} (framed : waiting.Framed [])
    (result : Except Fault Unit) (state : State) :
    ∃ answer, waiting.resume result [] state = ⟨.rest answer, [], state⟩ := by
  cases waiting with
  | reader => exact absurd rfl framed
  | request asker action answer =>
    cases asker with
    | host => exact ⟨_, rfl⟩
    | word next => exact absurd rfl framed

namespace Engine

theorem Proceeds.open_or_rest (proceeds : engine.Proceeds moment later)
    (sound : moment.Sound engine) (opened : moment.callers ≠ []) :
    later.callers ≠ [] ∨ ∃ result caller inner waits,
      moment = ⟨.leave result, [caller], inner⟩ ∧
      later = ⟨.rest waits, [], inner.closeFrame caller.frame⟩ := by
  cases proceeds with
  | request => exact absurd rfl opened
  | @answer asker | @refuse asker =>
    cases asker with
    | host | word => exact .inl opened
  | @tooDeep _ waiting =>
    cases waiting with
    | reader => exact .inl opened
    | request asker action answer =>
      cases asker with
      | host | word => exact .inl opened
  | @leave result caller callers inner =>
    by_cases last : callers = []
    · subst last
      obtain ⟨_, framed, _⟩ := sound.above.callers
      obtain ⟨answer, resumed⟩ := framed.host result (inner.closeFrame caller.frame)
      exact .inr ⟨result, caller, inner, answer, rfl, resumed⟩
    · refine .inl ?_
      cases caller.waiting with
      | reader => exact last
      | request asker action answer =>
        cases asker with
        | host | word => exact last
  | enter => exact .inl (List.cons_ne_nil _ _)
  | await | breakAction | ask | finish | read | fail | breakWord | breakSpan => exact .inl opened

end Engine

end Turns

end StackScript

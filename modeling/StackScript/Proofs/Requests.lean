import StackScript.Proofs.Places

set_option autoImplicit false

namespace StackScript

open Step

def Program.Only (asks : Action → Prop) : Program → Prop
  | finish _ => True
  | ask _ action next => asks action ∧ ∀ told, (next told).Only asks

def Instruction.Only (asks : Action → Prop) : Instruction → Prop
  | act action _ => asks action
  | skipIfZero _ => True

def Operation.Only (asks : Action → Prop) : Operation → Prop
  | .builtin _ => True
  | .program own => own.Only asks

def Dictionary.Only (asks : Action → Prop) (dictionary : Dictionary) : Prop :=
  ∀ word ∈ dictionary.words, word.operation.Only asks

def Word.Programmed (asks : Action → Prop) (word : Word) : Prop :=
  ∃ program, word.operation = .program program ∧ program.Only asks

def Asker.Only (asks : Action → Prop) : Asker → Prop
  | host => True
  | word next => ∀ told, (next told).Only asks

def Waiting.Only (asks : Action → Prop) : Waiting → Prop
  | reader => True
  | request asker _ _ => asker.Only asks

def Task.Only (asks : Action → Prop) : Task → Prop
  | ask asker _ action => asker.Only asks ∧ asks action
  | perform program => program.Only asks
  | enter _ waiting => waiting.Only asks
  | rest _ | read | leave _ | crashed => True

def Action.captures : Action → Bool
  | capture _ => true
  | _ => false

structure Moment.Only (asks : Action → Prop) (moment : Moment) : Prop where
  task : moment.task.Only asks
  callers : ∀ caller ∈ moment.callers, caller.waiting.Only asks

theorem Program.only_ofInstructions {asks : Action → Prop} {instructions : List Instruction}
    (only : ∀ instruction ∈ instructions, instruction.Only asks) (skip : Nat) (accumulator : Int) :
    (ofInstructions skip accumulator instructions).Only asks := by
  induction instructions generalizing skip accumulator with
  | nil => cases skip <;> trivial
  | cons first rest ih =>
    obtain ⟨here, only⟩ := List.forall_mem_cons.1 only
    have later := ih only
    cases skip with
    | succ skip => exact later skip accumulator
    | zero =>
      cases first with
      | skipIfZero count => exact later _ accumulator
      | act action tolerant =>
        refine ⟨here, fun told => ?_⟩
        cases told with
        | ok reply => exact later 0 reply.2
        | error cause =>
          cases tolerant with
          | true => exact later 0 cause.code
          | false => trivial

namespace Dictionary

theorem mem_registerAll {dictionary : Dictionary} {words : List Word} {word : Word}
    (member : word ∈ (dictionary.registerAll words).1.words) :
    word ∈ dictionary.words ∨ word ∈ words := by
  rw [registerAll_eq] at member
  exact (List.mem_append.1 member).imp_right fun accepted => (List.mem_filter.1 accepted).1

theorem only_standard (asks : Action → Prop) : standard.Only asks := by
  have all : standard.words.all (fun word =>
      match word.operation with
      | .builtin _ => true
      | .program _ => false) = true := by
    decide
  intro word member
  have builtin := List.all_eq_true.1 all word member
  cases operation : word.operation with
  | builtin builtin => trivial
  | program program =>
    rw [operation] at builtin
    cases builtin

theorem only_registerAll {asks : Action → Prop} {words : List Word}
    (programmed : ∀ word ∈ words, word.Programmed asks) :
    (standard.registerAll words).1.Only asks := by
  intro word member
  rcases mem_registerAll member with builtin | own
  · exact only_standard asks word builtin
  · obtain ⟨program, operation, only⟩ := programmed word own
    rw [operation]
    exact only

end Dictionary

def Step.Gives {α : Type} (holds : α → Prop) (step : Step α) : Prop :=
  ∀ (state : State) (value : α) (after : State), step state = .done value after → holds value

namespace Step.Gives

variable {α β : Type} {step : Step α} {next : α → Step β} {holds : β → Prop}

theorem pure {value : β} (given : holds value) : (Pure.pure value : Step β).Gives holds := by
  intro state _ after done
  cases done
  exact given

theorem fail (cause : Fault) : (Step.fail cause : Step β).Gives holds := by
  intro state value after done
  cases done

theorem any (step : Step α) : step.Gives fun _ => True :=
  fun _ _ _ _ => trivial

theorem bind {given : α → Prop} (first : step.Gives given)
    (second : ∀ value, given value → (next value).Gives holds) : (step >>= next).Gives holds := by
  intro state value after done
  rw [bind_apply] at done
  cases stepped : step state with
  | done middle last =>
    rw [stepped] at done
    exact second middle (first state middle last stepped) last value after done
  | fault cause last | crash last | endless =>
    rw [stepped] at done
    cases done

end Step.Gives

section Requests

variable {engine : Engine} {asks : Action → Prop} {moment later : Moment} {callers : List Caller}
  {state : State}

section Errands

variable {holds : Errand → Prop} (nothing : holds .nothing) (reads : ∀ span, holds (.read span))

include nothing reads

theorem Builtin.errand_gives (builtin : Builtin) : builtin.errand.Gives holds := by
  by_cases call : builtin = .call
  · subst call
    refine .bind (.any _) fun found _ => ?_
    cases found with
    | some body => exact .pure (reads body)
    | none => exact .pure nothing
  · rw [errand_eq call]
    exact .bind (.any _) fun _ _ => .pure nothing

theorem Engine.errand_gives
    (performs : ∀ word ∈ engine.dictionary.words, ∀ program, word.operation = .program program →
      holds (.perform program)) (name : Text) : (engine.errand name).Gives holds := by
  unfold errand
  split
  · next word meaning =>
    have member := List.mem_of_find?_eq_some (Dictionary.find?_of_meaning meaning)
    refine .bind (.any _) fun _ _ => ?_
    cases operation : word.operation with
    | builtin builtin => exact builtin.errand_gives nothing reads
    | program program => exact .pure (performs word member program operation)
  · exact .bind (.any _) fun _ _ => .bind (.any _) fun _ _ => .pure nothing
  · exact .fail _

end Errands

namespace Engine

theorem errand_only (words : engine.dictionary.Only asks) (name : Text) :
    (engine.errand name).Gives fun errand => errand.task.Only asks := by
  refine errand_gives (trivial : Task.read.Only asks) (fun _ => trivial)
    (fun word member program operation => ?_) name
  have only := words word member
  rw [operation] at only
  exact only

theorem readWord_only (words : engine.dictionary.Only asks) :
    engine.readWord.Gives fun task => task.Only asks := by
  refine .bind (.any _) fun name? _ => ?_
  cases name? with
  | none => exact .pure trivial
  | some name => exact (errand_only words name).bind fun _ only => .pure only

end Engine

theorem Asker.Only.hear {asker : Asker} (only : asker.Only asks)
    (others : ∀ caller ∈ callers, caller.waiting.Only asks) (action : Action)
    (result : Except Fault (Answer × Int)) :
    (asker.hear action result callers state).Only asks := by
  cases asker with
  | host => exact ⟨trivial, others⟩
  | word next => exact ⟨only _, others⟩

theorem Task.after_only (result : Except Fault Unit) : (Task.after result).Only asks := by
  cases result with
  | ok value => trivial
  | error cause => trivial

theorem Waiting.Only.resume {waiting : Waiting} (only : waiting.Only asks)
    (others : ∀ caller ∈ callers, caller.waiting.Only asks) (result : Except Fault Unit) :
    (waiting.resume result callers state).Only asks := by
  cases waiting with
  | reader => exact ⟨Task.after_only result, others⟩
  | request asker action answer => exact Asker.Only.hear only others action _

namespace Engine

theorem Leads.only (words : engine.dictionary.Only asks) (leads : engine.Leads asks moment later)
    (only : moment.Only asks) : later.Only asks := by
  obtain ⟨task, callers⟩ := only
  cases leads with
  | request wanted => exact ⟨⟨trivial, wanted⟩, callers⟩
  | answer | refuse => exact task.1.hear callers _ _
  | await => exact ⟨task.1, callers⟩
  | ask => exact ⟨⟨task.2, task.1⟩, callers⟩
  | finish => exact ⟨Task.after_only _, callers⟩
  | read word => exact ⟨readWord_only words _ _ _ word, callers⟩
  | tooDeep => exact task.resume callers _
  | enter => exact ⟨trivial, List.forall_mem_cons.2 ⟨task, callers⟩⟩
  | leave =>
    obtain ⟨waiting, callers⟩ := List.forall_mem_cons.1 callers
    exact waiting.resume callers _
  | breakAction | fail | breakWord | breakSpan => exact ⟨trivial, callers⟩

theorem Reaches.only (words : engine.dictionary.Only asks) (reaches : engine.Reaches asks moment) :
    moment.Only asks := by
  induction reaches with
  | start => exact ⟨trivial, List.forall_mem_nil _⟩
  | next _ leads ih => exact leads.only words ih

end Engine

end Requests

end StackScript

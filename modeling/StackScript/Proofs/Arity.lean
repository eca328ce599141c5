import Mathlib.Algebra.Group.Nat.Defs
import StackScript.Proofs.Atomicity

set_option autoImplicit false

namespace StackScript

open Step

/-- The inputs of the word are there, and the outputs fit in their place. The difference is one of
integers. -/
def Word.Admitted (word : Word) (stack : Stack) : Prop :=
  word.inputs ≤ stack.depth ∧ (stack.depth : Int) - word.inputs + word.outputs ≤ stack.capacity

def Word.refusal (word : Word) (stack : Stack) : Fault :=
  if stack.depth < word.inputs then .stackUnderflow else .stackOverflow

/-- The word is announced, and then its operation is carried out, whichever that is. -/
def Engine.Invokes (engine : Engine) (word : Word) (state : State) : Prop :=
  ∀ reads,
    (∀ builtin, engine.dispatch reads { word with operation := .builtin builtin } state =
      builtin.invoke reads (state.note (.invoking word.name state.stack))) ∧
    ∀ program, engine.dispatch reads { word with operation := .program program } state =
      engine.perform reads program (state.note (.invoking word.name state.stack))

def Word.wide : Word where
  name := "wide".toList
  inputs := 1
  outputs := 2 ^ 64 - 1
  operation := .body []

def Engine.wide : Engine where
  dictionary := (Dictionary.standard.registerAll [.wide]).1
  settings := .default

section Arity

variable {engine : Engine} {asks : Action → Prop} {word : Word} {stack : Stack} {state : State}

instance (word : Word) (stack : Stack) : Decidable (word.Admitted stack) :=
  inferInstanceAs (Decidable (_ ∧ _))

theorem Word.admitted_iff (depth : stack.depth ≤ stack.capacity) :
    word.Admitted stack ↔ word.inputs ≤ stack.depth ∧ word.growth ≤ stack.room := by
  rw [Admitted, growth, Stack.room]
  omega

theorem Stack.room_eq (depth : stack.depth ≤ stack.capacity) :
    (stack.room : Int) = stack.capacity - stack.depth := by
  rw [room]
  omega

namespace Engine

theorem checkArity_of_admitted (depth : state.stack.depth ≤ state.stack.capacity)
    (admitted : word.Admitted state.stack) :
    checkArity word state = .done () (state.note (.invoking word.name state.stack)) := by
  obtain ⟨inputs, room⟩ := (Word.admitted_iff depth).1 admitted
  rw [checkArity_apply, if_neg (Nat.not_lt.2 inputs), if_neg (Nat.not_lt.2 room)]

theorem checkArity_of_refused (depth : state.stack.depth ≤ state.stack.capacity)
    (refused : ¬ word.Admitted state.stack) :
    checkArity word state = .fault (word.refusal state.stack) state := by
  rw [checkArity_apply, Word.refusal]
  split
  · rfl
  · next inputs =>
    have full : state.stack.room < word.growth := by
      rw [Word.admitted_iff depth, not_and] at refused
      exact Nat.not_le.1 (refused (Nat.not_lt.1 inputs))
    rw [if_pos full]

theorem dispatch_of_refused (depth : state.stack.depth ≤ state.stack.capacity)
    (refused : ¬ word.Admitted state.stack) (reads : Span → Step Unit) :
    engine.dispatch reads word state = .fault (word.refusal state.stack) state := by
  rw [dispatch, bind_apply, checkArity_of_refused depth refused]
  rfl

theorem dispatch_of_admitted (depth : state.stack.depth ≤ state.stack.capacity)
    (operation : Operation) (admitted : word.Admitted state.stack) (reads : Span → Step Unit) :
    engine.dispatch reads { word with operation := operation } state =
      engine.invoke reads operation (state.note (.invoking word.name state.stack)) := by
  let other : Word := { word with operation := operation }
  have passed := @checkArity_of_admitted other state depth admitted
  rw [dispatch, bind_apply, passed]
  rfl

theorem invokes_iff (engine : Engine) (depth : state.stack.depth ≤ state.stack.capacity) :
    engine.Invokes word state ↔ word.Admitted state.stack := by
  constructor
  · intro invokes
    by_contra refused
    -- A word that does nothing would have come to its end.
    let idle : Word := { word with operation := .program (.finish (.ok ())) }
    have faulted := @dispatch_of_refused engine idle state depth refused engine.runSpan
    cases ((invokes engine.runSpan).2 (.finish (.ok ()))).symm.trans faulted
  · intro admitted reads
    constructor
    · intro builtin
      exact dispatch_of_admitted depth (.builtin builtin) admitted reads
    · intro program
      exact dispatch_of_admitted depth (.program program) admitted reads

variable {callers : List Caller} {name : Text} {behind : State} {later : Moment}

theorem readWord_of_word (named : nextName? state = .done (some name) behind)
    (meaning : engine.dictionary.meaning name = .word word) :
    engine.readWord state = (checkArity word behind).bind fun _ noted =>
      (match word.operation with
      | .builtin builtin => builtin.errand
      | .program program => return .perform program : Step Errand) noted |>.bind
        fun errand => .done errand.task := by
  rw [readWord_of_name named, errand, meaning]
  dsimp only
  rw [bind_apply]
  cases checkArity word behind with
  | done | fault | crash | endless => rfl

theorem leads_of_fault {cause : Fault} (faulted : engine.readWord state = .fault cause behind) :
    engine.Leads asks ⟨.read, callers, state⟩ later ↔
      later = ⟨.leave (.error cause), callers, behind⟩ := by
  constructor
  · intro leads
    exact leads.unique (by simp) (.fail faulted)
  · rintro rfl
    exact .fail faulted

theorem leads_of_refused (depth : behind.stack.depth ≤ behind.stack.capacity)
    (named : nextName? state = .done (some name) behind)
    (meaning : engine.dictionary.meaning name = .word word)
    (refused : ¬ word.Admitted behind.stack) :
    engine.Leads asks ⟨.read, callers, state⟩ later ↔
      later = ⟨.leave (.error (word.refusal behind.stack)), callers, behind⟩ := by
  apply leads_of_fault
  rw [readWord_of_word named meaning, checkArity_of_refused depth refused]
  rfl

theorem leads_of_admitted {program : Program}
    (depth : behind.stack.depth ≤ behind.stack.capacity)
    (named : nextName? state = .done (some name) behind)
    (meaning : engine.dictionary.meaning name = .word word)
    (operation : word.operation = .program program) (admitted : word.Admitted behind.stack) :
    engine.Leads asks ⟨.read, callers, state⟩
      ⟨.perform program, callers, behind.note (.invoking name behind.stack)⟩ := by
  have same : word.name = name := by
    have found := Dictionary.find?_of_meaning meaning
    simpa using List.find?_some found
  refine .read ?_
  rw [readWord_of_word named meaning, checkArity_of_admitted depth admitted, operation, same]
  rfl

/-- At every moment there are at most as many cells on the stack as the settings say. A word that is
met has its operation invoked where its inputs are there and its outputs fit in their place.
Elsewhere the frame is left with an underflow if inputs are missing and with an overflow otherwise,
and only reading has got behind the name. The declared numbers can be any, and the programs can push
and pop otherwise than declared. -/
theorem Reaches.arity_exact {moment : Moment} (reaches : engine.Reaches asks moment)
    (whole : moment.task ≠ .crashed) :
    (moment.state.stack.depth ≤ moment.state.stack.capacity ∧
      moment.state.stack.capacity = engine.settings.stackCapacity ∧
      (moment.state.stack.room : Int) =
        moment.state.stack.capacity - moment.state.stack.depth) ∧
    ∀ {callers : List Caller} {state behind : State} {name : Text} {word : Word},
      moment = ⟨.read, callers, state⟩ → nextName? state = .done (some name) behind →
      engine.dictionary.meaning name = .word word →
        (behind.stack = state.stack ∧ behind.quotations = state.quotations ∧
          behind.arena = state.arena ∧ behind.sink = state.sink) ∧
        (∀ reads, engine.obey reads name behind = engine.dispatch reads word behind) ∧
        (engine.Invokes word behind ↔ word.Admitted state.stack) ∧
        (∀ program, word.operation = .program program →
          (engine.Leads asks moment
              ⟨.perform program, callers, behind.note (.invoking name state.stack)⟩ ↔
            word.Admitted state.stack)) ∧
        (¬ word.Admitted state.stack →
          (∀ reads, engine.dispatch reads word behind =
            .fault (word.refusal state.stack) behind) ∧
          ∀ later, engine.Leads asks moment later ↔
            later = ⟨.leave (.error (word.refusal state.stack)), callers, behind⟩) := by
  have depth := reaches.depth_le_capacity whole
  have capacity : moment.state.stack.capacity = engine.settings.stackCapacity := by
    have made := reaches.new_stack whole
    unfold Stack.empty? at made
    split at made
    · exact (congrArg Stack.capacity (Option.some_inj.1 made)).symm
    · cases made
  refine ⟨⟨depth, capacity, Stack.room_eq depth⟩, ?_⟩
  rintro callers state behind name word rfl named meaning
  obtain ⟨_, _, cursor, rfl⟩ := nextName?_some named
  have depth : (state.at cursor).stack.depth ≤ (state.at cursor).stack.capacity := depth
  refine ⟨⟨rfl, rfl, rfl, rfl⟩, fun reads => by rw [obey, meaning], engine.invokes_iff depth,
    fun program operation => ?_, fun refused => ?_⟩
  · constructor
    · intro leads
      by_contra refused
      have left := (leads_of_refused depth named meaning refused).1 leads
      cases left
    · exact leads_of_admitted depth named meaning operation
  · exact ⟨dispatch_of_refused depth refused, fun _ => leads_of_refused depth named meaning refused⟩

theorem Reaches.arity_exact_wide : ∃ callers state behind,
    wide.Reaches (fun _ => True) ⟨.read, callers, state⟩ ∧
    nextName? state = .done (some "wide".toList) behind ∧ state.stack.toList = [7] ∧
    ¬ wide.Invokes .wide behind ∧ behind.stack = state.stack ∧
    wide.Leads (fun _ => True) ⟨.read, callers, state⟩
      ⟨.leave (.error .stackOverflow), callers, behind⟩ := by
  have started : wide.start? .unlimited = some _ := rfl
  have asked : wide.Reaches (fun _ => True) ⟨.ask .host 0 (.run "7 wide".toList), [], _⟩ :=
    .next (.start started) (.request trivial)
  have awaited := asked.next (.await rfl)
  have opened := awaited.next (.enter (by decide) (by decide))
  obtain ⟨callers, state, behind, reaches, named, cells, refused, cause⟩ :
      ∃ callers state behind, wide.Reaches (fun _ => True) ⟨.read, callers, state⟩ ∧
        nextName? state = .done (some "wide".toList) behind ∧ state.stack.toList = [7] ∧
        ¬ Word.wide.Admitted state.stack ∧ Word.wide.refusal state.stack = .stackOverflow :=
    ⟨_, _, _, opened.next (.read rfl), rfl, rfl, by decide, by decide⟩
  obtain ⟨⟨stack, _⟩, _, invokes, _, fails⟩ :=
    (reaches.arity_exact (by simp)).2 rfl named (show _ = Meaning.word .wide from rfl)
  have leaves := ((fails refused).2 _).2 rfl
  rw [cause] at leaves
  exact ⟨callers, state, behind, reaches, named, cells, fun invoked => refused (invokes.1 invoked),
    stack, leaves⟩

end Engine

end Arity

end StackScript

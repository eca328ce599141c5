import StackScript.Proofs.Runs

set_option autoImplicit false

namespace StackScript

variable {α β : Type}

/-- Both are the same, unless the first is a stop at an unknown word. -/
def Outcome.ExtendsTo (old new : Outcome α) : Prop :=
  (∃ name after, old = .fault (.unknownWord name) after) ∨ new = old

def Step.ExtendsTo (old new : Step α) : Prop :=
  ∀ state, (old state).ExtendsTo (new state)

def Engine.extended (engine : Engine) (words : List Word) : Engine :=
  { engine with dictionary := (engine.dictionary.registerAll words).1 }

namespace Outcome.ExtendsTo

variable {old new : Outcome α}

theorem refl (outcome : Outcome α) : outcome.ExtendsTo outcome :=
  .inr rfl

theorem bind {oldNext newNext : α → State → Outcome β} (here : old.ExtendsTo new)
    (next : ∀ value after, (oldNext value after).ExtendsTo (newNext value after)) :
    (old.bind oldNext).ExtendsTo (new.bind newNext) := by
  rcases here with ⟨name, after, rfl⟩ | rfl
  · exact .inl ⟨name, after, rfl⟩
  · cases new with
    | done value after => exact next value after
    | fault | crash | endless => exact refl _

theorem mapReturn (here : old.ExtendsTo new) (change : State → State) :
    (old.mapReturn change).ExtendsTo (new.mapReturn change) := by
  rcases here with ⟨name, after, rfl⟩ | rfl
  · exact .inl ⟨name, change after, rfl⟩
  · exact refl _

end Outcome.ExtendsTo

theorem Step.ExtendsTo.refl (step : Step α) : step.ExtendsTo step :=
  fun state => .refl (step state)

theorem Step.ExtendsTo.bind {old new : Step α} {oldNext newNext : α → Step β}
    (here : old.ExtendsTo new) (next : ∀ value, (oldNext value).ExtendsTo (newNext value)) :
    (old >>= oldNext).ExtendsTo (new >>= newNext) :=
  fun state => (here state).bind next

namespace Dictionary

variable {dictionary extended : Dictionary} {name : Text} {word : Word}

theorem isNumeral_of_isWordName (valid : isWordName name = true) : isNumeral name = false := by
  simp_all [isWordName]

theorem meaning_register (registered : dictionary.register word = .ok extended)
    (known : dictionary.meaning name ≠ .unknown) :
    extended.meaning name = dictionary.meaning name := by
  cases found : dictionary.find? name with
  | some earlier => simp [meaning, found, find?_register registered found]
  | none =>
    have numeral : isNumeral name = true := by simpa [meaning, found] using known
    have absent : extended.find? name = none := by
      unfold register at registered
      split at registered
      · next valid =>
        cases registered
        have other : word.name ≠ name := by
          rintro rfl
          simp [isNumeral_of_isWordName valid] at numeral
        simpa [find?, other] using found
      · cases registered
    simp [meaning, found, absent]

theorem meaning_registerAll (known : dictionary.meaning name ≠ .unknown) (words : List Word) :
    (dictionary.registerAll words).1.meaning name = dictionary.meaning name := by
  induction words generalizing dictionary with
  | nil => rfl
  | cons first rest ih =>
    rw [registerAll]
    cases registered : dictionary.register first with
    | error invalid => exact ih known
    | ok extended =>
      have same := meaning_register registered known
      rw [← same] at known ⊢
      exact ih known

end Dictionary

section Readers

variable {read read' : Span → Step Unit}

theorem Builtin.invoke_extendsTo (reads : ∀ span, (read span).ExtendsTo (read' span))
    (builtin : Builtin) : (builtin.invoke read).ExtendsTo (builtin.invoke read') := by
  cases builtin with
  | call =>
    apply Step.ExtendsTo.bind (.refl _)
    intro callee
    cases callee with
    | some body => exact reads body
    | none => exact .refl _
  | _ => exact .refl _

namespace Engine

variable {engine : Engine}

theorem obey_extendsTo (standard : engine.dictionary = .standard) (words : List Word)
    (reads : ∀ span, (read span).ExtendsTo (read' span)) (name : Text) :
    (engine.obey read name).ExtendsTo ((engine.extended words).obey read' name) := by
  intro state
  cases meaning : engine.dictionary.meaning name with
  | unknown => exact .inl ⟨name, state, by rw [obey, meaning]; rfl⟩
  | number value =>
    have same := Dictionary.meaning_registerAll (by rw [meaning]; nofun) words
    rw [meaning] at same
    rw [obey, obey, meaning, extended, same]
    exact .refl _
  | word word =>
    have same := Dictionary.meaning_registerAll (by rw [meaning]; nofun) words
    rw [meaning] at same
    rw [obey, obey, meaning, extended, same]
    have found := Dictionary.find?_of_meaning meaning
    rw [standard] at found
    obtain ⟨builtin, declared⟩ := Option.isSome_iff_exists.1 (Dictionary.declared?_standard found)
    apply Step.ExtendsTo.bind (.refl _)
    intro _
    rw [(Word.spec_of_declared? declared).1]
    exact builtin.invoke_extendsTo reads

theorem advance_extendsTo (standard : engine.dictionary = .standard) (words : List Word)
    (reads : ∀ span, (read span).ExtendsTo (read' span)) :
    (engine.advance read).ExtendsTo ((engine.extended words).advance read') := by
  apply Step.ExtendsTo.bind (.refl _)
  intro name?
  cases name? with
  | none => exact .refl _
  | some name => exact (obey_extendsTo standard words reads name).bind fun _ => .refl _

theorem sweep_succ (engine : Engine) (read : Span → Step Unit) (again : Step Unit) (count : Nat)
    (state : State) :
    engine.sweep read again (count + 1) state = (engine.advance read state).bind fun more after =>
      if more then
        if after.frame.unread < state.frame.unread then engine.sweep read again count after
        else again after
      else .done () after := by
  rw [sweep]
  rcases engine.advance read state with ⟨_ | _, _⟩ | _ | _ | _ <;> rfl

theorem sweep_extendsTo (standard : engine.dictionary = .standard) (words : List Word)
    (reads : ∀ span, (read span).ExtendsTo (read' span)) {again again' : Step Unit}
    (agains : again.ExtendsTo again') (count : Nat) :
    Step.ExtendsTo (engine.sweep read again count)
      ((engine.extended words).sweep read' again' count) := by
  induction count with
  | zero => exact agains
  | succ count ih =>
    intro state
    rw [sweep_succ, sweep_succ]
    apply (advance_extendsTo standard words reads state).bind
    intro more after
    split
    · split
      · exact ih after
      · exact agains after
    · exact .refl _

theorem scan_extendsTo (standard : engine.dictionary = .standard) (words : List Word)
    (reads : ∀ span, (read span).ExtendsTo (read' span)) (rewinds : Nat) :
    Step.ExtendsTo (engine.scan read rewinds) ((engine.extended words).scan read' rewinds) := by
  induction rewinds with
  | zero => exact .refl _
  | succ rewinds ih => exact fun state => sweep_extendsTo standard words reads ih _ state

theorem readAt_extendsTo (standard : engine.dictionary = .standard) (words : List Word)
    (levels : Nat) (span : Span) :
    (engine.readAt levels span).ExtendsTo ((engine.extended words).readAt levels span) := by
  induction levels generalizing span with
  | zero => exact .refl _
  | succ levels ih =>
    intro state
    rw [readAt, readAt, readFrame, readFrame]
    split
    · exact (scan_extendsTo standard words ih _ _).mapReturn _
    · exact .refl _

end Engine

end Readers

namespace Engine

theorem run_extendsTo {engine : Engine} (standard : engine.dictionary = .standard)
    (words : List Word) (script : Text) :
    (engine.run script).ExtendsTo ((engine.extended words).run script) :=
  .bind (.refl _) fun span => readAt_extendsTo standard words engine.levels span

/-- Registering words is conservative: a run under the built-in words that returns, and not because
of an unknown word, returns the same with the same state when words are registered, whatever they
are called and whatever they do. -/
theorem run_extended {engine : Engine} (standard : engine.dictionary = .standard)
    (words : List Word) {script : Text} {state after : State} {result : Except Fault Unit}
    (returned : engine.run script state = .returned result after)
    (known : Status.of result ≠ .unknownWord) :
    (engine.extended words).run script state = .returned result after := by
  rcases run_extendsTo standard words script state with ⟨name, last, stopped⟩ | same
  · have stop : Outcome.returned result after = .returned (.error (.unknownWord name)) last :=
      returned.symm.trans stopped
    obtain ⟨rfl, _⟩ := returned_inj stop
    exact absurd rfl known
  · exact same.trans returned

theorem run_extended_shadowed : ∃ after,
    (Engine.mk .standard .default).run "[ dup * ] 3 swap do .".toList
      (.resting ⟨[], 9⟩ .empty .empty) = .returned (.ok ()) after ∧
    ((Engine.mk .standard .default).extended [
      { name := "dup".toList, inputs := 0, outputs := 0, operation := .body [] },
      { name := "3".toList, inputs := 0, outputs := 0, operation := .body [.act .reset false] },
      { name := ".".toList, inputs := 1, outputs := 0, operation := .body [.act .pop false] },
      { name := "dup".toList, inputs := 9, outputs := 9, operation := .builtin .halt },
      { name := "square".toList, inputs := 1, outputs := 1, operation := .builtin .drop }]).run
      "[ dup * ] 3 swap do .".toList (.resting ⟨[], 9⟩ .empty .empty) =
      .returned (.ok ()) after ∧
    after.sink.received = Text.toBytes "9\n".toList := by
  have reads : Reads (.mk .standard .default)
      (Arena.empty.append "[ dup * ] 3 swap do .".toList).2 Settings.default.maxNesting
      ((State.resting ⟨[], 9⟩ .empty .empty).entry "[ dup * ] 3 swap do .".toList)
      (some (.ok ())) _ :=
    .go rfl (.go rfl (.go rfl (.enter rfl rfl (.go rfl (.go rfl (.stop rfl)))
      (.go rfl (.stop rfl)))))
  obtain ⟨after, returned, _, _, memory⟩ :=
    run_shows (State.resting_atRest (by decide)) (by decide) reads
  have printed := congrArg (·.sink.received) memory
  exact ⟨after, returned, run_extended rfl _ returned (by decide), printed⟩

end Engine

end StackScript

import StackScript.Proofs.Moments

set_option autoImplicit false

namespace StackScript

open Step

structure Place where
  arena : Arena
  quotations : Quotations
  frame : Frame
  nesting : Nat
  resetPending : Bool

def State.place (state : State) : Place :=
  { arena := state.arena
    quotations := state.quotations
    frame := state.frame
    nesting := state.nesting
    resetPending := state.resetPending }

namespace Place

def rest? (place : Place) : Option Text :=
  place.arena.text.slice? place.frame.cursor place.frame.stop

def moveTo (place : Place) (cursor : Nat) : Place :=
  { place with frame := { place.frame with cursor := cursor } }

def clear (place : Place) : Place :=
  { place with
    arena := .empty
    quotations := .empty
    frame := .idle
    resetPending := false }

def openFrame (place : Place) (span : Span) : Place :=
  { place with frame := .ofSpan span, nesting := place.nesting + 1 }

def capture (place : Place) (body : Span) : Place :=
  { place with quotations := (place.quotations.capture body).2 }

inductive Closes (caller : Frame) : Place → Place → Prop where
  | back {place : Place} (stays : place.nesting - 1 ≠ 0 ∨ place.resetPending = false) :
      Closes caller place { place with frame := caller, nesting := place.nesting - 1 }
  | reset {place : Place} (last : place.nesting - 1 = 0) (waits : place.resetPending = true) :
      Closes caller place { place with nesting := place.nesting - 1 }.clear

structure Moves (position : Nat) (place after : Place) : Prop where
  ordered : place.frame.start ≤ place.frame.stop
  moved : ∃ cursor, Text.boundaryFrom? (min (max position place.frame.start) place.frame.stop)
    place.arena.text = some cursor ∧ after = place.moveTo cursor

end Place

theorem State.place_closeFrame (state : State) (caller : Frame) :
    Place.Closes caller state.place (state.closeFrame caller).place := by
  rw [State.closeFrame]
  dsimp only
  split
  · next clears =>
    exact .reset clears.1 clears.2
  · next stays =>
    refine .back ?_
    rw [not_and_or, Bool.not_eq_true] at stays
    exact stays

def Outcome.Lands {α : Type} (kept : Place → Prop) : Outcome α → Prop
  | .done _ after | .fault _ after | .crash after => kept after.place
  | .endless => False

theorem Outcome.Lands.mono {α : Type} {kept kept' : Place → Prop} {outcome : Outcome α}
    (lands : outcome.Lands kept) (implied : ∀ place, kept place → kept' place) :
    outcome.Lands kept' := by
  cases outcome with
  | done value after | fault cause after | crash after => exact implied _ lands
  | endless => exact lands

theorem Outcome.Lands.bind {α β : Type} {kept kept' : Place → Prop} {outcome : Outcome α}
    {next : α → State → Outcome β} (lands : outcome.Lands kept)
    (implied : ∀ place, kept place → kept' place)
    (onward : ∀ value after, kept after.place → (next value after).Lands kept') :
    (outcome.bind next).Lands kept' := by
  cases outcome with
  | done value after => exact onward value after lands
  | fault cause after | crash after => exact implied _ lands
  | endless => exact lands

def Step.Stays {α : Type} (step : Step α) : Prop :=
  ∀ state, (step state).Lands (· = state.place)

namespace Step.Stays

variable {α β : Type} {step : Step α} {next : α → Step β}

theorem pure (value : α) : (Pure.pure value : Step α).Stays :=
  fun _ => rfl

theorem get : Step.get.Stays :=
  fun _ => rfl

theorem fail (cause : Fault) : (Step.fail cause : Step α).Stays :=
  fun _ => rfl

theorem modify {change : State → State} (same : ∀ state, (change state).place = state.place) :
    (Step.modify change).Stays :=
  same

theorem ofResult (result : Except Fault α) : (Step.ofResult result).Stays := by
  cases result with
  | ok value => exact pure value
  | error cause => exact fail cause

theorem orCrash (value : Option α) : (Step.orCrash value).Stays := by
  cases value with
  | some value => exact pure value
  | none => exact fun _ => rfl

theorem bind (first : step.Stays) (second : ∀ value, (next value).Stays) :
    (step >>= next).Stays := by
  intro state
  rw [bind_apply]
  refine (first state).bind (fun _ => id) fun value after same => ?_
  rw [← same]
  exact second value after

theorem note (event : Event) : (Step.note event).Stays :=
  modify fun _ => rfl

theorem push (cell : Int32) : (Step.push cell).Stays :=
  bind get fun _ => bind (ofResult _) fun _ => modify fun _ => rfl

theorem pop : Step.pop.Stays :=
  bind get fun _ => bind (ofResult _) fun _ => bind (modify fun _ => rfl) fun _ => pure _

theorem peek (below : Nat) : (Step.peek below).Stays :=
  bind get fun _ => ofResult _

theorem write (text : Text) : (Step.write text).Stays := by
  intro state
  rw [write_apply]
  rcases state.sink.write text.toBytes with ⟨_ | _, sink⟩
  · rfl
  · rfl

end Step.Stays

inductive Action.Alters : Action → Place → Place → Prop where
  | nothing {action : Action} {place : Place} : Alters action place place
  | load {script : Text} {place : Place} :
      Alters (.run script) place { place with arena := (place.arena.append script).2 }
  | move {operand : Option Int} {position : Nat} {place after : Place}
      (moves : place.Moves position after) : Alters (.setCursor operand) place after
  | capture {body : Span} {place : Place} : Alters (.capture body) place (place.capture body)
  | forget {place : Place} :
      Alters .clearQuotations place { place with quotations := .empty }
  | clear {place : Place} (shut : place.nesting = 0) : Alters .reset place place.clear
  | postpone {place : Place} (inside : place.nesting ≠ 0) :
      Alters .reset place { place with resetPending := true }

namespace Step

theorem quotation?_apply (handle : Int32) (state : State) :
    quotation? handle state = .done (state.quotations.get? handle) state := rfl

theorem setCursor_cases (position : Nat) (state : State) :
    setCursor position state = .crash state ∨ ∃ after,
      setCursor position state = .done () after ∧ state.place.Moves position after.place := by
  rw [setCursor, bind_apply, get_apply, Outcome.bind_done]
  split
  · next ordered =>
    rw [bind_apply]
    cases found : Text.boundaryFrom? (min (max position state.frame.start) state.frame.stop)
        state.arena.text with
    | none => exact .inl rfl
    | some cursor => exact .inr ⟨_, rfl, ordered, cursor, found, rfl⟩
  · exact .inl rfl

theorem reset_lands (state : State) :
    (reset state).Lands (Action.reset.Alters state.place) := by
  rw [reset, bind_apply, get_apply, Outcome.bind_done]
  split
  · next shut => exact .clear shut
  · next inside => exact .postpone inside

end Step

theorem Engine.prepare_alters (engine : Engine) (accumulator : Int) (action : Action)
    (state : State) :
    (engine.prepare accumulator action state).Lands (action.Alters state.place) := by
  have alone (stays : (engine.prepare accumulator action).Stays) :
      (engine.prepare accumulator action state).Lands (action.Alters state.place) := by
    refine (stays state).mono fun place same => ?_
    rw [same]
    exact .nothing
  -- Most actions leave the place alone.
  cases action with
  | run script => exact .load
  | capture body => exact .capture
  | clearQuotations => exact .forget
  | setCursor position =>
    rw [prepare, bind_apply]
    rcases setCursor_cases (position.getD accumulator).toNat state with
      crashed | ⟨after, done, moves⟩
    · rw [crashed]
      exact .nothing
    · rw [done]
      exact .move moves
  | reset =>
    rw [prepare, bind_apply]
    exact (reset_lands state).bind (fun _ => id) fun _ _ => id
  | runSpan span => exact alone (.pure _)
  | runQuotation handle =>
    refine alone (.bind (.bind .get fun _ => .pure _) fun found => ?_)
    cases found with
    | some body => exact .pure _
    | none => exact .pure _
  | push cell => exact alone ((Stays.push _).bind fun _ => .pure _)
  | pop => exact alone (Stays.pop.bind fun _ => .pure _)
  | peek below => exact alone ((Stays.peek _).bind fun _ => .pure _)
  | depth | stack | source | countQuotations => exact alone (.bind .get fun _ => .pure _)
  | cursor | isHalted => exact alone (.bind (.bind .get fun _ => .pure _) fun _ => .pure _)
  | frameRest | slice span =>
    exact alone (.bind (.bind .get fun _ => .orCrash _) fun _ => .pure _)
  | quotationText handle =>
    refine alone (.bind (.bind .get fun _ => .pure _) fun found => ?_)
    cases found with
    | some body => exact .bind (.bind .get fun _ => .orCrash _) fun _ => .pure _
    | none => exact .pure _
  | quotationSpan handle =>
    refine alone (.bind (.bind .get fun _ => .pure _) fun found => ?_)
    cases found with
    | some body => exact .pure _
    | none => exact .pure _
  | write text => exact alone ((Stays.write text).bind fun _ => .pure _)
  | halt =>
    exact alone (.bind (.modify fun _ => rfl) fun _ => .bind (.bind .get fun _ => .pure _)
      fun _ => .pure _)
  | find name =>
    refine alone ?_
    unfold prepare
    dsimp only
    split
    · exact .pure _
    · exact .pure _
  | settings | add amount => exact alone (.pure _)
  | give result => exact alone ((Stays.ofResult result).bind fun _ => .pure _)

namespace Builtin

theorem binary_stays (operation : Int32 → Int32 → Int32) : (binary operation).Stays :=
  Stays.pop.bind fun _ => Stays.pop.bind fun _ => .push _

theorem nonzeroDivisor_stays : nonzeroDivisor.Stays := by
  refine (Stays.peek 0).bind fun divisor => ?_
  split
  · exact .fail _
  · exact .pure _

theorem invoke_stays {builtin : Builtin} (quote : builtin ≠ .quote) (call : builtin ≠ .call)
    (reads : Span → Step Unit) : (builtin.invoke reads).Stays := by
  cases builtin with
  | add | subtract | multiply => exact binary_stays _
  | divide | remainder => exact nonzeroDivisor_stays.bind fun _ => binary_stays _
  | drop => exact Stays.pop.bind fun _ => .pure _
  | duplicate => exact (Stays.peek 0).bind fun _ => .push _
  | copySecond => exact (Stays.peek 1).bind fun _ => .push _
  | swap =>
    exact Stays.pop.bind fun _ => Stays.pop.bind fun _ => (Stays.push _).bind fun _ => .push _
  | dropSecond => exact Stays.pop.bind fun _ => Stays.pop.bind fun _ => .push _
  | rotate =>
    exact Stays.pop.bind fun _ => Stays.pop.bind fun _ => Stays.pop.bind fun _ =>
      (Stays.push _).bind fun _ => (Stays.push _).bind fun _ => .push _
  | print => exact Stays.pop.bind fun _ => .write _
  | halt => exact .modify fun _ => rfl
  | quote => exact absurd rfl quote
  | call => exact absurd rfl call

theorem callee_stays : callee.Stays := by
  refine Stays.pop.bind fun handle => .bind (.bind .get fun _ => .pure _) fun found => ?_
  cases found with
  | some body => exact (Stays.note _).bind fun _ => .pure _
  | none => exact (Stays.note _).bind fun _ => .pure _

theorem errand_eq {builtin : Builtin} (call : builtin ≠ .call) :
    builtin.errand = do
      builtin.invoke fun _ => return ()
      return .nothing := by
  cases builtin with
  | call => exact absurd rfl call
  | _ => rfl

theorem errand_stays {builtin : Builtin} (quote : builtin ≠ .quote) : builtin.errand.Stays := by
  by_cases call : builtin = .call
  · subst call
    refine callee_stays.bind fun found => ?_
    cases found with
    | some body => exact .pure _
    | none => exact .pure _
  · rw [errand_eq call]
    exact (invoke_stays quote call _).bind fun _ => .pure _

inductive Quotes (rest : Text) : Place → Place → Prop where
  | nothing {place : Place} : Quotes rest place place
  | captured {place after : Place} {body : Text} (closed : bodyOf? rest = some body)
      (moves : place.Moves (place.frame.cursor + body.size + 1) after) :
      Quotes rest place (after.capture ⟨place.frame.cursor, body.size⟩)

theorem captureBody_lands {state : State} {rest : Text} (left : state.frameRest? = some rest) :
    (captureBody state).Lands (Quotes rest state.place) := by
  rw [captureBody, bind_apply, cursor, bind_apply, Step.get_apply, Outcome.bind_done, pure_apply,
    Outcome.bind_done, bind_apply, frameRest, bind_apply, Step.get_apply, Outcome.bind_done, left,
    orCrash_some, Outcome.bind_done]
  cases closed : bodyOf? rest with
  | none => exact .nothing
  | some body =>
    let span : Span := { start := state.frame.cursor, length := body.size }
    dsimp only
    rw [bind_apply]
    rcases setCursor_cases (span.stop + 1) state with crashed | ⟨after, done, moves⟩
    · rw [crashed]
      exact .nothing
    · rw [done, Outcome.bind_done]
      have captured : Quotes rest state.place (after.place.capture span) := .captured closed moves
      have shown (handle : Int32) :
          (do note (.captured handle body); push handle : Step Unit).Stays :=
        (Stays.note _).bind fun _ => .push _
      exact (shown _ _).mono fun _ same => same ▸ captured

theorem quote_lands {state : State} {rest : Text} (left : state.frameRest? = some rest) :
    (quote.errand state).Lands (Quotes rest state.place) :=
  (captureBody_lands left).bind (fun _ => id) fun _ _ captured => captured

end Builtin

/-- What a word that is read does to the place: reading gets behind its name, and quoting captures
what follows. -/
inductive Engine.Obeys (engine : Engine) : Place → Place → Prop where
  | behind {place : Place} {rest : Text} (left : place.rest? = some rest)
      (named : (Token.scan place.frame.cursor rest).name ≠ []) :
      Obeys engine place (place.moveTo (Token.scan place.frame.cursor rest).span.stop)
  | quotes {place after : Place} {rest : Text} {word : Word} (left : place.rest? = some rest)
      (found : engine.dictionary.find? (Token.scan place.frame.cursor rest).name = some word)
      (named : (Token.scan place.frame.cursor rest).name ≠ [])
      (quote : word.operation = .builtin .quote)
      (quotes : Builtin.Quotes rest.afterWord
        (place.moveTo (Token.scan place.frame.cursor rest).span.stop) after) :
      Obeys engine place after

namespace Engine

theorem checkArity_stays (word : Word) : (checkArity word).Stays := by
  intro state
  rw [checkArity_apply]
  split
  · rfl
  · split
    · rfl
    · rfl

theorem errand_stays (engine : Engine) {name : Text}
    (quote : ∀ word, engine.dictionary.find? name = some word →
      word.operation ≠ .builtin .quote) : (engine.errand name).Stays := by
  unfold errand
  split
  · next word meaning =>
    refine (checkArity_stays word).bind fun _ => ?_
    cases operation : word.operation with
    | builtin builtin =>
      have found := Dictionary.find?_of_meaning meaning
      exact Builtin.errand_stays fun same => quote word found (same ▸ operation)
    | program program => exact .pure _
  · exact (Stays.note _).bind fun _ => (Stays.push _).bind fun _ => .pure _
  · exact .fail _

theorem errand_lands (engine : Engine) {name rest : Text} {word : Word} {state : State}
    (found : engine.dictionary.find? name = some word) (quote : word.operation = .builtin .quote)
    (left : state.frameRest? = some rest) :
    (engine.errand name state).Lands (Builtin.Quotes rest state.place) := by
  have meaning : engine.dictionary.meaning name = .word word := by
    rw [Dictionary.meaning, found]
  unfold errand
  rw [meaning]
  dsimp only
  rw [quote, bind_apply, checkArity_apply]
  split
  · exact .nothing
  · split
    · exact .nothing
    · let invoked := state.note (.invoking word.name state.stack)
      have noted : invoked.frameRest? = some rest := left
      exact Builtin.quote_lands noted

theorem nextName?_cases (engine : Engine) (state : State) :
    nextName? state = .crash state ∨
    (∃ cursor, nextName? state = .done none (state.at cursor)) ∨
    ∃ name behind, nextName? state = .done (some name) behind ∧
      (engine.errand name behind).Lands (engine.Obeys state.place) := by
  rw [nextName?_apply]
  split
  · exact .inr (.inl ⟨state.frame.cursor, rfl⟩)
  · cases left : state.frameRest? with
    | none => exact .inl rfl
    | some rest =>
      dsimp only
      split
      · exact .inr (.inl ⟨state.frame.stop, rfl⟩)
      · next named =>
        have named : (Token.scan state.frame.cursor rest).name ≠ [] := by
          simpa [Token.isEmpty] using named
        let token := Token.scan state.frame.cursor rest
        let behind := state.at token.span.stop
        refine .inr (.inr ⟨token.name, behind, rfl, ?_⟩)
        by_cases quote : ∃ word, engine.dictionary.find? token.name = some word ∧
            word.operation = .builtin .quote
        · obtain ⟨word, found, quote⟩ := quote
          have after : behind.frameRest? = some rest.afterWord := by
            rw [Token.scan_split state.frame.cursor rest] at left
            have cut := Text.slice?_behind left
            rwa [← Token.scan_stop] at cut
          exact (engine.errand_lands found quote after).mono fun _ quotes =>
            .quotes left found named quote quotes
        · have stays : (engine.errand token.name).Stays :=
            engine.errand_stays fun word found same => quote ⟨word, found, same⟩
          refine (stays behind).mono fun place same => ?_
          rw [same]
          exact .behind left named

theorem readWord_cases (engine : Engine) (state : State) :
    engine.readWord state = .crash state ∨
    (∃ cursor, engine.readWord state = .done (.leave (.ok ())) (state.at cursor)) ∨
    ∃ name behind, (engine.errand name behind).Lands (engine.Obeys state.place) ∧
      engine.readWord state = (engine.errand name behind).bind fun errand => .done errand.task := by
  rcases engine.nextName?_cases state with crashed | ⟨cursor, none⟩ | ⟨name, behind, found, lands⟩
  · refine .inl ?_
    rw [readWord, bind_apply, crashed]
    rfl
  · refine .inr (.inl ⟨cursor, ?_⟩)
    rw [readWord, bind_apply, none]
    rfl
  · exact .inr (.inr ⟨name, behind, lands, engine.readWord_of_name found⟩)

end Engine

@[simp] theorem Asker.place_hear (asker : Asker) (action : Action)
    (result : Except Fault (Answer × Int)) (callers : List Caller) (state : State) :
    (asker.hear action result callers state).state.place = state.place := by
  cases asker <;> rfl

@[simp] theorem Waiting.place_resume (waiting : Waiting) (result : Except Fault Unit)
    (callers : List Caller) (state : State) :
    (waiting.resume result callers state).state.place = state.place := by
  cases waiting with
  | reader => rfl
  | request asker action answer => exact asker.place_hear action _ callers state

inductive Engine.Shifts (engine : Engine) : Moment → Place → Prop where
  | nothing {moment : Moment} : Shifts engine moment moment.state.place
  | alters {asker : Asker} {accumulator : Int} {action : Action} {callers : List Caller}
      {state : State} {after : Place} (alters : action.Alters state.place after) :
      Shifts engine ⟨.ask asker accumulator action, callers, state⟩ after
  | finds {callers : List Caller} {state : State} {cursor : Nat} :
      Shifts engine ⟨.read, callers, state⟩ (state.place.moveTo cursor)
  | obeys {callers : List Caller} {state : State} {after : Place}
      (obeys : engine.Obeys state.place after) : Shifts engine ⟨.read, callers, state⟩ after
  | opens {span : Span} {waiting : Waiting} {callers : List Caller} {state : State} :
      Shifts engine ⟨.enter span waiting, callers, state⟩ (state.place.openFrame span)
  | closes {result : Except Fault Unit} {caller : Caller} {callers : List Caller} {state : State}
      {after : Place} (closes : Place.Closes caller.frame state.place after) :
      Shifts engine ⟨.leave result, caller :: callers, state⟩ after

namespace Engine

variable {engine : Engine} {asks : Action → Prop} {moment later : Moment}

theorem prepare_shifts {accumulator : Int} {action : Action} {state : State}
    {outcome : Outcome (Due (Answer × Int))}
    (prepared : engine.prepare accumulator action state = outcome) (asker : Asker)
    (callers : List Caller) :
    outcome.Lands (engine.Shifts ⟨.ask asker accumulator action, callers, state⟩) := by
  subst prepared
  exact (engine.prepare_alters accumulator action state).mono fun _ alters => .alters alters

theorem readWord_shifts {state : State} {outcome : Outcome Task}
    (word : engine.readWord state = outcome) (callers : List Caller) :
    outcome.Lands (engine.Shifts ⟨.read, callers, state⟩) := by
  subst word
  rcases engine.readWord_cases state with crashed | ⟨cursor, left⟩ | ⟨name, behind, lands, found⟩
  · rw [crashed]
    exact .nothing
  · rw [left]
    exact .finds
  · rw [found]
    exact (lands.mono fun _ obeys => .obeys obeys).bind (fun _ => id) fun _ _ shifts => shifts

theorem Leads.shifts (leads : engine.Leads asks moment later) :
    engine.Shifts moment later.state.place := by
  cases leads with
  | answer prepared | refuse prepared =>
    rw [Asker.place_hear]
    exact prepare_shifts prepared _ _
  | await prepared | breakAction prepared => exact prepare_shifts prepared _ _
  | read word | fail word | breakWord word => exact readWord_shifts word _
  | tooDeep =>
    rw [Waiting.place_resume]
    exact .nothing
  | enter => exact .opens
  | leave =>
    rw [Waiting.place_resume]
    exact .closes (State.place_closeFrame _ _)
  | request | ask | finish | breakSpan => exact .nothing

end Engine

end StackScript

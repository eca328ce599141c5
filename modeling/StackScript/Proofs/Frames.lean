import StackScript.Proofs.Places

set_option autoImplicit false

namespace StackScript

open Relation Step

structure Frame.Fits (frame : Frame) (text : Text) : Prop where
  start_le : frame.start ≤ frame.cursor
  cursor_le : frame.cursor ≤ frame.stop
  stop_le : frame.stop ≤ text.size
  start : text.isBoundary frame.start = true
  cursor : text.isBoundary frame.cursor = true
  stop : text.isBoundary frame.stop = true

def Asker.Framed (callers : List Caller) : Asker → Prop
  | host => True
  | word _ => callers ≠ []

def Waiting.Framed (callers : List Caller) : Waiting → Prop
  | reader => callers ≠ []
  | request asker _ _ => asker.Framed callers

def Caller.AllFit (text : Text) : List Caller → Prop
  | [] => True
  | caller :: callers =>
    caller.frame.Fits text ∧ caller.waiting.Framed callers ∧
      (callers = [] → caller.frame = .idle) ∧ AllFit text callers

/-- The place is one in a frame that was opened over these callers. Under none it is the place of
the host. -/
structure Place.Above (callers : List Caller) (place : Place) : Prop where
  nesting : place.nesting = callers.length
  idle : callers = [] → place.frame = .idle ∧ place.resetPending = false
  callers : Caller.AllFit place.arena.text callers

def Task.Ready (callers : List Caller) (place : Place) : Task → Prop
  | rest _ | leave _ | crashed => True
  | ask asker _ _ => asker.Framed callers ∧ place.frame.Fits place.arena.text
  | perform _ => callers ≠ [] ∧ place.frame.Fits place.arena.text
  | enter _ waiting => waiting.Framed callers ∧ place.frame.Fits place.arena.text
  -- A frame that was just opened can be any.
  | read => callers ≠ [] ∧
    (place.frame.start = place.frame.cursor ∨ place.frame.Fits place.arena.text)

structure Moment.Sound (engine : Engine) (moment : Moment) : Prop where
  above : moment.state.place.Above moment.callers
  levels : moment.callers.length ≤ engine.levels
  ready : moment.task.Ready moment.callers moment.state.place

namespace Frame.Fits

variable {frame : Frame} {text more : Text} {place after : Place} {position : Nat}

theorem idle (text : Text) : Frame.idle.Fits text where
  start_le := Nat.le_refl 0
  cursor_le := Nat.le_refl 0
  stop_le := Nat.zero_le _
  start := Text.isBoundary_zero text
  cursor := Text.isBoundary_zero text
  stop := Text.isBoundary_zero text

theorem append (fits : frame.Fits text) : frame.Fits (text ++ more) where
  start_le := fits.start_le
  cursor_le := fits.cursor_le
  stop_le := Text.le_size_of_isBoundary (Text.isBoundary_append fits.stop)
  start := Text.isBoundary_append fits.start
  cursor := Text.isBoundary_append fits.cursor
  stop := Text.isBoundary_append fits.stop

theorem moveTo (cut : text.slice? frame.cursor frame.stop = some more)
    (start : frame.start ≤ frame.cursor) (starts : text.isBoundary frame.start = true)
    {front back : Text} (split : more = front ++ back) :
    ({ frame with cursor := frame.cursor + Text.size front } : Frame).Fits text := by
  rw [split] at cut
  have behind := Text.slice?_behind cut
  have bounds := Text.isBoundary_of_slice? behind
  have stop := Text.stop_of_slice? behind
  exact ⟨by dsimp only; omega, by dsimp only; omega, Text.le_size_of_isBoundary bounds.2, starts,
    bounds.1, bounds.2⟩

theorem least (fits : frame.Fits text) (position : Nat) :
    ∃ cursor, Text.boundaryFrom? (min (max position frame.start) frame.stop) text = some cursor ∧
      IsLeast { boundary | text.isBoundary boundary = true ∧
        min (max position frame.start) frame.stop ≤ boundary } cursor ∧ cursor ≤ frame.stop := by
  have stop := fits.stop_le
  obtain ⟨cursor, found⟩ := Text.exists_boundaryFrom?
    (show min (max position frame.start) frame.stop ≤ text.size by omega)
  have least := Text.isLeast_of_boundaryFrom? found
  exact ⟨cursor, found, least, least.2 ⟨fits.stop, Nat.min_le_right _ _⟩⟩

theorem moves (fits : place.frame.Fits place.arena.text) (moves : place.Moves position after) :
    after.frame.Fits after.arena.text := by
  obtain ⟨cursor, found, rfl⟩ := moves.moved
  obtain ⟨other, same, ⟨⟨bounds, lower⟩, _⟩, upper⟩ := fits.least position
  obtain rfl : cursor = other := Option.some_inj.1 (found.symm.trans same)
  have start := fits.start_le
  have stop := fits.cursor_le
  exact ⟨by dsimp only [Place.moveTo]; omega, upper, fits.stop_le, fits.start, bounds, fits.stop⟩

theorem frameRest_done {state : State} (fits : state.frame.Fits state.arena.text) :
    ∃ rest, Step.frameRest state = .done rest state := by
  obtain ⟨rest, left⟩ := Text.exists_slice? fits.cursor fits.stop fits.cursor_le
  have left : state.frameRest? = some rest := left
  refine ⟨rest, ?_⟩
  rw [frameRest, bind_apply, get_apply, Outcome.bind_done, left]
  rfl

theorem setCursor_done {state : State} (fits : state.frame.Fits state.arena.text)
    (position : Nat) :
    ∃ cursor, Step.setCursor position state = .done () (state.at cursor) ∧
      IsLeast { boundary | state.arena.text.isBoundary boundary = true ∧
        min (max position state.frame.start) state.frame.stop ≤ boundary } cursor ∧
      cursor ≤ state.frame.stop := by
  obtain ⟨cursor, found, least⟩ := fits.least position
  have ordered := Nat.le_trans fits.start_le fits.cursor_le
  refine ⟨cursor, ?_, least⟩
  rw [setCursor, bind_apply, get_apply, Outcome.bind_done, if_pos ordered, bind_apply, found]
  rfl

end Frame.Fits

theorem Caller.AllFit.append {callers : List Caller} {text : Text}
    (fit : Caller.AllFit text callers) (more : Text) : Caller.AllFit (text ++ more) callers := by
  induction callers with
  | nil => trivial
  | cons caller callers ih =>
    obtain ⟨fits, framed, idle, fit⟩ := fit
    exact ⟨fits.append, framed, idle, ih fit⟩

namespace Place.Above

variable {callers : List Caller} {caller : Caller} {place after : Place} {position : Nat}

theorem shut_iff (above : place.Above callers) : place.nesting = 0 ↔ callers = [] := by
  rw [above.nesting, List.length_eq_zero_iff]

theorem host (above : place.Above []) : place.frame.Fits place.arena.text := by
  rw [(above.idle rfl).1]
  exact .idle _

theorem moves (above : place.Above callers) (moves : place.Moves position after) :
    after.Above callers := by
  obtain ⟨cursor, found, rfl⟩ := moves.moved
  refine ⟨above.nesting, fun none => ⟨?_, (above.idle none).2⟩, above.callers⟩
  have idle := (above.idle none).1
  -- The only boundary from 0 to 0 is 0.
  have start : min (max position place.frame.start) place.frame.stop = 0 := by
    rw [idle]
    exact Nat.min_eq_right (Nat.zero_le _)
  rw [start, Text.boundaryFrom?] at found
  cases found
  rw [moveTo, idle]
  rfl

theorem alters {action : Action} (above : place.Above callers)
    (fits : place.frame.Fits place.arena.text) (alters : action.Alters place after) :
    after.Above callers ∧ after.frame.Fits after.arena.text := by
  cases alters with
  | nothing => exact ⟨above, fits⟩
  | load =>
    rw [Arena.append]
    dsimp only
    rw [List.append_assoc]
    exact ⟨⟨above.nesting, above.idle, above.callers.append _⟩, fits.append⟩
  | move moves => exact ⟨above.moves moves, fits.moves moves⟩
  | capture | forget => exact ⟨⟨above.nesting, above.idle, above.callers⟩, fits⟩
  | clear shut =>
    obtain rfl := above.shut_iff.1 shut
    exact ⟨⟨shut, fun _ => ⟨rfl, rfl⟩, trivial⟩, .idle _⟩
  | postpone inside =>
    refine ⟨⟨above.nesting, fun none => ?_, above.callers⟩, fits⟩
    subst none
    exact absurd above.nesting inside

theorem obeys {engine : Engine} (above : place.Above callers) (framed : callers ≠ [])
    (read : place.frame.start = place.frame.cursor ∨ place.frame.Fits place.arena.text)
    (obeys : engine.Obeys place after) :
    after.Above callers ∧ after.frame.Fits after.arena.text := by
  have found {rest : Text} (left : place.rest? = some rest) :
      (place.moveTo (Token.scan place.frame.cursor rest).span.stop).Above callers ∧
        (place.moveTo (Token.scan place.frame.cursor rest).span.stop).frame.Fits
          place.arena.text := by
    refine ⟨⟨above.nesting, fun none => absurd none framed, above.callers⟩, ?_⟩
    rw [Token.scan_stop]
    have split := Token.scan_split place.frame.cursor rest
    rcases read with opened | fits
    · have starts := (Text.isBoundary_of_slice? left).1
      exact .moveTo left (Nat.le_of_eq opened) (opened ▸ starts) split
    · exact .moveTo left fits.start_le fits.start split
  cases obeys with
  | behind left => exact found left
  | quotes left _ _ _ quotes =>
    obtain ⟨above, fits⟩ := found left
    cases quotes with
    | nothing => exact ⟨above, fits⟩
    | captured _ moves =>
      have above := above.moves moves
      have fits := fits.moves moves
      exact ⟨⟨above.nesting, above.idle, above.callers⟩, fits⟩

theorem openFrame {waiting : Waiting} (above : place.Above callers)
    (framed : waiting.Framed callers) (fits : place.frame.Fits place.arena.text) (span : Span) :
    (place.openFrame span).Above (⟨place.frame, waiting⟩ :: callers) where
  nesting := congrArg (· + 1) above.nesting
  idle := nofun
  callers := ⟨fits, framed, fun none => (above.idle none).1, above.callers⟩

theorem closes (above : place.Above (caller :: callers))
    (closes : Closes caller.frame place after) :
    after.Above callers ∧ after.frame.Fits after.arena.text := by
  obtain ⟨fits, _, idle, fit⟩ := above.callers
  have nesting : place.nesting - 1 = callers.length := by
    rw [above.nesting]
    rfl
  cases closes with
  | back stays =>
    refine ⟨⟨nesting, fun none => ⟨idle none, ?_⟩, fit⟩, fits⟩
    subst none
    exact stays.resolve_left (not_not.2 nesting)
  | reset last =>
    have none : callers = [] := List.length_eq_zero_iff.1 (nesting.symm.trans last)
    subst none
    exact ⟨⟨nesting, fun _ => ⟨rfl, rfl⟩, trivial⟩, .idle _⟩

end Place.Above

namespace Outcome

variable {α β : Type} {outcome : Outcome α} {after : State}

theorem eq_of_mapReturn {change : State → State} {result : Except Fault α}
    (returned : outcome.mapReturn change = .returned result after) :
    ∃ last, outcome = .returned result last ∧ after = change last := by
  cases outcome with
  | done value last | fault cause last =>
    cases result <;> cases returned
    exact ⟨last, rfl, rfl⟩
  | crash last | endless => cases result <;> cases returned

theorem eq_of_bind_done {value : β} {result : Except Fault β}
    (returned : (outcome.bind fun _ after => .done value after) = .returned result after) :
    ∃ result, outcome = .returned result after := by
  cases outcome with
  | done value last =>
    cases result <;> cases returned
    exact ⟨.ok value, rfl⟩
  | fault cause last =>
    cases result <;> cases returned
    exact ⟨.error cause, rfl⟩
  | crash last | endless => cases result <;> cases returned

def returns : Outcome α → Bool
  | done _ _ | fault _ _ => true
  | crash _ | endless => false

theorem exists_of_returns (returns : outcome.returns = true) :
    ∃ result after, outcome = .returned result after := by
  cases outcome with
  | done value after => exact ⟨.ok value, after, rfl⟩
  | fault cause after => exact ⟨.error cause, after, rfl⟩
  | crash after | endless => cases returns

end Outcome

def Word.detour : Word where
  name := "detour".toList
  inputs := 0
  outputs := 0
  operation := .program (.ask 0 (.run "7".toList) fun _ => .finish (.ok ()))

section Soundness

variable {engine : Engine} {asks : Action → Prop} {callers : List Caller} {state : State}
  {moment later : Moment}

theorem Asker.Framed.hear_sound {asker : Asker} (framed : asker.Framed callers)
    (above : state.place.Above callers) (fits : state.frame.Fits state.arena.text)
    (levels : callers.length ≤ engine.levels) (action : Action)
    (result : Except Fault (Answer × Int)) :
    (asker.hear action result callers state).Sound engine := by
  cases asker with
  | host => exact ⟨above, levels, trivial⟩
  | word next => exact ⟨above, levels, framed, fits⟩

theorem Waiting.Framed.resume_sound {waiting : Waiting} (framed : waiting.Framed callers)
    (above : state.place.Above callers) (fits : state.frame.Fits state.arena.text)
    (levels : callers.length ≤ engine.levels) (result : Except Fault Unit) :
    (waiting.resume result callers state).Sound engine := by
  cases waiting with
  | reader =>
    cases result with
    | ok => exact ⟨above, levels, framed, .inr fits⟩
    | error cause => exact ⟨above, levels, trivial⟩
  | request asker action answer => exact framed.hear_sound above fits levels action _

namespace Engine

theorem prepare_sound {accumulator : Int} {action : Action} {outcome : Outcome (Due (Answer × Int))}
    (above : state.place.Above callers) (fits : state.frame.Fits state.arena.text)
    (prepared : engine.prepare accumulator action state = outcome) :
    outcome.Lands fun place => place.Above callers ∧ place.frame.Fits place.arena.text := by
  subst prepared
  exact (engine.prepare_alters accumulator action state).mono fun _ alters =>
    above.alters fits alters

theorem readWord_sound {outcome : Outcome Task} (above : state.place.Above callers)
    (ready : Task.read.Ready callers state.place) (word : engine.readWord state = outcome) :
    outcome.Lands (Place.Above callers) ∧
      ∀ {task : Task} {after : State}, outcome = .done task after →
        task.Ready callers after.place := by
  subst word
  obtain ⟨framed, read⟩ := ready
  rcases engine.readWord_cases state with crashed | ⟨cursor, left⟩ | ⟨name, behind, lands, found⟩
  · rw [crashed]
    exact ⟨above, nofun⟩
  · rw [left]
    refine ⟨⟨above.nesting, fun none => absurd none framed, above.callers⟩, fun done => ?_⟩
    cases done
    trivial
  · have lands := lands.mono fun _ obeys => above.obeys framed read obeys
    rw [found]
    refine ⟨lands.bind (fun _ => And.left) fun _ _ => And.left, fun done => ?_⟩
    generalize engine.errand name behind = outcome at lands done
    cases outcome with
    | done errand after =>
      cases done
      cases errand with
      | nothing => exact ⟨framed, .inr lands.2⟩
      | read span => exact ⟨framed, lands.2⟩
      | perform program => exact ⟨framed, lands.2⟩
    | fault | crash | endless => cases done

theorem Leads.sound (leads : engine.Leads asks moment later) (sound : moment.Sound engine) :
    later.Sound engine := by
  obtain ⟨above, levels, ready⟩ := sound
  -- One case for each way that moments lead on. Frames that fit are kept by what words do to the
  -- place.
  cases leads with
  | request => exact ⟨above, levels, trivial, above.host⟩
  | answer prepared | refuse prepared =>
    obtain ⟨above, fits⟩ := prepare_sound above ready.2 prepared
    exact ready.1.hear_sound above fits levels _ _
  | await prepared =>
    obtain ⟨above, fits⟩ := prepare_sound above ready.2 prepared
    exact ⟨above, levels, ready.1, fits⟩
  | breakAction prepared =>
    obtain ⟨above, _⟩ := prepare_sound above ready.2 prepared
    exact ⟨above, levels, trivial⟩
  | ask => exact ⟨above, levels, ready⟩
  | finish =>
    have framed : Waiting.reader.Framed _ := ready.1
    exact framed.resume_sound above ready.2 levels _
  | read word =>
    obtain ⟨above, ready⟩ := readWord_sound above ready word
    exact ⟨above, levels, ready rfl⟩
  | fail word | breakWord word =>
    obtain ⟨above, _⟩ := readWord_sound above ready word
    exact ⟨above, levels, trivial⟩
  | tooDeep => exact ready.1.resume_sound above ready.2 levels _
  | enter shallow =>
    refine ⟨above.openFrame ready.1 ready.2 _, ?_, nofun, .inl rfl⟩
    exact Nat.succ_le_succ shallow
  | breakSpan => exact ⟨above, levels, trivial⟩
  | leave =>
    obtain ⟨_, framed, _⟩ := above.callers
    obtain ⟨above, fits⟩ := above.closes (State.place_closeFrame _ _)
    exact framed.resume_sound above fits (Nat.le_of_succ_le levels) _

theorem Reaches.sound (reaches : engine.Reaches asks moment) : moment.Sound engine := by
  induction reaches with
  | start started =>
    obtain ⟨stack, _, rfl⟩ := Option.map_eq_some_iff.1 started
    exact ⟨⟨rfl, fun _ => ⟨rfl, rfl⟩, trivial⟩, Nat.zero_le _, trivial⟩
  | next _ leads ih => exact leads.sound ih

def readOver (engine : Engine) (callers : List Caller) : Span → Step Unit :=
  engine.readAt (engine.levels - callers.length)

/-- Whenever an action is asked for, by the host or by a word at any depth, the frame fits the
arena. So what is left of it can be read, and the cursor can be set: it comes to the least boundary
from the position on that is asked for, which is no farther than the end of the frame. -/
theorem Reaches.frame_usable {asker : Asker} {accumulator : Int} {action : Action}
    (reaches : engine.Reaches asks ⟨.ask asker accumulator action, callers, state⟩) :
    state.frame.Fits state.arena.text ∧ (∃ rest, Step.frameRest state = .done rest state) ∧
      ∀ position, ∃ cursor, Step.setCursor position state = .done () (state.at cursor) ∧
        IsLeast { boundary | state.arena.text.isBoundary boundary = true ∧
          min (max position state.frame.start) state.frame.stop ≤ boundary } cursor ∧
        cursor ≤ state.frame.stop := by
  have fits := reaches.sound.ready.2
  exact ⟨fits, fits.frameRest_done, fits.setCursor_done⟩

def detour : Engine where
  dictionary := (Dictionary.standard.registerAll [.detour]).1
  settings := .default

theorem detour_asks : ∃ next callers state,
    detour.Reaches (fun _ => True) ⟨.ask (.word next) 0 (.run "7".toList), callers, state⟩ ∧
    (state.frame = ⟨0, 6, 9⟩ ∧ state.nesting = 1) ∧
    (detour.answer (detour.readOver callers) 0 (.run "7".toList) state).returns = true := by
  have started : detour.start? .unlimited = some _ := rfl
  have asked : detour.Reaches (fun _ => True)
      ⟨.ask .host 0 (.run "detour é".toList), [], _⟩ := .next (.start started) (.request trivial)
  have awaited := asked.next (.await rfl)
  have opened := awaited.next (.enter (by decide) (by decide))
  have found := opened.next (.read rfl)
  have reaches := found.next .ask
  exact ⟨_, _, _, reaches, ⟨rfl, rfl⟩, by decide +kernel⟩

theorem Reaches.frame_usable_detour : ∃ next callers state,
    detour.Reaches (fun _ => True) ⟨.ask (.word next) 0 (.run "7".toList), callers, state⟩ ∧
    state.frame = ⟨0, 6, 9⟩ ∧ state.frame.Fits state.arena.text ∧
    (∃ rest, Step.frameRest state = .done rest state) ∧
    ∀ position, ∃ cursor, Step.setCursor position state = .done () (state.at cursor) ∧
      IsLeast { boundary | state.arena.text.isBoundary boundary = true ∧
        min (max position state.frame.start) state.frame.stop ≤ boundary } cursor ∧
      cursor ≤ state.frame.stop := by
  obtain ⟨next, callers, state, reaches, ⟨frame, _⟩, _⟩ := detour_asks
  exact ⟨next, callers, state, reaches, frame, reaches.frame_usable⟩

theorem Passes.sound (passes : engine.Passes asks moment later) (sound : moment.Sound engine) :
    later.Sound engine := by
  induction passes with
  | refl => exact sound
  | tail _ leads ih => exact leads.sound ih

theorem answer_above {accumulator : Int} {action : Action} {after : State}
    {result : Except Fault (Answer × Int)} (above : state.place.Above callers)
    (levels : callers.length ≤ engine.levels) (fits : state.frame.Fits state.arena.text)
    (answered : engine.answer (engine.readOver callers) accumulator action state =
      .returned result after) : after.place.Above callers := by
  have opens : engine.Opens (fun _ => True) callers (engine.readOver callers) :=
    readAt_ends (Nat.add_sub_of_le levels)
  have ends := engine.answer_ends opens .host accumulator action state
  have sound : Moment.Sound engine ⟨.ask .host accumulator action, callers, state⟩ :=
    ⟨above, levels, trivial, fits⟩
  rw [answered] at ends
  cases result with
  | ok answer => exact (Passes.sound ends sound).above
  | error cause => exact (Passes.sound ends sound).above

theorem closeFrame_frame (state : State) (caller : Frame) :
    (state.closeFrame caller).frame = caller ∨
      (state.closeFrame caller).nesting = 0 ∧ (state.closeFrame caller).frame = .idle := by
  rw [State.closeFrame]
  dsimp only
  split
  · next clears => exact .inr ⟨clears.1, rfl⟩
  · exact .inl rfl

theorem readAt_frame {levels : Nat} {span : Span} {result : Except Fault Unit} {after : State}
    (returned : engine.readAt levels span state = .returned result after) :
    after.frame = state.frame ∨ after.nesting = 0 ∧ after.frame = .idle := by
  cases levels with
  | zero =>
    cases result with
    | ok => cases returned
    | error cause =>
      cases returned
      exact .inl rfl
  | succ levels =>
    rw [readAt, readFrame] at returned
    split at returned
    · obtain ⟨last, _, rfl⟩ := Outcome.eq_of_mapReturn returned
      exact closeFrame_frame last state.frame
    · cases result <;> cases returned

end Engine

def Action.reads : Action → Bool
  | run _ | runSpan _ | runQuotation _ => true
  | _ => false

namespace Engine

theorem answer_of_reads {reads : Span → Step Unit} {accumulator : Int} {action : Action}
    (reading : action.reads = true) :
    (∃ answer, engine.answer reads accumulator action state = .done answer state) ∨
      ∃ span before answer, before.frame = state.frame ∧
        engine.answer reads accumulator action state =
          (reads span before).bind fun _ after => .done answer after := by
  cases action with
  | run script =>
    refine .inr ⟨_, _, _, ?_, rfl⟩
    rfl
  | runSpan span => exact .inr ⟨_, _, _, rfl, rfl⟩
  | runQuotation handle =>
    rw [answer, bind_apply, prepare, bind_apply, quotation?_apply, Outcome.bind_done]
    cases state.quotations.get? (Int32.ofInt (handle.getD accumulator)) with
    | some body => exact .inr ⟨body, state, (.flag true, accumulator), rfl, rfl⟩
    | none => exact .inl ⟨(.flag false, accumulator), rfl⟩
  | _ => cases reading

/-- However a call that reads a span returns, to the host or to a word at any depth, the frame and
the nesting are what they were. So between the turns of a session no frame is open, and no reset
waits. -/
theorem reading_restores_frame (engine : Engine) (asks : Action → Prop) :
    (∀ {asker : Asker} {accumulator : Int} {action : Action} {callers : List Caller}
      {state after : State} {result : Except Fault (Answer × Int)},
      engine.Reaches asks ⟨.ask asker accumulator action, callers, state⟩ → action.reads = true →
      engine.answer (engine.readOver callers) accumulator action state = .returned result after →
        after.frame = state.frame ∧ after.nesting = state.nesting) ∧
    ∀ {state : State}, engine.Between asks state →
      state.nesting = 0 ∧ state.frame = .idle ∧ state.resetPending = false := by
  constructor
  · intro asker accumulator action callers state after result reaches reading answered
    obtain ⟨above, levels, ready⟩ := reaches.sound
    have nesting : after.nesting = state.nesting :=
      (answer_above above levels ready.2 answered).nesting.trans above.nesting.symm
    refine ⟨?_, nesting⟩
    have closed : after.frame = state.frame ∨ after.nesting = 0 ∧ after.frame = .idle := by
      rcases answer_of_reads reading with ⟨answer, done⟩ | ⟨span, before, answer, same, settled⟩
      · rw [done] at answered
        cases result <;> cases answered
        exact .inl rfl
      · rw [settled] at answered
        obtain ⟨read, returned⟩ := Outcome.eq_of_bind_done answered
        rw [← same]
        exact readAt_frame returned
    rcases closed with same | ⟨last, cleared⟩
    · exact same
    · have none : callers = [] :=
        List.length_eq_zero_iff.1 (above.nesting.symm.trans (nesting.symm.trans last))
      exact cleared.trans (above.idle none).1.symm
  · intro state between
    obtain ⟨answer, reaches⟩ := between.reaches
    have above := reaches.sound.above
    exact ⟨above.nesting, above.idle rfl⟩

theorem reading_restores_frame_detour : ∃ next callers state result after last,
    detour.Reaches (fun _ => True) ⟨.ask (.word next) 0 (.run "7".toList), callers, state⟩ ∧
    detour.answer (detour.readOver callers) 0 (.run "7".toList) state = .returned result after ∧
    (state.frame = ⟨0, 6, 9⟩ ∧ state.nesting = 1) ∧
    (after.frame = state.frame ∧ after.nesting = state.nesting) ∧
    (detour.Between (fun _ => True) last ∧ last.stack.toList = [7]) ∧
    last.nesting = 0 ∧ last.frame = .idle ∧ last.resetPending = false := by
  obtain ⟨next, callers, state, reaches, place, returns⟩ := detour_asks
  obtain ⟨result, after, answered⟩ := Outcome.exists_of_returns returns
  have started : detour.start? .unlimited = some _ := rfl
  have between := @Between.turn detour (fun _ => True) (.run "7".toList) (.ok .nothing) _ _
    (.start started) trivial rfl
  obtain ⟨restores, rests⟩ := reading_restores_frame detour fun _ => True
  exact ⟨next, callers, state, result, after, _, reaches, answered, place,
    restores reaches rfl answered, ⟨between, rfl⟩, rests between⟩

end Engine

end Soundness

end StackScript

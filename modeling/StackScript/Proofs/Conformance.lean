import StackScript.Proofs.Reading

set_option autoImplicit false

namespace StackScript

open Step

def Outcome.returned {α : Type} : Except Fault α → State → Outcome α
  | .ok value, state => .done value state
  | .error cause, state => .fault cause state

@[simp] theorem Outcome.mapReturn_returned {α : Type} (change : State → State)
    (result : Except Fault α) (state : State) :
    (Outcome.returned result state).mapReturn change = .returned result (change state) := by
  cases result <;> rfl

structure State.StandsAt (state : State) (point : Point) : Prop where
  cursor : state.frame.cursor = point.offset
  rest : state.frameRest? = some point.rest
  memory : state.memory = point.memory
  start : state.frame.start ≤ state.frame.cursor
  depth : state.stack.depth ≤ state.stack.capacity
  resetPending : state.resetPending = false

def State.at (state : State) (cursor : Nat) : State :=
  { state with frame := { state.frame with cursor := cursor } }

structure State.SameGround (before after : State) : Prop where
  arena : after.arena = before.arena
  start : after.frame.start = before.frame.start
  stop : after.frame.stop = before.frame.stop
  nesting : after.nesting = before.nesting
  resetPending : after.resetPending = before.resetPending
  depth : after.stack.depth ≤ after.stack.capacity

/-- What a step of the engine does, from a state that stands where the move is made. -/
def Move.Describes (read : Span → Step Unit) (state : State) : Move → Outcome Unit → Prop
  | .stop, _ => False
  | .fail cause last, outcome =>
    ∃ after, outcome = .fault cause after ∧ state.SameGround after ∧ after.memory = last.memory
  | .go next, outcome =>
    ∃ after, outcome = .done () after ∧ state.SameGround after ∧ after.StandsAt next
  | .enter body next, outcome =>
    ∃ after, outcome = read body after ∧ state.SameGround after ∧ after.StandsAt next
  | .foreign, _ => True

variable {first second third state : State} {point : Point} {read : Span → Step Unit}

theorem State.SameGround.trans (here : first.SameGround second) (there : second.SameGround third) :
    first.SameGround third where
  arena := there.arena.trans here.arena
  start := there.start.trans here.start
  stop := there.stop.trans here.stop
  nesting := there.nesting.trans here.nesting
  resetPending := there.resetPending.trans here.resetPending
  depth := there.depth

theorem State.setCursor_behind {front back : Text}
    (left : state.frameRest? = some (front ++ back))
    (start : state.frame.start ≤ state.frame.cursor) :
    setCursor (state.frame.cursor + Text.size front) state =
      .done () (state.at (state.frame.cursor + Text.size front)) := by
  have stop := Text.stop_of_slice? left
  rw [Text.size_append] at stop
  have wanted : min (max (state.frame.cursor + Text.size front) state.frame.start)
      state.frame.stop = state.frame.cursor + Text.size front := by omega
  have within : state.frame.start ≤ state.frame.stop := by omega
  have boundary := Text.boundaryFrom?_of_slice? (Text.slice?_behind left)
  simp [setCursor, within, wanted, boundary, State.at]

def State.past (state : State) (body : Text) : State :=
  let span : Span := { start := state.frame.cursor, length := body.size }
  { state with
    frame := { state.frame with cursor := span.stop + 1 }
    quotations := (state.quotations.capture span).2
    events := .captured (Int32.ofNat state.quotations.size) body :: state.events }

theorem Builtin.captureBody_of_unclosed {rest : Text} (left : state.frameRest? = some rest)
    (unclosed : bodyOf? rest = none) : captureBody state = .fault .unterminatedQuotation state := by
  simp [captureBody, cursor, frameRest, left, unclosed]
  rfl

theorem Builtin.captureBody_apply {rest : Text} (left : state.frameRest? = some rest)
    (start : state.frame.start ≤ state.frame.cursor) :
    captureBody state = match bodyOf? rest with
      | none => .fault .unterminatedQuotation state
      | some body => push (Int32.ofNat state.quotations.size) (state.past body) := by
  cases found : bodyOf? rest with
  | none => exact captureBody_of_unclosed left found
  | some body =>
    obtain ⟨_, split⟩ := split_of_bodyOf? found
    have whole : rest = (body ++ [']']) ++ rest.drop (body.length + 1) := by
      rw [List.append_assoc]
      exact split
    have width : Text.size (body ++ [']']) = body.size + 1 := Text.size_append _ _
    have moves := State.setCursor_behind (whole ▸ left) start
    rw [width, ← Nat.add_assoc] at moves
    simp [captureBody, cursor, frameRest, left, found, Span.stop, moves, capture, note]
    rfl

namespace State.StandsAt

theorem stop (stands : state.StandsAt point) :
    state.frame.cursor + Text.size point.rest = state.frame.stop :=
  Text.stop_of_slice? stands.rest

theorem unread (stands : state.StandsAt point) :
    state.frame.unread = Text.size point.rest := by
  have stop := stands.stop
  simp only [Frame.unread]
  omega

theorem note (stands : state.StandsAt point) (event : Event) :
    (state.note event).StandsAt point :=
  ⟨stands.cursor, stands.rest, stands.memory, stands.start, stands.depth, stands.resetPending⟩

theorem behind {front back : Text} {memory : Memory} (stands : state.StandsAt point)
    (split : point.rest = front ++ back) (depth : memory.stack.depth ≤ memory.stack.capacity)
    {after : State} (frame : after.frame = (state.at (state.frame.cursor + Text.size front)).frame)
    (arena : after.arena = state.arena) (remembers : after.memory = memory)
    (resetPending : after.resetPending = false) :
    after.StandsAt
      { offset := point.offset + Text.size front, rest := back, memory := memory } := by
  have cut := stands.rest
  rw [State.frameRest?, split] at cut
  refine ⟨?_, ?_, remembers, ?_, ?_, resetPending⟩
  · rw [frame, stands.cursor]
    rfl
  · rw [State.frameRest?, arena, frame]
    exact Text.slice?_behind cut
  · rw [frame]
    exact Nat.le_trans stands.start (Nat.le_add_right _ _)
  · rw [show after.stack = memory.stack from congrArg Memory.stack remembers]
    exact depth

end State.StandsAt

namespace Move

theorem Describes.from {move : Move} {outcome : Outcome Unit} (here : first.SameGround second)
    (describes : move.Describes read second outcome) : move.Describes read first outcome := by
  cases move with
  | stop => exact describes
  | foreign => trivial
  | fail cause last =>
    obtain ⟨after, same, there, memory⟩ := describes
    exact ⟨after, same, here.trans there, memory⟩
  | go next =>
    obtain ⟨after, same, there, stands⟩ := describes
    exact ⟨after, same, here.trans there, stands⟩
  | enter body next =>
    obtain ⟨after, same, there, stands⟩ := describes
    exact ⟨after, same, here.trans there, stands⟩

theorem Describes.of_note {move : Move} {outcome : Outcome Unit} {event : Event}
    (depth : state.stack.depth ≤ state.stack.capacity)
    (describes : move.Describes read (state.note event) outcome) :
    move.Describes read state outcome := by
  have same : state.SameGround (state.note event) := ⟨rfl, rfl, rfl, rfl, rfl, depth⟩
  exact describes.from same

theorem describes_fail (read : Span → Step Unit) (stands : state.StandsAt point) (cause : Fault) :
    (Move.fail cause point).Describes read state (.fault cause state) :=
  ⟨state, rfl, ⟨rfl, rfl, rfl, rfl, rfl, stands.depth⟩, stands.memory⟩

theorem push_describes (read : Span → Step Unit) (stands : state.StandsAt point) (cell : Int32) :
    (point.push cell).Describes read state (push cell state) := by
  rw [push_apply, Point.push, ← stands.memory]
  dsimp only [State.memory]
  cases pushed : state.stack.push cell with
  | error cause => exact describes_fail read stands cause
  | ok stack =>
    have fits := Stack.push_fits pushed
    exact ⟨_, rfl, ⟨rfl, rfl, rfl, rfl, rfl, fits⟩, stands.cursor, stands.rest, rfl, stands.start,
      fits, stands.resetPending⟩

theorem replace_describes {builtin : Builtin} (quote : builtin ≠ .quote) (call : builtin ≠ .call)
    (stands : state.StandsAt point) (inputs : builtin.inputs ≤ state.stack.depth)
    (room : builtin.outputs - builtin.inputs ≤ state.stack.room) :
    (point.replace builtin).Describes read state (builtin.invoke read state) := by
  have works := Builtin.invoke_apply state read quote call stands.depth inputs room
  have stack := congrArg Memory.stack stands.memory
  cases refused : builtin.refuses (state.stack.cells.take builtin.inputs) with
  | true =>
    have move : point.replace builtin = .fail .divisionByZero point := by
      simp [Point.replace, ← stack, State.memory, refused]
    rw [works, move, if_pos refused]
    exact describes_fail read stands _
  | false =>
    have fits : (builtin.effect (state.stack.cells.take builtin.inputs) ++
        state.stack.cells.drop builtin.inputs).length ≤ state.stack.capacity := by
      rw [List.length_append, Builtin.effect_length (Builtin.length_taken inputs) quote,
        List.length_drop]
      have depth := stands.depth
      simp only [Stack.depth, Stack.room] at inputs room depth
      omega
    rw [works, if_neg (by simp [refused]), Point.replace, ← stands.memory]
    simp only [State.memory, refused]
    rcases state.sink.write _ with ⟨_ | _, sink⟩
    · exact ⟨_, rfl, ⟨rfl, rfl, rfl, rfl, rfl, fits⟩, rfl⟩
    · exact ⟨_, rfl, ⟨rfl, rfl, rfl, rfl, rfl, fits⟩, stands.cursor, stands.rest, rfl, stands.start,
        fits, stands.resetPending⟩

theorem call_describes (stands : state.StandsAt point) :
    point.call.Describes read state (Builtin.callQuotation read state) := by
  rw [Builtin.callQuotation, bind_apply, Builtin.callee, bind_apply, pop_apply, Point.call,
    ← stands.memory]
  dsimp only [State.memory]
  cases popped : state.stack.pop with
  | error cause => exact describes_fail read stands cause
  | ok result =>
    obtain ⟨handle, stack⟩ := result
    have fits := Stack.pop_fits stands.depth popped
    have next : ∀ events, ({ state with stack := stack, events := events }).StandsAt
        { point with memory := { state.memory with stack := stack } } := fun events =>
      ⟨stands.cursor, stands.rest, rfl, stands.start, fits, stands.resetPending⟩
    simp only [Outcome.bind_done, quotation?, bind_apply, get_apply, pure_apply]
    cases state.quotations.get? handle with
    | some body => exact ⟨_, rfl, ⟨rfl, rfl, rfl, rfl, rfl, fits⟩, next _⟩
    | none => exact ⟨_, rfl, ⟨rfl, rfl, rfl, rfl, rfl, fits⟩, next _⟩

theorem capture_describes (stands : state.StandsAt point) :
    point.quote.Describes read state (Builtin.captureBody state) := by
  rw [Builtin.captureBody_apply stands.rest stands.start, Point.quote]
  cases found : Builtin.bodyOf? point.rest with
  | none => exact describes_fail read stands _
  | some body =>
    obtain ⟨_, split⟩ := Builtin.split_of_bodyOf? found
    have whole : point.rest = (body ++ [']']) ++ point.rest.drop (body.length + 1) := by
      rw [List.append_assoc]
      exact split
    have width : Text.size (body ++ [']']) = body.size + 1 := Text.size_append _ _
    let span : Span := { start := state.frame.cursor, length := body.size }
    let captured := state.quotations.capture span
    have behind : (state.past body).StandsAt
        { offset := point.offset + Text.size (body ++ [']'])
          rest := point.rest.drop (body.length + 1)
          memory := { state.memory with quotations := captured.2 } } :=
      stands.behind whole stands.depth (by rw [width]; rfl) rfl rfl stands.resetPending
    rw [width, ← Nat.add_assoc, ← stands.cursor] at behind
    have pushes := push_describes read behind captured.1
    have same : state.SameGround (state.past body) := ⟨rfl, rfl, rfl, rfl, rfl, stands.depth⟩
    dsimp only
    rw [← stands.cursor, ← stands.memory]
    exact pushes.from same

theorem invoke_describes {builtin : Builtin} (stands : state.StandsAt point)
    (inputs : builtin.inputs ≤ state.stack.depth)
    (room : builtin.outputs - builtin.inputs ≤ state.stack.room) :
    (point.invoke builtin).Describes read state (builtin.invoke read state) := by
  unfold Point.invoke
  split
  · exact capture_describes stands
  · exact call_describes stands
  · next quote call => exact replace_describes quote call stands inputs room

end Move

theorem Engine.checkArity_apply (word : Word) (state : State) :
    Engine.checkArity word state =
      if state.stack.depth < word.inputs then .fault .stackUnderflow state
      else if state.stack.room < word.growth then .fault .stackOverflow state
      else .done () (state.note (.invoking word.name state.stack)) := by
  rw [Engine.checkArity, bind_apply, Step.get_apply, Outcome.bind_done]
  split
  · rfl
  · split <;> rfl

theorem Engine.dispatch_apply (engine : Engine) (word : Word) (state : State) :
    engine.dispatch read word state =
      if state.stack.depth < word.inputs then .fault .stackUnderflow state
      else if state.stack.room < word.growth then .fault .stackOverflow state
      else engine.invoke read word.operation (state.note (.invoking word.name state.stack)) := by
  rw [Engine.dispatch, bind_apply, Engine.checkArity_apply]
  split
  · rfl
  · split <;> rfl

theorem Engine.dispatch_builtin {word : Word} {builtin : Builtin} {deeper taken : List Int32}
    (declared : word.declared? = some builtin) (cells : state.stack.toList = deeper ++ taken)
    (inputs : taken.length = builtin.inputs)
    (room : builtin.outputs - builtin.inputs ≤ state.stack.room) (engine : Engine)
    (read : Span → Step Unit) :
    engine.dispatch read word state =
      builtin.invoke read ((state.note (.invoking word.name state.stack)).withCells
        (taken.reverse ++ deeper.reverse)) := by
  obtain ⟨operation, takes, leaves⟩ := Word.spec_of_declared? declared
  have there : ¬ state.stack.depth < word.inputs := by
    rw [takes, ← inputs, Stack.depth, Stack.cells_of_toList cells]
    simp
  have grows : ¬ state.stack.room < word.growth := by
    rwa [Word.growth, takes, leaves, Nat.not_lt]
  have same : (state.note (.invoking word.name state.stack)).withCells
      (taken.reverse ++ deeper.reverse) = state.note (.invoking word.name state.stack) :=
    State.withCells_of_toList cells
  rw [same, engine.dispatch_apply, if_neg there, if_neg grows, operation]
  rfl

namespace Move

theorem dispatch_describes {engine : Engine} (stands : state.StandsAt point) (word : Word) :
    (point.dispatch word).Describes read state (engine.dispatch read word state) := by
  have stack : point.memory.stack = state.stack := congrArg Memory.stack stands.memory.symm
  rw [Point.dispatch, stack, Engine.dispatch_apply]
  split
  · exact describes_fail read stands _
  · split
    · exact describes_fail read stands _
    · next inputs room =>
      cases declared : word.declared? with
      | none => trivial
      | some builtin =>
        obtain ⟨operation, takes, leaves⟩ := Word.spec_of_declared? declared
        have fits : word.growth ≤ state.stack.room := Nat.le_of_not_lt room
        rw [Word.growth, takes, leaves] at fits
        rw [operation]
        exact (invoke_describes (stands.note _) (takes ▸ Nat.le_of_not_lt inputs) fits).of_note
          stands.depth

theorem obey_describes (engine : Engine) (read : Span → Step Unit) (stands : state.StandsAt point)
    (name : Text) :
    (point.obey name (engine.dictionary.meaning name)).Describes read state
      (engine.obey read name state) := by
  unfold Point.obey Engine.obey
  cases engine.dictionary.meaning name with
  | word word => exact dispatch_describes stands word
  | number value => exact (push_describes read (stands.note _) value).of_note stands.depth
  | unknown => exact describes_fail read stands _

end Move

theorem State.StandsAt.behind_word (stands : state.StandsAt point) :
    (state.at (Token.scan point.offset point.rest).span.stop).StandsAt point.behind := by
  have stop := Token.scan_stop point.offset point.rest
  have frame : (state.at (Token.scan point.offset point.rest).span.stop).frame =
      (state.at (state.frame.cursor + Text.size (point.rest.takeWhile isBlank ++
        (Token.scan point.offset point.rest).name))).frame := by
    rw [stop, stands.cursor]
  have behind := stands.behind (Token.scan_split point.offset point.rest) stands.depth frame rfl rfl
    stands.resetPending
  rw [← stop] at behind
  exact { behind with memory := stands.memory }

namespace Engine

variable {engine : Engine}

theorem nextName?_apply (state : State) :
    nextName? state =
      if state.halted then .done none state
      else
        match state.frameRest? with
        | none => .crash state
        | some rest =>
          let token := Token.scan state.frame.cursor rest
          if token.isEmpty then .done none (state.at state.frame.stop)
          else .done (some token.name) (state.at token.span.stop) := by
  rw [nextName?, bind_apply, isHalted, bind_apply, Step.get_apply, Outcome.bind_done, pure_apply,
    Outcome.bind_done]
  split
  · rfl
  · rw [bind_apply, frameRest, bind_apply, Step.get_apply, Outcome.bind_done]
    cases state.frameRest? with
    | none => rfl
    | some rest =>
      simp only [orCrash_some, Outcome.bind_done, cursor, bind_apply, Step.get_apply, pure_apply]
      split
      · rfl
      · rfl

theorem advance_apply (engine : Engine) (state : State) :
    engine.advance read state =
      if state.halted then .done false state
      else
        match state.frameRest? with
        | none => .crash state
        | some rest =>
          let token := Token.scan state.frame.cursor rest
          if token.isEmpty then .done false (state.at state.frame.stop)
          else
            (engine.obey read token.name (state.at token.span.stop)).bind
              fun _ after => .done true after := by
  rw [advance, bind_apply, nextName?_apply]
  split
  · rfl
  · cases state.frameRest? with
    | none => rfl
    | some rest =>
      dsimp only
      split
      · rfl
      · rfl

theorem advance_describes (engine : Engine) (read : Span → Step Unit)
    (stands : state.StandsAt point) :
    (engine.step point = .stop ∧ ∃ after, engine.advance read state = .done false after ∧
      state.SameGround after ∧ after.memory = point.memory) ∨
    ∃ outcome, engine.advance read state = outcome.bind (fun _ after => .done true after) ∧
      (engine.step point).Describes read state outcome := by
  have halted : point.memory.halted = state.halted := congrArg Memory.halted stands.memory.symm
  rw [advance_apply, stands.rest, stands.cursor, step, halted]
  by_cases stopped : state.halted = true
  · rw [if_pos stopped, if_pos stopped]
    exact .inl ⟨rfl, state, rfl, ⟨rfl, rfl, rfl, rfl, rfl, stands.depth⟩, stands.memory⟩
  · rw [if_neg stopped, if_neg stopped]
    dsimp only
    by_cases empty : (Token.scan point.offset point.rest).isEmpty = true
    · rw [if_pos empty, if_pos empty]
      exact .inl ⟨rfl, _, rfl, ⟨rfl, rfl, rfl, rfl, rfl, stands.depth⟩, stands.memory⟩
    · rw [if_neg empty, if_neg empty]
      have obeys := Move.obey_describes engine read stands.behind_word
        (Token.scan point.offset point.rest).name
      have same : state.SameGround (state.at (Token.scan point.offset point.rest).span.stop) :=
        ⟨rfl, rfl, rfl, rfl, rfl, stands.depth⟩
      exact .inr ⟨_, rfl, obeys.from same⟩

end Engine

def Upshot.Shows (kept : State → Prop) : Upshot → Outcome Unit → Prop
  | some result, outcome => ∃ after, outcome = .returned result after ∧ kept after
  | none, outcome => ∃ after, outcome = .crash after

namespace Engine

variable {engine : Engine} {span : Span} {inner : Text} {upshot : Upshot} {final : Memory}

theorem exists_rewindLimit : ∃ rewinds, rewindLimit = rewinds + 1 :=
  Nat.exists_eq_add_one.2 (Nat.two_pow_pos 62)

theorem frameRest?_openFrame (readable : state.arena.slice? span = some inner) :
    (state.openFrame span).frameRest? = some inner :=
  (Arena.slice?_eq_some_iff.1 readable).2

theorem openFrame_standsAt (readable : state.arena.slice? span = some inner)
    (depth : state.stack.depth ≤ state.stack.capacity) (resetPending : state.resetPending = false) :
    (state.openFrame span).StandsAt ⟨span.start, inner, state.memory⟩ :=
  ⟨rfl, frameRest?_openFrame readable, rfl, Nat.le_refl _, depth, resetPending⟩

theorem readFrame_of_unreadable (engine : Engine) (read : Span → Step Unit)
    (unreadable : state.arena.slice? span = none)
    (running : state.halted = false) :
    ∃ after, engine.readFrame read span state = .crash after := by
  unfold readFrame
  split
  · next fits =>
    obtain ⟨rewinds, positive⟩ := exists_rewindLimit
    have rest : (state.openFrame span).frameRest? = none := by
      rw [Arena.slice?, Span.cut?, if_pos fits] at unreadable
      exact unreadable
    have stopped : (state.openFrame span).halted = false := running
    refine ⟨state.openFrame span, ?_⟩
    simp [positive, scan, sweep, advance_apply, stopped, rest, Outcome.mapReturn]
  · exact ⟨state, rfl⟩

theorem readFrame_of_halted (engine : Engine) (read : Span → Step Unit) (span : Span)
    (halted : state.halted = true) (stays : state.nesting ≠ 0 ∨ state.resetPending = false) :
    engine.readFrame read span state = if span.fits then .done () state else .crash state := by
  obtain ⟨rewinds, positive⟩ := exists_rewindLimit
  have stopped : (state.openFrame span).halted = true := halted
  have opened : ¬ ((state.openFrame span).nesting - 1 = 0 ∧
      (state.openFrame span).resetPending = true) := by
    simpa [State.openFrame, ← not_or, imp_iff_not_or] using stays
  have closed : (state.openFrame span).closeFrame state.frame = state := if_neg opened
  rw [readFrame]
  simp [positive, scan, sweep, advance_apply, stopped, Outcome.mapReturn, closed]

theorem readFrame_shows {memory : Memory} (readable : state.arena.slice? span = some inner)
    (remembers : state.memory = memory) (depth : state.stack.depth ≤ state.stack.capacity)
    (resetPending : state.resetPending = false)
    (sweeps : ∀ again, (state.openFrame span).StandsAt ⟨span.start, inner, memory⟩ →
      upshot.Shows (fun after => (state.openFrame span).SameGround after ∧ after.memory = final)
        (engine.sweep read again (Text.size inner + 1) (state.openFrame span))) :
    upshot.Shows (fun after => state.SameGround after ∧ after.frame = state.frame ∧
      after.memory = final) (engine.readFrame read span state) := by
  subst remembers
  obtain ⟨rewinds, positive⟩ := exists_rewindLimit
  have stands := openFrame_standsAt readable depth resetPending
  have fits := (Arena.slice?_eq_some_iff.1 readable).1
  rw [readFrame, if_pos fits, positive, scan, stands.unread]
  have shows := sweeps (engine.scan read rewinds) stands
  cases upshot with
  | none =>
    obtain ⟨after, crashed⟩ := shows
    exact ⟨after, by rw [crashed]; rfl⟩
  | some result =>
    obtain ⟨after, returned, same, memory⟩ := shows
    have stays : after.closeFrame state.frame =
        { after with frame := state.frame, nesting := after.nesting - 1 } := by
      simp [State.closeFrame, same.resetPending, State.openFrame, resetPending]
    refine ⟨after.closeFrame state.frame, by rw [returned, Outcome.mapReturn_returned], ?_⟩
    rw [stays]
    refine ⟨⟨same.arena, rfl, rfl, ?_, same.resetPending, same.depth⟩, rfl, memory⟩
    rw [same.nesting]
    rfl

end Engine

namespace Engine

variable {engine : Engine} {next : Point}

theorem sweep_of_stop (stands : state.StandsAt point) (move : engine.step point = .stop)
    (again : Step Unit) (count : Nat) :
    ∃ after, engine.sweep read again (count + 1) state = .done () after ∧
      state.SameGround after ∧ after.memory = point.memory := by
  rcases engine.advance_describes read stands with
    ⟨_, after, advanced, same, memory⟩ | ⟨outcome, _, describes⟩
  · exact ⟨after, by rw [sweep, advanced], same, memory⟩
  · rw [move] at describes
    cases describes

theorem sweep_describes (read : Span → Step Unit) (stands : state.StandsAt point) {move : Move}
    (made : engine.step point = move) (moves : move ≠ .stop) (again : Step Unit) (count : Nat) :
    ∃ outcome, move.Describes read state outcome ∧
      engine.sweep read again (count + 1) state = outcome.bind fun _ after =>
        if after.frame.unread < state.frame.unread then engine.sweep read again count after
        else again after := by
  subst made
  rcases engine.advance_describes read stands with
    ⟨stop, _⟩ | ⟨outcome, advanced, describes⟩
  · exact absurd stop moves
  · refine ⟨outcome, describes, ?_⟩
    rw [sweep, advanced]
    cases outcome <;> rfl

theorem size_lt_of_step (move : (engine.step point).point? = some next) :
    Text.size next.rest < Text.size point.rest := by
  obtain ⟨front, nonempty, split, _⟩ := step_advances move
  have positive : Text.size front ≠ 0 := mt Text.size_eq_zero_iff.1 nonempty
  rw [split, Text.size_append]
  omega

theorem sweep_onward (engine : Engine) (read : Span → Step Unit) {after : State} {count : Nat}
    (again : Step Unit) (stands : state.StandsAt point) (reached : after.StandsAt next)
    (shorter : Text.size next.rest < Text.size point.rest)
    (enough : Text.size point.rest ≤ count) :
    ∃ fewer, Text.size next.rest ≤ fewer ∧
      (if after.frame.unread < state.frame.unread then engine.sweep read again count after
        else again after) = engine.sweep read again (fewer + 1) after := by
  refine ⟨count - 1, by omega, ?_⟩
  rw [stands.unread, reached.unread, if_pos shorter, Nat.sub_add_cancel (by omega)]

end Engine

namespace Upshot.Shows

variable {upshot : Upshot} {kept kept' : State → Prop} {outcome : Outcome Unit}

theorem mono (shows : upshot.Shows kept outcome) (implied : ∀ after, kept after → kept' after) :
    upshot.Shows kept' outcome := by
  cases upshot with
  | none => exact shows
  | some result =>
    obtain ⟨after, returned, holds⟩ := shows
    exact ⟨after, returned, implied after holds⟩

theorem bind {next : Unit → State → Outcome Unit} (shows : upshot.Shows kept outcome)
    (stopped : upshot ≠ some (.ok ())) : upshot.Shows kept (outcome.bind next) := by
  cases upshot with
  | none =>
    obtain ⟨after, rfl⟩ := shows
    exact ⟨after, rfl⟩
  | some result =>
    obtain ⟨after, rfl, holds⟩ := shows
    cases result with
    | ok value => exact absurd rfl stopped
    | error cause => exact ⟨after, rfl, holds⟩

end Upshot.Shows

theorem State.StandsAt.resume {after : State} (stands : state.StandsAt point)
    (kept : state.SameGround after) (frame : after.frame = state.frame) :
    after.StandsAt { point with memory := after.memory } where
  cursor := by rw [frame, stands.cursor]
  rest := by rw [← stands.rest, State.frameRest?, State.frameRest?, frame, kept.arena]
  memory := rfl
  start := by rw [frame]; exact stands.start
  depth := kept.depth
  resetPending := kept.resetPending.trans stands.resetPending

theorem Reads.sweep {engine : Engine} {arena : Arena} {levels : Nat} {upshot : Upshot}
    {final : Memory} (reads : Reads engine arena levels point upshot final) {state : State}
    (again : Step Unit) (count : Nat) (same : state.arena = arena) (stands : state.StandsAt point)
    (enough : Text.size point.rest ≤ count) :
    upshot.Shows (fun after => state.SameGround after ∧ after.memory = final)
      (engine.sweep (engine.readAt levels) again (count + 1) state) := by
  -- A step shortens what is left of the frame, so that the loop takes no rewind for it.
  induction reads generalizing state again count with
  | stop move => exact Engine.sweep_of_stop stands move again count
  | @fail levels _ _ _ move =>
    obtain ⟨_, ⟨after, rfl, ground, memory⟩, swept⟩ := Engine.sweep_describes
      (engine.readAt levels) stands move (by simp) again count
    exact ⟨after, swept, ground, memory⟩
  | @go levels _ _ _ _ move later ih =>
    obtain ⟨_, ⟨after, rfl, ground, reached⟩, swept⟩ := Engine.sweep_describes
      (engine.readAt levels) stands move (by simp) again count
    have shorter := Engine.size_lt_of_step (by rw [move]; rfl)
    obtain ⟨fewer, less, onward⟩ := engine.sweep_onward
      (engine.readAt levels) again stands reached shorter enough
    rw [swept.trans onward]
    exact (ih again fewer (ground.arena.trans same) reached less).mono
      fun _ kept => ⟨ground.trans kept.1, kept.2⟩
  | @tooDeep _ _ _ move =>
    obtain ⟨_, ⟨after, rfl, ground, reached⟩, swept⟩ := Engine.sweep_describes
      (engine.readAt 0) stands move (by simp) again count
    exact ⟨after, swept, ground, reached.memory⟩
  | @crash levels _ _ _ move unreadable =>
    obtain ⟨_, ⟨after, rfl, ground, reached⟩, swept⟩ := Engine.sweep_describes
      (engine.readAt (levels + 1)) stands move (by simp) again count
    have running := (Engine.step_of_enter move).2.2
    rw [← same, ← ground.arena] at unreadable
    rw [← reached.memory] at running
    obtain ⟨last, crashed⟩ := engine.readFrame_of_unreadable (engine.readAt levels) unreadable
      running
    exact ⟨last, by rw [swept, Engine.readAt, crashed]; rfl⟩
  | @enter levels _ _ _ _ _ _ _ move readable nested later ihNested ihLater =>
    obtain ⟨_, ⟨after, rfl, ground, reached⟩, swept⟩ := Engine.sweep_describes
      (engine.readAt (levels + 1)) stands move (by simp) again count
    have arena := ground.arena.trans same
    rw [← arena] at readable
    obtain ⟨back, returned, kept, frame, memory⟩ :=
      Engine.readFrame_shows readable reached.memory reached.depth reached.resetPending
        fun again opened => ihNested again _ arena opened (Nat.le_refl _)
    have resumed := reached.resume kept frame
    have shorter := Engine.size_lt_of_step (by rw [move]; rfl)
    obtain ⟨fewer, less, onward⟩ := engine.sweep_onward
      (engine.readAt (levels + 1)) again stands resumed shorter enough
    rw [memory] at resumed
    rw [Engine.readAt, returned] at swept
    rw [swept.trans onward]
    exact (ihLater again fewer (kept.arena.trans arena) resumed less).mono
      fun _ last => ⟨(ground.trans kept).trans last.1, last.2⟩
  | @leave levels _ _ _ _ _ _ move readable nested stopped ih =>
    obtain ⟨_, ⟨after, rfl, ground, reached⟩, swept⟩ := Engine.sweep_describes
      (engine.readAt (levels + 1)) stands move (by simp) again count
    have arena := ground.arena.trans same
    rw [← arena] at readable
    have shows := Engine.readFrame_shows readable reached.memory reached.depth
      reached.resetPending fun again opened => ih again _ arena opened (Nat.le_refl _)
    rw [swept]
    exact (shows.bind stopped).mono fun _ kept => ⟨ground.trans kept.1, kept.2.2⟩

end StackScript

import StackScript.Proofs.Invariants

set_option autoImplicit false

namespace StackScript

def printout (cells : List Int32) : Text :=
  cells.flatMap fun cell => decimal cell.toInt ++ ['\n']

theorem Builtin.printed_eq_printout (builtin : Builtin) (cells : List Int32) :
    ∃ printed, builtin.printed cells = printout printed := by
  unfold printed
  split
  · next cell => exact ⟨[cell], by simp [printout]⟩
  · exact ⟨[], rfl⟩

section Writing

variable {point next : Point} {engine : Engine}

namespace Point

theorem sink_of_push {cell : Int32} (move : (point.push cell).point? = some next) :
    next.memory.sink = point.memory.sink := by
  unfold push at move
  split at move <;> cases move <;> rfl

theorem sink_of_call (move : point.call.point? = some next) :
    next.memory.sink = point.memory.sink := by
  unfold call at move
  split at move
  · cases move
    rfl
  · dsimp only at move
    split at move <;> cases move <;> rfl

theorem sink_of_quote (move : point.quote.point? = some next) :
    next.memory.sink = point.memory.sink := by
  unfold quote at move
  split at move
  · cases move
    rfl
  · have pushed := sink_of_push move
    exact pushed

theorem sink_of_replace {builtin : Builtin} (move : (point.replace builtin).point? = some next) :
    ∃ cells, next.memory.sink = (point.memory.sink.write (printout cells).toBytes).2 := by
  obtain ⟨printed, prints⟩ :=
    builtin.printed_eq_printout (point.memory.stack.cells.take builtin.inputs)
  unfold replace at move
  dsimp only at move
  split at move
  · cases move
    exact ⟨[], by simp [printout, Text.toBytes, Sink.write_nil]⟩
  · rw [prints] at move
    split at move <;> cases move <;> exact ⟨printed, rfl⟩

theorem sink_of_obey {name : Text} {meaning : Meaning}
    (move : (point.obey name meaning).point? = some next) :
    ∃ cells, next.memory.sink = (point.memory.sink.write (printout cells).toBytes).2 := by
  have silent : next.memory.sink = point.memory.sink →
      ∃ cells, next.memory.sink = (point.memory.sink.write (printout cells).toBytes).2 :=
    fun same => ⟨[], by simp [same, printout, Text.toBytes, Sink.write_nil]⟩
  unfold obey at move
  split at move
  · unfold dispatch at move
    split at move
    · cases move
      exact silent rfl
    · split at move
      · cases move
        exact silent rfl
      · split at move
        · unfold invoke at move
          split at move
          · exact silent (sink_of_quote move)
          · exact silent (sink_of_call move)
          · exact sink_of_replace move
        · cases move
  · exact silent (sink_of_push move)
  · cases move
    exact silent rfl

end Point

theorem Engine.step_prints (move : (engine.step point).point? = some next) :
    ∃ cells, next.memory.sink = (point.memory.sink.write (printout cells).toBytes).2 := by
  unfold step at move
  split at move
  · cases move
  · dsimp only at move
    split at move
    · cases move
    · have obeyed := Point.sink_of_obey move
      exact obeyed

def Invariant.receives (engine : Engine) (arena : Arena) (bytes : Bytes) :
    Invariant engine arena where
  place := fun _ _ => True
  memory := fun memory => bytes <+: memory.sink.received
  step := by
    intro point next _ received move
    obtain ⟨cells, prints⟩ := Engine.step_prints move
    rw [prints, Sink.received_write]
    exact ⟨trivial, received.trans (List.prefix_append _ _)⟩
  enter := fun _ _ _ => trivial

theorem Reads.received_prefix {arena : Arena} {levels : Nat} {upshot : Upshot} {final : Memory}
    (reads : Reads engine arena levels point upshot final) :
    point.memory.sink.received <+: final.sink.received :=
  (Invariant.receives engine arena _).reads reads trivial (List.prefix_refl _)

end Writing

namespace Sink

variable {sink : Sink} {total : Nat}

def limit (total : Nat) (sink : Sink) : Sink :=
  { sink with room := some (total - sink.received.length) }

structure Fits (total : Nat) (sink : Sink) : Prop where
  room : sink.room = none
  received : sink.received.length ≤ total

@[simp] theorem received_limit (total : Nat) (sink : Sink) :
    (sink.limit total).received = sink.received := rfl

theorem room_write (unlimited : sink.room = none) (bytes : Bytes) :
    (sink.write bytes).2.room = none := by
  simp [write, unlimited]

theorem write_unlimited (unlimited : sink.room = none) (bytes : Bytes) :
    sink.write bytes = (.ok (), (sink.write bytes).2) := by
  simp [write, unlimited]

theorem write_limit (fits : sink.Fits total) {bytes : Bytes}
    (within : (sink.write bytes).2.received.length ≤ total) :
    (sink.limit total).write bytes = (.ok (), (sink.write bytes).2.limit total) := by
  have room : bytes.length ≤ total - sink.received.length := by
    simp [fits.room] at within
    omega
  have whole : bytes.take (total - sink.received.length) = bytes := List.take_of_length_le room
  simp only [received, List.length_reverse] at room whole
  simp [write, limit, fits.room, received, room, whole, Nat.sub_sub, Nat.add_comm]

theorem write_limit_over {bytes : Bytes} (fits : sink.Fits total)
    (past : total < (sink.write bytes).2.received.length) :
    ∃ after, (sink.limit total).write bytes = (.error (), after) ∧
      after.received = (sink.write bytes).2.received.take total := by
  refine ⟨((sink.limit total).write bytes).2, Prod.ext ?_ rfl, ?_⟩
  · have room : ¬ bytes.length ≤ total - sink.received.length := by
      have least := fits.received
      simp [fits.room] at past
      omega
    simp only [write, limit, if_neg room]
  · have room : (sink.limit total).room = some (total - sink.received.length) := rfl
    simp [fits.room, room, List.take_append, List.take_of_length_le fits.received]

end Sink

def Memory.limit (total : Nat) (memory : Memory) : Memory :=
  { memory with sink := memory.sink.limit total }

def Point.limit (total : Nat) (point : Point) : Point :=
  { point with memory := point.memory.limit total }

def Move.limit (total : Nat) : Move → Move
  | .stop => .stop
  | .fail cause last => .fail cause (last.limit total)
  | .go next => .go (next.limit total)
  | .enter body next => .enter body (next.limit total)
  | .foreign => .foreign

/-- `Move.Limited total move move'`: with a limit, `move'` is made in the place of `move`. -/
inductive Move.Limited (total : Nat) (move : Move) : Move → Prop where
  | same (fits : ∀ next, move.point? = some next → next.memory.sink.Fits total) :
      Limited total move (move.limit total)
  | past {next last : Point} (leads : move.point? = some next)
      (past : total < next.memory.sink.received.length)
      (received : last.memory.sink.received = next.memory.sink.received.take total) :
      Limited total move (.fail .outputFailed last)

section Limited

variable {total : Nat} {point : Point}

namespace Move

theorem limited_silent (move : Move) (fits : point.memory.sink.Fits total)
    (silent : ∀ {next}, move.point? = some next → next.memory.sink = point.memory.sink) :
    move.Limited total (move.limit total) :=
  .same fun _ leads => by rwa [silent leads]

theorem limited_end {move : Move} (ends : move.point? = none) :
    move.Limited total (move.limit total) :=
  .same fun _ leads => by cases ends.symm.trans leads

theorem limited_fail (fits : point.memory.sink.Fits total) (cause : Fault) :
    (Move.fail cause point).Limited total (.fail cause (point.limit total)) :=
  limited_silent (.fail cause point) fits fun leads => by cases leads; rfl

theorem limited_push (fits : point.memory.sink.Fits total) (cell : Int32) :
    (point.push cell).Limited total ((point.limit total).push cell) := by
  have same : (point.limit total).push cell = (point.push cell).limit total := by
    unfold Point.push
    dsimp only [Point.limit, Memory.limit]
    split <;> rfl
  rw [same]
  exact limited_silent _ fits Point.sink_of_push

theorem limited_call (fits : point.memory.sink.Fits total) :
    point.call.Limited total (point.limit total).call := by
  have same : (point.limit total).call = point.call.limit total := by
    unfold Point.call
    dsimp only [Point.limit, Memory.limit]
    split
    · rfl
    · split <;> rfl
  rw [same]
  exact limited_silent _ fits Point.sink_of_call

theorem limited_quote (fits : point.memory.sink.Fits total) :
    point.quote.Limited total (point.limit total).quote := by
  have same : (point.limit total).quote = point.quote.limit total := by
    unfold Point.quote Point.push
    dsimp only [Point.limit, Memory.limit]
    split
    · rfl
    · split <;> rfl
  rw [same]
  exact limited_silent _ fits Point.sink_of_quote

theorem limited_replace (fits : point.memory.sink.Fits total) (builtin : Builtin) :
    (point.replace builtin).Limited total ((point.limit total).replace builtin) := by
  unfold Point.replace
  dsimp only [Point.limit, Memory.limit]
  split
  · exact limited_fail fits _
  · generalize (builtin.printed (point.memory.stack.cells.take builtin.inputs)).toBytes = bytes
    rw [Sink.write_unlimited fits.room bytes]
    by_cases within : (point.memory.sink.write bytes).2.received.length ≤ total
    · rw [Sink.write_limit fits within]
      apply @Limited.same total (.go _)
      intro next leads
      cases leads
      exact ⟨Sink.room_write fits.room bytes, within⟩
    · obtain ⟨after, failed, received⟩ := Sink.write_limit_over fits (Nat.lt_of_not_le within)
      rw [failed]
      exact .past rfl (Nat.lt_of_not_le within) received

theorem limited_dispatch (fits : point.memory.sink.Fits total) (word : Word) :
    (point.dispatch word).Limited total ((point.limit total).dispatch word) := by
  have stack : (point.limit total).memory.stack = point.memory.stack := rfl
  rw [Point.dispatch, Point.dispatch, stack]
  split
  · exact limited_fail fits _
  · split
    · exact limited_fail fits _
    · split
      · unfold Point.invoke
        split
        · exact limited_quote fits
        · exact limited_call fits
        · exact limited_replace fits _
      · exact limited_end rfl

theorem limited_obey (fits : point.memory.sink.Fits total) (name : Text) (meaning : Meaning) :
    (point.obey name meaning).Limited total ((point.limit total).obey name meaning) := by
  cases meaning with
  | word word => exact limited_dispatch fits word
  | number value => exact limited_push fits value
  | unknown => exact limited_fail fits _

end Move

theorem Engine.step_limited (engine : Engine) (fits : point.memory.sink.Fits total) :
    (engine.step point).Limited total (engine.step (point.limit total)) := by
  have halted : (point.limit total).memory.halted = point.memory.halted := rfl
  rw [step, step, halted]
  split
  · exact Move.limited_end rfl
  · dsimp only [Point.limit]
    split
    · exact Move.limited_end rfl
    · have behind : point.behind.memory.sink.Fits total := fits
      exact Move.limited_obey behind _ _

/-- With the limit, reading stops in a write. Without, it went past the limit. -/
def Reads.Stopped (engine : Engine) (arena : Arena) (total levels : Nat) (point : Point)
    (final : Memory) : Prop :=
  total < final.sink.received.length ∧
    ∃ last, Reads engine arena levels (point.limit total) (some (.error .outputFailed)) last ∧
      last.sink.received = final.sink.received.take total

variable {engine : Engine} {arena : Arena} {levels : Nat} {upshot : Upshot} {final : Memory}

theorem Reads.Stopped.later {memory : Memory}
    (stopped : Reads.Stopped engine arena total levels point memory)
    (more : memory.sink.received <+: final.sink.received) :
    Reads.Stopped engine arena total levels point final := by
  obtain ⟨past, last, reads, received⟩ := stopped
  refine ⟨Nat.lt_of_lt_of_le past more.length_le, last, reads, ?_⟩
  obtain ⟨written, same⟩ := more
  rw [received, ← same, List.take_append_of_le_length (Nat.le_of_lt past)]

theorem Engine.step_limited_or_stopped {move : Move} {next : Point}
    (fits : point.memory.sink.Fits total) (made : engine.step point = move)
    (leads : move.point? = some next) (more : next.memory.sink.received <+: final.sink.received) :
    (next.memory.sink.Fits total ∧ engine.step (point.limit total) = move.limit total) ∨
      Reads.Stopped engine arena total levels point final := by
  have limited := engine.step_limited fits
  rw [made] at limited
  generalize made' : engine.step (point.limit total) = move' at limited
  cases limited with
  | same fits => exact .inl ⟨fits next leads, rfl⟩
  | past leads' past received =>
    cases leads.symm.trans leads'
    have stopped : Reads.Stopped engine arena total levels point next.memory :=
      ⟨past, _, .fail made', received⟩
    exact .inr (stopped.later more)

theorem Reads.limited (reads : Reads engine arena levels point upshot final)
    (fits : point.memory.sink.Fits total) :
    (final.sink.Fits total ∧
      Reads engine arena levels (point.limit total) upshot (final.limit total)) ∨
      Reads.Stopped engine arena total levels point final := by
  -- The first write that does not fit stops its frame, and with it the frames around that.
  induction reads with
  | stop move =>
    have limited := engine.step_limited fits
    rw [move] at limited
    generalize made : engine.step (Point.limit total _) = move' at limited
    cases limited with
    | same => exact .inl ⟨fits, .stop made⟩
    | past leads => cases leads
  | fail move =>
    rcases engine.step_limited_or_stopped fits move rfl (List.prefix_refl _) with
      ⟨fits, made⟩ | stopped
    · exact .inl ⟨fits, .fail made⟩
    · exact .inr stopped
  | go move later ih =>
    rcases engine.step_limited_or_stopped fits move rfl later.received_prefix with
      ⟨fits, made⟩ | stopped
    · rcases ih fits with ⟨fits, later⟩ | ⟨past, last, later, received⟩
      · exact .inl ⟨fits, .go made later⟩
      · exact .inr ⟨past, last, .go made later, received⟩
    · exact .inr stopped
  | tooDeep move =>
    rcases engine.step_limited_or_stopped fits move rfl (List.prefix_refl _) with
      ⟨fits, made⟩ | stopped
    · exact .inl ⟨fits, .tooDeep made⟩
    · exact .inr stopped
  | crash move unreadable =>
    rcases engine.step_limited_or_stopped fits move rfl (List.prefix_refl _) with
      ⟨fits, made⟩ | stopped
    · exact .inl ⟨fits, .crash made unreadable⟩
    · exact .inr stopped
  | enter move readable nested later ihNested ihLater =>
    have more := nested.received_prefix.trans later.received_prefix
    rcases engine.step_limited_or_stopped fits move rfl more with ⟨fits, made⟩ | stopped
    · rcases ihNested fits with ⟨fits, nested⟩ | stopped
      · rcases ihLater fits with ⟨fits, later⟩ | ⟨past, last, later, received⟩
        · exact .inl ⟨fits, .enter made readable nested later⟩
        · exact .inr ⟨past, last, .enter made readable nested later, received⟩
      · obtain ⟨past, last, nested, received⟩ := stopped.later later.received_prefix
        exact .inr ⟨past, last, .leave made readable nested nofun, received⟩
    · exact .inr stopped
  | leave move readable nested stops ih =>
    rcases engine.step_limited_or_stopped fits move rfl nested.received_prefix with
      ⟨fits, made⟩ | stopped
    · rcases ih fits with ⟨fits, nested⟩ | ⟨past, last, nested, received⟩
      · exact .inl ⟨fits, .leave made readable nested stops⟩
      · exact .inr ⟨past, last, .leave made readable nested nofun, received⟩
    · exact .inr stopped

end Limited

def State.withRoom (state : State) (room : Option Nat) : State :=
  { state with sink := { state.sink with room := room } }

namespace Engine

variable {engine : Engine} {state : State} {script : Text}

theorem withRoom_atRest (rest : state.AtRest) (room : Option Nat) : (state.withRoom room).AtRest :=
  ⟨rest.nesting, rest.frame, rest.resetPending, rest.depth⟩

theorem limit_entry (state : State) (script : Text) (limit : Nat) :
    ((state.withRoom none).entry script).limit (state.sink.received.length + limit) =
      (state.withRoom (some limit)).entry script := by
  have room : (state.withRoom none).sink.received = state.sink.received := rfl
  simp [Point.limit, Memory.limit, Sink.limit, State.entry, State.memory, room]
  simp [State.withRoom]

/-- A sink that takes at most `limit` bytes shows the first bytes of what a run prints. When they
are all, the run comes out the same, and otherwise it fails in a write. -/
theorem run_limited (standard : engine.dictionary = .standard) (rest : state.AtRest)
    (captured : state.Captured) (holds : state.arena.Holds script) (limit : Nat) :
    ∃ result after result' after' written,
      engine.run script (state.withRoom none) = .returned result after ∧
      engine.run script (state.withRoom (some limit)) = .returned result' after' ∧
      after.sink.received = state.sink.received ++ written ∧
      (written.length ≤ limit → result' = result ∧
        after'.sink.received = state.sink.received ++ written ∧ after'.stack = after.stack ∧
        after'.quotations = after.quotations ∧ after'.halted = after.halted) ∧
      (limit < written.length → result' = .error .outputFailed ∧
        after'.sink.received = state.sink.received ++ written.take limit) := by
  have limited := withRoom_atRest rest (some limit)
  obtain ⟨result, after, returned⟩ :=
    run_returns standard (withRoom_atRest rest none) holds captured.readable
  obtain ⟨_, _, _, reads⟩ := run_reads standard (withRoom_atRest rest none) returned
  obtain ⟨written, received⟩ := reads.received_prefix
  replace received : state.sink.received ++ written = after.memory.sink.received := received
  have start : ((state.withRoom none).entry script).memory.sink.Fits
      (state.sink.received.length + limit) := ⟨rfl, Nat.le_add_right _ _⟩
  rcases reads.limited start with ⟨fits, reads⟩ | ⟨past, last, reads, cut⟩
  · rw [limit_entry] at reads
    obtain ⟨after', returned', _, _, memory⟩ := run_shows limited holds reads
    have within : written.length ≤ limit := by simpa [← received] using fits.received
    have received' := congrArg (·.sink.received) memory
    refine ⟨result, after, result, after', written, returned, returned', received.symm, ?_, ?_⟩
    · intro _
      exact ⟨rfl, received'.trans received.symm, congrArg Memory.stack memory,
        congrArg Memory.quotations memory, congrArg Memory.halted memory⟩
    · intro past
      omega
  · rw [limit_entry] at reads
    obtain ⟨after', returned', _, _, memory⟩ := run_shows limited holds reads
    rw [← received] at past cut
    rw [List.take_length_add_append, ← memory] at cut
    refine ⟨result, after, _, after', written, returned, returned', received.symm, ?_, ?_⟩
    · intro within
      simp only [List.length_append] at past
      omega
    · intro _
      exact ⟨rfl, cut⟩

theorem run_limited_number : ∃ after after',
    (Engine.mk .standard .default).run "[ 125 . ] do 7 .".toList
      ((State.resting ⟨[], 9⟩ .empty .empty).withRoom none) = .returned (.ok ()) after ∧
    (Engine.mk .standard .default).run "[ 125 . ] do 7 .".toList
      ((State.resting ⟨[], 9⟩ .empty .empty).withRoom (some 2)) =
      .returned (.error .outputFailed) after' ∧
    after.sink.received = Text.toBytes "125\n7\n".toList ∧
    after'.sink.received = Text.toBytes "12".toList := by
  have rest : (State.resting ⟨[], 9⟩ .empty .empty).AtRest := State.resting_atRest (by decide)
  have reads : Reads (.mk .standard .default)
      (Arena.empty.append "[ 125 . ] do 7 .".toList).2 Settings.default.maxNesting
      (((State.resting ⟨[], 9⟩ .empty .empty).withRoom none).entry "[ 125 . ] do 7 .".toList)
      (some (.ok ())) _ :=
    .go rfl (.enter rfl rfl (.go rfl (.go rfl (.stop rfl))) (.go rfl (.go rfl (.stop rfl))))
  obtain ⟨after, prints, _, _, memory⟩ :=
    run_shows (withRoom_atRest rest none) (by decide) reads
  have printed := congrArg (·.sink.received) memory
  obtain ⟨_, _, _, after', written, returned, returned', received, _, past⟩ :=
    @run_limited (.mk .standard .default) _ "[ 125 . ] do 7 .".toList rfl rest
      Quotations.within_empty (by decide) 2
  obtain ⟨_, rfl⟩ := returned_inj (returned.symm.trans prints : _ = .returned (.ok ()) after)
  have whole : written = Text.toBytes "125\n7\n".toList := received.symm.trans printed
  subst whole
  obtain ⟨rfl, cut⟩ := past (by decide)
  exact ⟨_, after', prints, returned', printed, cut⟩

end Engine

end StackScript

import StackScript.Proofs.Invariants

set_option autoImplicit false

namespace StackScript

/-- How places and bodies in one arena go with those in another. Places that go together have the
same words before them. -/
structure Layout (arena arena' : Arena) where
  place : Nat → Text → Nat → Text → Prop
  body : Span → Span → Prop
  words : ∀ {offset offset' : Nat} {rest rest' : Text},
    place offset rest offset' rest' → rest.words = rest'.words
  behind : ∀ {offset offset' : Nat} {rest rest' : Text}, place offset rest offset' rest' →
    place (Token.scan offset rest).span.stop rest.afterWord
      (Token.scan offset' rest').span.stop rest'.afterWord
  quote : ∀ {offset offset' : Nat} {rest rest' inner inner' : Text},
    place offset rest offset' rest' → Builtin.bodyOf? rest = some inner →
    Builtin.bodyOf? rest' = some inner' →
    body { start := offset, length := inner.size } { start := offset', length := inner'.size } ∧
      place (offset + inner.size + 1) (rest.drop (inner.length + 1))
        (offset' + inner'.size + 1) (rest'.drop (inner'.length + 1))
  opens : ∀ {span span' : Span} {inner : Text}, body span span' → arena.slice? span = some inner →
    ∃ inner', arena'.slice? span' = some inner' ∧ place span.start inner span'.start inner'

/-- One stack stands on further cells, and has at least their room more. Where that can be told, the
faults that tell it are excepted. -/
structure Stack.Over (below : List Int32) (excepted : Fault → Prop) (stack stack' : Stack) :
    Prop where
  cells : stack'.cells = stack.cells ++ below
  capacity : stack.capacity + below.length ≤ stack'.capacity
  limits : (below = [] ∧ stack'.capacity = stack.capacity) ∨
    (excepted .stackUnderflow ∧ excepted .stackOverflow)

structure Sink.Along (base base' sink sink' : Sink) : Prop where
  room : sink.room = sink'.room
  received : ∃ written, sink.received = base.received ++ written ∧
    sink'.received = base'.received ++ written

structure Quotations.Paired (related : Span → Span → Prop) (quotations quotations' : Quotations) :
    Prop where
  size : quotations.size = quotations'.size
  bodies : ∀ {index : Nat} {body body' : Span}, quotations.bodies[index]? = some body →
    quotations'.bodies[index]? = some body' → related body body'

namespace Stack.Over

variable {below : List Int32} {excepted : Fault → Prop} {stack stack' after : Stack} {cell : Int32}
  {cause : Fault}

theorem depth (above : stack.Over below excepted stack') :
    stack'.depth = stack.depth + below.length := by
  rw [Stack.depth, above.cells, List.length_append]
  rfl

theorem room (above : stack.Over below excepted stack') : stack.room ≤ stack'.room := by
  have capacity := above.capacity
  rw [Stack.room, Stack.room, above.depth]
  omega

theorem eq_or_excepted (above : stack.Over below excepted stack') :
    stack' = stack ∨ (excepted .stackUnderflow ∧ excepted .stackOverflow) := by
  refine above.limits.imp (fun tight => ?_) id
  obtain ⟨rfl, capacity⟩ := tight
  have cells := above.cells
  rw [List.append_nil] at cells
  cases stack
  cases stack'
  cases cells
  cases capacity
  rfl

theorem push_ok (above : stack.Over below excepted stack') (pushed : stack.push cell = .ok after) :
    ∃ after', stack'.push cell = .ok after' ∧ after.Over below excepted after' := by
  have depth := above.depth
  have capacity := above.capacity
  rw [Stack.push] at pushed
  split at pushed
  · next room =>
    cases pushed
    refine ⟨{ stack' with cells := cell :: stack'.cells }, if_pos (by omega), ?_, capacity,
      above.limits⟩
    simp [above.cells]
  · cases pushed

theorem push_error (above : stack.Over below excepted stack')
    (pushed : stack.push cell = .error cause) :
    excepted cause ∨ stack'.push cell = .error cause := by
  rcases above.eq_or_excepted with same | ⟨_, overflow⟩
  · exact .inr (by rw [same, pushed])
  · rw [Stack.push] at pushed
    split at pushed
    · cases pushed
    · cases pushed
      exact .inl overflow

theorem pop_ok (above : stack.Over below excepted stack')
    (popped : stack.pop = .ok (cell, after)) :
    ∃ after', stack'.pop = .ok (cell, after') ∧ after.Over below excepted after' := by
  have top := above.cells
  rw [Stack.pop] at popped
  split at popped
  · cases popped
  · next rest cells =>
    cases popped
    rw [cells, List.cons_append] at top
    exact ⟨{ stack' with cells := rest ++ below }, by rw [Stack.pop, top], rfl, above.capacity,
      above.limits⟩

theorem pop_error (above : stack.Over below excepted stack') (popped : stack.pop = .error cause) :
    excepted cause ∨ stack'.pop = .error cause := by
  rcases above.eq_or_excepted with same | ⟨underflow, _⟩
  · exact .inr (by rw [same, popped])
  · rw [Stack.pop] at popped
    split at popped
    · cases popped
      exact .inl underflow
    · cases popped

theorem take (above : stack.Over below excepted stack') {count : Nat}
    (enough : count ≤ stack.depth) : stack'.cells.take count = stack.cells.take count := by
  rw [above.cells, List.take_append_of_le_length enough]

theorem replace (above : stack.Over below excepted stack') {count : Nat}
    (enough : count ≤ stack.depth) (cells : List Int32) :
    ({ stack with cells := cells ++ stack.cells.drop count } : Stack).Over below excepted
      { stack' with cells := cells ++ stack'.cells.drop count } where
  cells := by simp [above.cells, List.drop_append_of_le_length enough]
  capacity := above.capacity
  limits := above.limits

end Stack.Over

theorem Sink.Along.write {base base' sink sink' : Sink} (along : base.Along base' sink sink')
    (bytes : Bytes) : (sink.write bytes).1 = (sink'.write bytes).1 ∧
      base.Along base' (sink.write bytes).2 (sink'.write bytes).2 := by
  obtain ⟨written, first, second⟩ := along.received
  have received : ∃ written, (sink.write bytes).2.received = base.received ++ written ∧
      (sink'.write bytes).2.received = base'.received ++ written := by
    refine ⟨written ++ bytes.take (sink.room.getD bytes.length), ?_, ?_⟩
    · rw [received_write, first, List.append_assoc]
    · rw [received_write, second, along.room, List.append_assoc]
  have same := along.room
  cases room : sink.room with
  | none =>
    rw [room] at same
    exact ⟨by simp [Sink.write, room, ← same], by simp [Sink.write, room, ← same], received⟩
  | some left =>
    rw [room] at same
    exact ⟨by simp [Sink.write, room, ← same], by simp [Sink.write, room, ← same], received⟩

theorem Sink.Along.eq {base sink sink' : Sink} (along : base.Along base sink sink') :
    sink = sink' := by
  obtain ⟨written, first, second⟩ := along.received
  have stored : sink.stored = sink'.stored := List.reverse_inj.1 (first.trans second.symm)
  have room := along.room
  cases sink
  cases sink'
  simp_all

namespace Quotations.Paired

variable {related : Span → Span → Prop} {quotations quotations' : Quotations} {body body' : Span}

theorem capture (paired : quotations.Paired related quotations') (alike : related body body') :
    (quotations.capture body).2.Paired related (quotations'.capture body').2 where
  size := by
    have size := paired.size
    simp only [Quotations.size] at size
    simp [Quotations.capture, Quotations.size, size]
  bodies := by
    intro index first second found found'
    have size : quotations.bodies.size = quotations'.bodies.size := paired.size
    simp only [Quotations.capture, Array.getElem?_push] at found found'
    rw [size] at found
    split at found
    · next last =>
      rw [if_pos last] at found'
      cases found
      cases found'
      exact alike
    · next other =>
      rw [if_neg other] at found'
      exact paired.bodies found found'

theorem capture_handle (paired : quotations.Paired related quotations') :
    (quotations.capture body).1 = (quotations'.capture body').1 := by
  rw [Quotations.capture, Quotations.capture, paired.size]

theorem get? (paired : quotations.Paired related quotations') (handle : Int32) :
    (quotations.get? handle = none ∧ quotations'.get? handle = none) ∨
      ∃ body body', quotations.get? handle = some body ∧ quotations'.get? handle = some body' ∧
        related body body' := by
  have size : quotations.bodies.size = quotations'.bodies.size := paired.size
  rw [Quotations.get?, Quotations.get?]
  split
  · exact .inl ⟨rfl, rfl⟩
  · by_cases inside : handle.toInt.toNat < quotations.bodies.size
    · have found := Array.getElem?_eq_getElem inside
      have found' := Array.getElem?_eq_getElem (size ▸ inside)
      exact .inr ⟨_, _, found, found', paired.bodies found found'⟩
    · have outside := Array.getElem?_eq_none (Nat.le_of_not_lt inside)
      have outside' := Array.getElem?_eq_none (size ▸ Nat.le_of_not_lt inside)
      exact .inl ⟨outside, outside'⟩

end Quotations.Paired

theorem Layout.scan_name {arena arena' : Arena} (layout : Layout arena arena')
    {offset offset' : Nat} {rest rest' : Text} (place : layout.place offset rest offset' rest') :
    (Token.scan offset rest).name = (Token.scan offset' rest').name := by
  rw [Token.scan_name, Token.scan_name, layout.words place]

theorem Builtin.bodyOf?_isSome_of_words {rest rest' : Text} (same : rest.words = rest'.words)
    {inner : Text} (found : bodyOf? rest = some inner) :
    ∃ inner', bodyOf? rest' = some inner' := by
  apply Option.ne_none_iff_exists'.1
  intro none
  obtain ⟨bare, split⟩ := split_of_bodyOf? found
  have cut := Text.cutWords?_words bare (rest.drop (inner.length + 1))
  rw [← split, same, Text.cutWords?_eq_none (bodyOf?_eq_none_iff.1 none)] at cut
  cases cut

structure Comparison (arena arena' : Arena) extends Layout arena arena' where
  below : List Int32
  excepted : Fault → Prop
  -- The sinks before the readings.
  sink : Sink
  sink' : Sink

namespace Comparison

variable {arena arena' : Arena} (comparison : Comparison arena arena')

structure Memories (memory memory' : Memory) : Prop where
  stack : memory.stack.Over comparison.below comparison.excepted memory'.stack
  quotations : memory.quotations.Paired comparison.body memory'.quotations
  sink : comparison.sink.Along comparison.sink' memory.sink memory'.sink
  halted : memory.halted = memory'.halted

structure Points (point point' : Point) : Prop where
  place : comparison.place point.offset point.rest point'.offset point'.rest
  memories : comparison.Memories point.memory point'.memory

inductive Moves : Move → Move → Prop where
  | stop : Moves .stop .stop
  | fail {cause : Fault} {last last' : Point}
      (memories : comparison.Memories last.memory last'.memory) :
      Moves (.fail cause last) (.fail cause last')
  | excepted {cause : Fault} {last : Point} {move : Move} (excepted : comparison.excepted cause) :
      Moves (.fail cause last) move
  | go {next next' : Point} (points : comparison.Points next next') : Moves (.go next) (.go next')
  | enter {body body' : Span} {next next' : Point} (bodies : comparison.body body body')
      (points : comparison.Points next next') : Moves (.enter body next) (.enter body' next')
  | foreign {move : Move} : Moves .foreign move

variable {comparison} {point point' : Point}

namespace Moves

variable {move : Move} {next last : Point} {body : Span} {cause : Fault}

theorem of_stop (moves : comparison.Moves .stop move) : move = .stop := by
  cases moves
  rfl

theorem of_fail (moves : comparison.Moves (.fail cause last) move)
    (expected : ¬ comparison.excepted cause) :
    ∃ last', move = .fail cause last' ∧ comparison.Memories last.memory last'.memory := by
  cases moves with
  | fail memories => exact ⟨_, rfl, memories⟩
  | excepted excepted => exact absurd excepted expected

theorem of_go (moves : comparison.Moves (.go next) move) :
    ∃ next', move = .go next' ∧ comparison.Points next next' := by
  cases moves with
  | go points => exact ⟨_, rfl, points⟩

theorem of_enter (moves : comparison.Moves (.enter body next) move) :
    ∃ body' next', move = .enter body' next' ∧ comparison.body body body' ∧
      comparison.Points next next' := by
  cases moves with
  | enter bodies points => exact ⟨_, _, rfl, bodies, points⟩

end Moves

theorem push_moves (points : comparison.Points point point') (cell : Int32) :
    comparison.Moves (point.push cell) (point'.push cell) := by
  obtain ⟨place, memories⟩ := points
  simp only [Point.push]
  cases pushed : point.memory.stack.push cell with
  | ok stack =>
    obtain ⟨stack', pushed', above⟩ := memories.stack.push_ok pushed
    rw [pushed']
    exact .go ⟨place, { memories with stack := above }⟩
  | error cause =>
    rcases memories.stack.push_error pushed with excepted | pushed'
    · exact .excepted excepted
    · rw [pushed']
      exact .fail memories

theorem call_moves (points : comparison.Points point point') :
    comparison.Moves point.call point'.call := by
  obtain ⟨place, memories⟩ := points
  simp only [Point.call]
  cases popped : point.memory.stack.pop with
  | ok result =>
    obtain ⟨handle, stack⟩ := result
    obtain ⟨stack', popped', above⟩ := memories.stack.pop_ok popped
    rw [popped']
    dsimp only
    rcases memories.quotations.get? handle with
      ⟨absent, absent'⟩ | ⟨body, body', found, found', alike⟩
    · rw [absent, absent']
      exact .go ⟨place, { memories with stack := above }⟩
    · rw [found, found']
      exact .enter alike ⟨place, { memories with stack := above }⟩
  | error cause =>
    rcases memories.stack.pop_error popped with excepted | popped'
    · exact .excepted excepted
    · rw [popped']
      exact .fail memories

theorem quote_moves (points : comparison.Points point point') :
    comparison.Moves point.quote point'.quote := by
  obtain ⟨place, memories⟩ := points
  have words := comparison.words place
  simp only [Point.quote]
  cases found : Builtin.bodyOf? point.rest with
  | none =>
    have found' : Builtin.bodyOf? point'.rest = none := by
      by_contra some
      obtain ⟨inner', found'⟩ := Option.ne_none_iff_exists'.1 some
      obtain ⟨inner, found''⟩ := Builtin.bodyOf?_isSome_of_words words.symm found'
      cases found.symm.trans found''
    rw [found']
    exact .fail memories
  | some inner =>
    obtain ⟨inner', found'⟩ := Builtin.bodyOf?_isSome_of_words words found
    obtain ⟨alike, behind⟩ := comparison.quote place found found'
    rw [found']
    dsimp only
    rw [memories.quotations.capture_handle]
    apply push_moves
    exact ⟨behind, { memories with quotations := memories.quotations.capture alike }⟩

theorem replace_moves (points : comparison.Points point point') {builtin : Builtin}
    (inputs : builtin.inputs ≤ point.memory.stack.depth) :
    comparison.Moves (point.replace builtin) (point'.replace builtin) := by
  obtain ⟨place, memories⟩ := points
  simp only [Point.replace]
  rw [memories.stack.take inputs]
  split
  · exact .fail memories
  · obtain ⟨same, along⟩ := memories.sink.write
      (builtin.printed (point.memory.stack.cells.take builtin.inputs)).toBytes
    have changed : comparison.Memories
        { point.memory with
          stack := { point.memory.stack with
            cells := builtin.effect (point.memory.stack.cells.take builtin.inputs) ++
              point.memory.stack.cells.drop builtin.inputs }
          sink := (point.memory.sink.write
            (builtin.printed (point.memory.stack.cells.take builtin.inputs)).toBytes).2
          halted := point.memory.halted || builtin == .halt }
        { point'.memory with
          stack := { point'.memory.stack with
            cells := builtin.effect (point.memory.stack.cells.take builtin.inputs) ++
              point'.memory.stack.cells.drop builtin.inputs }
          sink := (point'.memory.sink.write
            (builtin.printed (point.memory.stack.cells.take builtin.inputs)).toBytes).2
          halted := point'.memory.halted || builtin == .halt } :=
      ⟨memories.stack.replace inputs _, memories.quotations, along, by rw [memories.halted]⟩
    rw [← same]
    split
    · exact .go ⟨place, changed⟩
    · exact .fail changed

theorem invoke_moves (points : comparison.Points point point') {builtin : Builtin}
    (inputs : builtin.inputs ≤ point.memory.stack.depth) :
    comparison.Moves (point.invoke builtin) (point'.invoke builtin) := by
  cases builtin with
  | quote => exact quote_moves points
  | call => exact call_moves points
  | _ => exact replace_moves points inputs

theorem dispatch_moves (points : comparison.Points point point') (word : Word) :
    comparison.Moves (point.dispatch word) (point'.dispatch word) := by
  have above := points.memories.stack
  have depth := above.depth
  have room := above.room
  simp only [Point.dispatch]
  by_cases few : point.memory.stack.depth < word.inputs
  · rw [if_pos few]
    rcases above.eq_or_excepted with same | ⟨underflow, _⟩
    · rw [if_pos (same ▸ few)]
      exact .fail points.memories
    · exact .excepted underflow
  · have few' : ¬ point'.memory.stack.depth < word.inputs := by omega
    rw [if_neg few, if_neg few']
    by_cases full : point.memory.stack.room < word.growth
    · rw [if_pos full]
      rcases above.eq_or_excepted with same | ⟨_, overflow⟩
      · rw [if_pos (same ▸ full)]
        exact .fail points.memories
      · exact .excepted overflow
    · have full' : ¬ point'.memory.stack.room < word.growth := by omega
      rw [if_neg full, if_neg full']
      cases declared : word.declared? with
      | none => exact .foreign
      | some builtin =>
        obtain ⟨_, takes, _⟩ := Word.spec_of_declared? declared
        exact invoke_moves points (takes ▸ Nat.le_of_not_lt few)

theorem obey_moves (points : comparison.Points point point') (name : Text) (meaning : Meaning) :
    comparison.Moves (point.obey name meaning) (point'.obey name meaning) := by
  cases meaning with
  | word word => exact dispatch_moves points word
  | number value => exact push_moves points value
  | unknown => exact .fail points.memories

variable {engine engine' : Engine}

theorem step_moves (same : engine'.dictionary = engine.dictionary)
    (points : comparison.Points point point') {move : Move} (made : engine.step point = move) :
    comparison.Moves move (engine'.step point') := by
  subst made
  have name := comparison.scan_name points.place
  have empty : (Token.scan point.offset point.rest).isEmpty =
      (Token.scan point'.offset point'.rest).isEmpty := congrArg List.isEmpty name
  simp only [Engine.step]
  rw [← points.memories.halted, ← name, ← empty, same]
  split
  · exact .stop
  · split
    · exact .stop
    · apply obey_moves
      exact ⟨comparison.behind points.place, points.memories⟩

theorem Points.opens (points : comparison.Points point point') {body body' : Span} {inner : Text}
    (bodies : comparison.body body body') (readable : arena.slice? body = some inner) :
    ∃ inner', arena'.slice? body' = some inner' ∧
      comparison.Points ⟨body.start, inner, point.memory⟩
        ⟨body'.start, inner', point'.memory⟩ := by
  obtain ⟨inner', readable', place⟩ := comparison.opens bodies readable
  exact ⟨inner', readable', place, points.memories⟩

theorem reads (same : engine'.dictionary = engine.dictionary) {spare : Nat}
    (limit : (spare = 0 ∧ engine'.settings.maxNesting = engine.settings.maxNesting) ∨
      ∀ limit, comparison.excepted (.nestingTooDeep limit))
    {levels : Nat} {upshot : Upshot} {final : Memory}
    (reads : Reads engine arena levels point upshot final) (returns : upshot ≠ none)
    (expected : ∀ cause, upshot = some (.error cause) → ¬ comparison.excepted cause)
    (points : comparison.Points point point') :
    ∃ final', Reads engine' arena' (levels + spare) point' upshot final' ∧
      comparison.Memories final final' := by
  -- Each step of the one reading is a step of the other, from points that go together.
  induction reads generalizing point' with
  | stop move =>
    have moves := step_moves same points move
    exact ⟨_, .stop moves.of_stop, points.memories⟩
  | fail move =>
    have moves := step_moves same points move
    obtain ⟨last', move', memories⟩ := moves.of_fail (expected _ rfl)
    exact ⟨_, .fail move', memories⟩
  | go move _ ih =>
    have moves := step_moves same points move
    obtain ⟨next', move', points⟩ := moves.of_go
    obtain ⟨final', later, memories⟩ := ih returns expected points
    exact ⟨final', .go move' later, memories⟩
  | tooDeep move =>
    have moves := step_moves same points move
    obtain ⟨body', next', move', _, points⟩ := moves.of_enter
    rcases limit with ⟨rfl, limit⟩ | limit
    · rw [← limit]
      exact ⟨_, .tooDeep move', points.memories⟩
    · exact absurd (limit _) (expected _ rfl)
  | crash => exact absurd rfl returns
  | @enter levels _ next body inner memory _ _ move readable _ _ ihNested ihLater =>
    have moves := step_moves same points move
    obtain ⟨body', next', move', bodies, points⟩ := moves.of_enter
    obtain ⟨inner', readable', opened⟩ := points.opens bodies readable
    obtain ⟨memory', nested, memories⟩ := ihNested nofun nofun opened
    have resumed : comparison.Points { next with memory := memory }
        { next' with memory := memory' } := ⟨points.place, memories⟩
    obtain ⟨final', later, memories⟩ := ihLater returns expected resumed
    rw [Nat.add_right_comm] at later ⊢
    exact ⟨final', .enter move' readable' nested later, memories⟩
  | leave move readable _ stopped ih =>
    have moves := step_moves same points move
    obtain ⟨body', next', move', bodies, points⟩ := moves.of_enter
    obtain ⟨inner', readable', opened⟩ := points.opens bodies readable
    obtain ⟨final', nested, memories⟩ := ih returns expected opened
    rw [Nat.add_right_comm]
    exact ⟨final', .leave move' readable' nested stopped, memories⟩

theorem Points.run {state : State} {script : Text}
    {comparison : Comparison arena (state.arena.append script).2}
    (points : comparison.Points point (state.entry script)) (engine' : Engine) {levels spare : Nat}
    {result : Except Fault Unit} {final : Memory}
    (reads : Reads engine arena levels point (some result) final)
    (same : engine'.dictionary = engine.dictionary)
    (enough : levels + spare = engine'.settings.maxNesting)
    (limit : (spare = 0 ∧ engine'.settings.maxNesting = engine.settings.maxNesting) ∨
      ∀ limit, comparison.excepted (.nestingTooDeep limit))
    (expected : ∀ cause, result = .error cause → ¬ comparison.excepted cause)
    (rest : state.AtRest) (holds : state.arena.Holds script) :
    ∃ after, engine'.run script state = .returned result after ∧
      after.arena = (state.arena.append script).2 ∧ comparison.Memories final after.memory := by
  obtain ⟨final', reads', memories⟩ := Comparison.reads same limit reads nofun
    (fun cause error => expected cause (Option.some_inj.1 error)) points
  rw [enough] at reads'
  obtain ⟨after, returned, _, arena, rfl⟩ := Engine.run_shows rest holds reads'
  exact ⟨after, returned, arena, memories⟩

end Comparison

def Layout.same {arena arena' : Arena}
    (keeps : ∀ {span : Span} {inner : Text}, arena.slice? span = some inner →
      arena'.slice? span = some inner) : Layout arena arena' where
  place := fun offset rest offset' rest' => offset = offset' ∧ rest = rest'
  body := Eq
  words := by
    rintro offset _ rest _ ⟨rfl, rfl⟩
    rfl
  behind := by
    rintro offset _ rest _ ⟨rfl, rfl⟩
    exact ⟨rfl, rfl⟩
  quote := by
    rintro offset _ rest _ inner inner' ⟨rfl, rfl⟩ found found'
    obtain rfl : inner = inner' := Option.some_inj.1 (found.symm.trans found')
    exact ⟨rfl, rfl, rfl⟩
  opens := by
    rintro span _ inner rfl readable
    exact ⟨inner, keeps readable, rfl, rfl⟩

end StackScript

import StackScript.Proofs.Invariants

set_option autoImplicit false

namespace StackScript

variable {tail : Text}

def Point.extend (point : Point) (tail : Text) : Point :=
  { point with rest := point.rest ++ tail }

def Move.extend (tail : Text) : Move → Move
  | stop => .stop
  | fail cause last => .fail cause (last.extend tail)
  | go next => .go (next.extend tail)
  | enter body next => .enter body (next.extend tail)
  | foreign => .foreign

namespace Point

variable {point : Point}

theorem push_extend (point : Point) (tail : Text) (cell : Int32) :
    (point.extend tail).push cell = (point.push cell).extend tail := by
  simp only [push, extend]
  cases point.memory.stack.push cell <;> rfl

theorem call_extend (point : Point) (tail : Text) :
    (point.extend tail).call = point.call.extend tail := by
  simp only [call, extend]
  cases point.memory.stack.pop with
  | error cause => rfl
  | ok result =>
    dsimp only
    cases point.memory.quotations.get? result.1 <;> rfl

theorem replace_extend (point : Point) (tail : Text) (builtin : Builtin) :
    (point.extend tail).replace builtin = (point.replace builtin).extend tail := by
  obtain ⟨offset, rest, memory⟩ := point
  rw [extend, replace, replace]
  dsimp only
  by_cases refused : builtin.refuses (memory.stack.cells.take builtin.inputs) = true
  · rw [if_pos refused, if_pos refused]
    rfl
  · rw [if_neg refused, if_neg refused]
    rcases (memory.sink.write _).1 with _ | _
    · rfl
    · rfl

theorem quote_extend (point : Point) (tail : Text) :
    point.quote = .fail .unterminatedQuotation point ∨
      (point.extend tail).quote = point.quote.extend tail := by
  cases found : Builtin.bodyOf? point.rest with
  | none => exact .inl (by rw [quote, found])
  | some body =>
    obtain ⟨absent, split⟩ := Builtin.split_of_bodyOf? found
    have found' : Builtin.bodyOf? (point.rest ++ tail) = some body := by
      rw [split, List.append_assoc, List.cons_append]
      exact Builtin.bodyOf?_append absent _
    have enough : body.length + 1 ≤ point.rest.length := by
      rw [split]
      simp
    have dropped : (point.rest ++ tail).drop (body.length + 1) =
        point.rest.drop (body.length + 1) ++ tail := List.drop_append_of_le_length enough
    refine .inr ?_
    simp only [quote, extend, found, found', dropped]
    exact push_extend ⟨_, point.rest.drop (body.length + 1), _⟩ tail _

theorem invoke_extend (point : Point) (tail : Text) (builtin : Builtin) :
    point.invoke builtin = .fail .unterminatedQuotation point ∨
      (point.extend tail).invoke builtin = (point.invoke builtin).extend tail := by
  by_cases quote : builtin = .quote
  · rw [quote]
    exact quote_extend point tail
  · by_cases call : builtin = .call
    · rw [call]
      exact .inr (call_extend point tail)
    · rw [invoke_eq_replace quote call, invoke_eq_replace quote call]
      exact .inr (replace_extend point tail builtin)

theorem obey_extend (point : Point) (tail : Text) (name : Text) (meaning : Meaning) :
    point.obey name meaning = .fail .unterminatedQuotation point ∨
      (point.extend tail).obey name meaning = (point.obey name meaning).extend tail := by
  cases meaning with
  | number value => exact .inr (push_extend point tail value)
  | unknown => exact .inr rfl
  | word word =>
    simp only [obey, dispatch]
    rw [extend]
    split
    · exact .inr rfl
    · split
      · exact .inr rfl
      · cases word.declared? with
        | none => exact .inr rfl
        | some builtin => exact invoke_extend point tail builtin

end Point

namespace Engine

variable {engine : Engine} {point : Point}

theorem step_extend {move : Move} {next : Point} (ends : Text.EndsWord tail)
    (moves : engine.step point = move) (leads : move.point? = some next)
    (closed : ∀ last, move ≠ .fail .unterminatedQuotation last) :
    engine.step (point.extend tail) = move.extend tail := by
  subst moves
  obtain ⟨running, nonempty, _⟩ := step_of_go leads
  obtain ⟨scanned, left⟩ := Token.scan_append nonempty ends
  have behind : (point.extend tail).behind = point.behind.extend tail := by
    simp only [Point.behind, Point.extend, scanned, left]
  have name : (Token.scan (point.extend tail).offset (point.extend tail).rest).name =
      (Token.scan point.offset point.rest).name := congrArg Token.name scanned
  have here := engine.step_word running rfl nonempty
  have running' : (point.extend tail).memory.halted = false := running
  have there := engine.step_word running' name nonempty
  rw [here] at closed ⊢
  rw [there, behind]
  rcases Point.obey_extend point.behind tail (Token.scan point.offset point.rest).name
    (engine.dictionary.meaning (Token.scan point.offset point.rest).name) with missing | same
  · exact absurd missing (closed _)
  · exact same

theorem step_end {next : Point} (moves : (engine.step point).point? = some next) :
    next.offset + next.rest.size = point.offset + point.rest.size := by
  obtain ⟨front, _, split, offset⟩ := step_advances moves
  rw [offset, split, Text.size_append, Nat.add_assoc]

theorem step_gap {offset : Nat} {gap rest : Text} {memory : Memory}
    (blank : ∀ char ∈ gap, isBlank char = true) :
    engine.step ⟨offset, gap ++ rest, memory⟩ = engine.step ⟨offset + gap.size, rest, memory⟩ := by
  simp only [step, Point.behind, Token.scan_gap blank, Token.afterWord_gap blank]

end Engine

namespace Reads

variable {engine : Engine} {arena arena' : Arena} {levels : Nat} {point : Point}
  {upshot : Upshot} {final last : Memory}

theorem widen (wider : ∀ {span : Span} {inner : Text}, arena.slice? span = some inner →
      arena'.slice? span = some inner)
    (reads : Reads engine arena levels point upshot final) (returns : upshot ≠ none) :
    Reads engine arena' levels point upshot final := by
  induction reads with
  | stop move => exact .stop move
  | fail move => exact .fail move
  | go move _ ih => exact .go move (ih returns)
  | tooDeep move => exact .tooDeep move
  | crash => exact absurd rfl returns
  | enter move readable _ _ ihNested ihLater =>
    exact .enter move (wider readable) (ihNested nofun) (ihLater returns)
  | leave move readable _ stopped ih => exact .leave move (wider readable) (ih returns) stopped

theorem of_step_eq {point' : Point} (reads : Reads engine arena levels point upshot final)
    (same : engine.step point' = engine.step point) (memory : point'.memory = point.memory) :
    Reads engine arena levels point' upshot final := by
  cases reads with
  | stop move =>
    rw [← memory]
    exact .stop (same.trans move)
  | fail move => exact .fail (same.trans move)
  | go move later => exact .go (same.trans move) later
  | tooDeep move => exact .tooDeep (same.trans move)
  | crash move unreadable => exact .crash (same.trans move) unreadable
  | enter move readable nested later => exact .enter (same.trans move) readable nested later
  | leave move readable nested stopped => exact .leave (same.trans move) readable nested stopped

end Reads

/-- How reading goes on from the end of a text into what follows it there: nothing more is read when
it was halted or has failed. -/
inductive Continues (engine : Engine) (arena : Arena) (levels offset : Nat) (tail : Text) :
    Except Fault Unit → Memory → Upshot → Memory → Prop where
  | on {middle last : Memory} {upshot : Upshot} (running : middle.halted = false)
      (later : Reads engine arena levels ⟨offset, tail, middle⟩ upshot last) :
      Continues engine arena levels offset tail (.ok ()) middle upshot last
  | halted {middle : Memory} (stopped : middle.halted = true) :
      Continues engine arena levels offset tail (.ok ()) middle (some (.ok ())) middle
  | failed {middle : Memory} {cause : Fault} (other : cause ≠ .unterminatedQuotation) :
      Continues engine arena levels offset tail (.error cause) middle (some (.error cause)) middle

namespace Continues

variable {engine : Engine} {arena : Arena} {levels : Nat} {point : Point} {upshot : Upshot}
  {last : Memory}

theorem of_stop (standard : engine.dictionary = .standard) (move : engine.step point = .stop)
    (continues : Continues engine arena levels (point.offset + point.rest.size) tail (.ok ())
      point.memory upshot last) : Reads engine arena levels (point.extend tail) upshot last := by
  cases continues with
  | on running later =>
    have empty : (Token.scan point.offset point.rest).name = [] := by
      by_contra nonempty
      have leads := Engine.step_isSome standard running nonempty
      rw [move] at leads
      cases leads
    exact later.of_step_eq (Engine.step_gap (Token.blank_of_scan_nil empty)) rfl
  | halted stopped =>
    have move' : engine.step (point.extend tail) = .stop := by
      simp [Engine.step, Point.extend, stopped]
    exact .stop move'

theorem of_fail {offset : Nat} {cause : Fault} {failing : Point} (ends : tail.EndsWord)
    (move : engine.step point = .fail cause failing)
    (continues : Continues engine arena levels offset tail (.error cause) failing.memory upshot
      last) : Reads engine arena levels (point.extend tail) upshot last := by
  cases continues with
  | failed other =>
    have closed : ∀ last, Move.fail cause failing ≠ .fail .unterminatedQuotation last := by
      intro last same
      cases same
      exact other rfl
    have ended : Reads engine arena levels _ _ (failing.extend tail).memory :=
      .fail (Engine.step_extend ends move rfl closed)
    exact ended

end Continues

namespace Reads

variable {engine : Engine} {arena arena' : Arena} {levels : Nat} {point : Point}
  {result : Except Fault Unit} {upshot upshot' : Upshot} {middle last : Memory}

theorem extend (standard : engine.dictionary = .standard) (ends : tail.EndsWord)
    (wider : ∀ {span : Span} {inner : Text}, arena.slice? span = some inner →
      arena'.slice? span = some inner)
    (reads : Reads engine arena levels point upshot middle) (returns : upshot = some result)
    (continues : Continues engine arena' levels (point.offset + point.rest.size) tail result middle
      upshot' last) :
    Reads engine arena' levels (point.extend tail) upshot' last := by
  induction reads with
  | stop move =>
    cases returns
    exact continues.of_stop standard move
  | fail move =>
    cases returns
    exact continues.of_fail ends move
  | go move _ ih =>
    have onward := Engine.step_end (by rw [move]; rfl)
    rw [← onward] at continues
    exact .go (Engine.step_extend ends move rfl (by simp)) (ih returns continues)
  | @tooDeep _ next _ move =>
    cases returns
    cases continues with
    | failed =>
      have ended : Reads engine arena' 0 _ _ (next.extend tail).memory :=
        .tooDeep (Engine.step_extend ends move rfl (by simp))
      exact ended
  | crash => cases returns
  | enter move readable nested _ _ ih =>
    have onward := Engine.step_end (by rw [move]; rfl)
    rw [← onward] at continues
    exact .enter (Engine.step_extend ends move rfl (by simp)) (wider readable)
      (nested.widen wider (by simp)) (ih returns continues)
  | leave move readable nested stopped _ =>
    have move' := Engine.step_extend ends move rfl (by simp)
    subst returns
    cases continues with
    | on | halted => exact absurd rfl stopped
    | failed => exact .leave move' (wider readable) (nested.widen wider (by simp)) stopped

end Reads

namespace Arena

variable {arena : Arena} {a b : Text}

theorem separator_append (some : arena.text ≠ [] ∨ a ≠ []) :
    (arena.append a).2.separator = ['\n'] := by
  have text : (arena.append a).2.text ≠ [] := by
    intro none
    simp only [append, List.append_eq_nil_iff] at none
    exact some.elim (fun other => other none.1.1) (fun other => other none.2)
  simpa [separator] using text

theorem append_append (some : arena.text ≠ [] ∨ a ≠ []) :
    ((arena.append a).2.append b).2 = (arena.append (a ++ '\n' :: b)).2 := by
  rw [append, separator_append some]
  simp [append]

theorem start_append (some : arena.text ≠ [] ∨ a ≠ []) :
    ((arena.append a).2.append b).1.start = (arena.append a).1.start + Text.size a + 1 := by
  rw [append, separator_append some, ← stop_append]
  rfl

end Arena

namespace Engine

variable {engine : Engine} {state middle : State} {a b : Text} {result : Except Fault Unit}

theorem run_continues {upshot : Except Fault Unit} {last : Memory}
    (standard : engine.dictionary = .standard) (rest : state.AtRest)
    (holds : state.arena.Holds (a ++ '\n' :: b)) (some : state.arena.text ≠ [] ∨ a ≠ [])
    (reads : Reads engine (state.arena.append a).2 engine.settings.maxNesting (state.entry a)
      (.some result) middle.memory)
    (continues : Continues engine (state.arena.append (a ++ '\n' :: b)).2
      engine.settings.maxNesting ((state.arena.append a).1.start + a.size) ('\n' :: b) result
      middle.memory (.some upshot) last) :
    ∃ after, engine.run (a ++ '\n' :: b) state = .returned upshot after ∧
      after.memory = last ∧ after.arena = (state.arena.append (a ++ '\n' :: b)).2 := by
  have ends : Text.EndsWord ('\n' :: b) := by
    intro char first
    cases first
    rfl
  have whole := reads.extend standard ends (fun readable => by
    rw [← Arena.append_append some]
    exact Arena.slice?_append readable b) rfl continues
  obtain ⟨after, returned, _, arena, memory⟩ := run_shows rest holds whole
  exact ⟨after, returned, memory, arena⟩

theorem run_in_turn (standard : engine.dictionary = .standard) (rest : state.AtRest)
    (captured : state.Captured) (some : state.arena.text ≠ [] ∨ a ≠ [])
    (holds : state.arena.Holds (a ++ '\n' :: b))
    (returned : engine.run a state = .returned (.ok ()) middle) (running : middle.halted = false) :
    ∃ result last last',
      engine.run b middle = .returned result last ∧
      engine.run (a ++ '\n' :: b) state = .returned result last' ∧
      last'.memory = last.memory ∧ last'.arena = last.arena := by
  obtain ⟨_, rest', arena, reads⟩ := run_reads standard rest returned
  have holds' : middle.arena.Holds b := by
    rw [Arena.Holds, arena, Arena.append_append some]
    exact holds
  obtain ⟨result, last, returned'⟩ := run_returns standard rest' holds'
    (run_captured standard rest captured returned).readable
  obtain ⟨_, _, arena', later⟩ := run_reads standard rest' returned'
  have entry : middle.entry b =
      ⟨(state.arena.append a).1.start + a.size + 1, b, middle.memory⟩ := by
    rw [State.entry, arena, Arena.start_append some]
    simp [State.memory, running]
  rw [entry, arena, Arena.append_append some] at later
  have gap : ∀ char ∈ ['\n'], isBlank char = true := by
    intro char member
    rw [List.mem_singleton.1 member]
    rfl
  have behind : Reads engine _ _ ⟨(state.arena.append a).1.start + a.size, '\n' :: b,
      middle.memory⟩ _ _ := later.of_step_eq (step_gap gap) rfl
  obtain ⟨last', returned'', memory, arena''⟩ := run_continues standard rest holds some reads
    (.on running behind)
  rw [arena, Arena.append_append some] at arena'
  exact ⟨result, last, last', returned', returned'', memory, arena''.trans arena'.symm⟩

theorem run_cut_short (standard : engine.dictionary = .standard) (rest : state.AtRest)
    (some : state.arena.text ≠ [] ∨ a ≠ []) (holds : state.arena.Holds (a ++ '\n' :: b))
    (returned : engine.run a state = .returned result middle)
    (halted : result = .ok () → middle.halted = true)
    (other : result ≠ .error .unterminatedQuotation) :
    ∃ last, engine.run (a ++ '\n' :: b) state = .returned result last ∧
      last.memory = middle.memory := by
  obtain ⟨_, _, _, reads⟩ := run_reads standard rest returned
  have ends : Continues engine (state.arena.append (a ++ '\n' :: b)).2 engine.settings.maxNesting
      ((state.arena.append a).1.start + a.size) ('\n' :: b) result middle.memory (.some result)
      middle.memory := by
    cases result with
    | ok => exact .halted (halted rfl)
    | error cause => exact .failed fun missing => other (by rw [missing])
  obtain ⟨last, returned', memory, _⟩ := run_continues standard rest holds some reads ends
  exact ⟨last, returned', memory⟩

/-- Two scripts that are run one after the other come to what they come to as one script. Where the
first one halts or fails, it does so there too. -/
theorem run_pieces (standard : engine.dictionary = .standard) (rest : state.AtRest)
    (captured : state.Captured) (some : state.arena.text ≠ [] ∨ a ≠ [])
    (holds : state.arena.Holds (a ++ '\n' :: b))
    (returned : engine.run a state = .returned result middle) :
    (result = .ok () → middle.halted = false → ∃ result' last last',
      engine.run b middle = .returned result' last ∧
      engine.run (a ++ '\n' :: b) state = .returned result' last' ∧
      last'.memory = last.memory ∧ last'.arena = last.arena) ∧
    ((result = .ok () → middle.halted = true) → result ≠ .error .unterminatedQuotation →
      ∃ last, engine.run (a ++ '\n' :: b) state = .returned result last ∧
        last.memory = middle.memory) := by
  constructor
  · rintro rfl running
    exact run_in_turn standard rest captured some holds returned running
  · intro halted other
    exact run_cut_short standard rest some holds returned halted other

theorem run_pieces_square :
    (∃ middle result last last',
      (Engine.mk .standard .default).run "[ dup * ] 3".toList (.resting ⟨[], 9⟩ .empty .empty) =
        .returned (.ok ()) middle ∧
      (Engine.mk .standard .default).run "swap do".toList middle = .returned result last ∧
      (Engine.mk .standard .default).run ("[ dup * ] 3".toList ++ '\n' :: "swap do".toList)
        (.resting ⟨[], 9⟩ .empty .empty) = .returned result last' ∧
      last'.memory = last.memory ∧ last'.arena = last.arena) ∧
    ∃ middle last,
      (Engine.mk .standard .default).run "3 *".toList (.resting ⟨[], 9⟩ .empty .empty) =
        .returned (.error .stackUnderflow) middle ∧
      (Engine.mk .standard .default).run ("3 *".toList ++ '\n' :: "[".toList)
        (.resting ⟨[], 9⟩ .empty .empty) = .returned (.error .stackUnderflow) last ∧
      last.memory = middle.memory := by
  constructor
  · obtain ⟨middle, returned, running⟩ : ∃ middle, (Engine.mk .standard .default).run
        "[ dup * ] 3".toList (.resting ⟨[], 9⟩ .empty .empty) = .returned (.ok ()) middle ∧
        middle.halted = false := ⟨_, rfl, rfl⟩
    have holds : Arena.empty.Holds ("[ dup * ] 3".toList ++ '\n' :: "swap do".toList) := by decide
    obtain ⟨result, last, last', pieces⟩ := (run_pieces rfl (State.resting_atRest (by decide))
      Quotations.within_empty (.inr (by decide)) holds returned).1 rfl running
    exact ⟨middle, result, last, last', returned, pieces⟩
  · obtain ⟨middle, returned⟩ : ∃ middle, (Engine.mk .standard .default).run "3 *".toList
        (.resting ⟨[], 9⟩ .empty .empty) = .returned (.error .stackUnderflow) middle := ⟨_, rfl⟩
    have holds : Arena.empty.Holds ("3 *".toList ++ '\n' :: "[".toList) := by decide
    obtain ⟨last, pieces⟩ := (run_pieces rfl (State.resting_atRest (by decide))
      Quotations.within_empty (.inr (by decide)) holds returned).2 nofun nofun
    exact ⟨middle, last, returned, pieces⟩

end Engine

end StackScript

import StackScript.Proofs.Layout

set_option autoImplicit false

namespace StackScript

def State.quotationText? (state : State) (handle : Int32) : Option Text :=
  (state.quotations.get? handle).bind state.arena.slice?

section Calling

variable {engine : Engine} {state : State} {handle : Int32} {text : Text}

theorem Engine.act_quotationText (found : state.quotationText? handle = some text) :
    engine.act (.quotationText (some handle.toInt)) state = .done (.text text) state := by
  obtain ⟨body, known, readable⟩ := Option.bind_eq_some_iff.1 found
  simp [act, answer, prepare, Due.settle, Step.quotation?, Step.slice, known, readable]

theorem Engine.step_call (standard : engine.dictionary = .standard) {point : Point}
    (running : point.memory.halted = false)
    (name : (Token.scan point.offset point.rest).name = "do".toList)
    (deep : 0 < point.memory.stack.depth) : engine.step point = point.behind.call := by
  rw [engine.step_word running name (by decide), standard]
  have enough : ¬ point.memory.stack.depth < 1 := by omega
  exact if_neg enough

theorem Engine.step_do (standard : engine.dictionary = .standard) {offset : Nat} {memory : Memory}
    (running : memory.halted = false) (deep : 0 < memory.stack.depth) :
    engine.step ⟨offset, "do".toList, memory⟩ = (Point.mk (offset + 2) [] memory).call :=
  engine.step_call standard running rfl deep

theorem Reads.of_do {arena : Arena} {levels offset : Nat} {stack : Stack} {memory final : Memory}
    {upshot : Upshot} {body : Span} (standard : engine.dictionary = .standard)
    (running : memory.halted = false) (top : memory.stack.pop = .ok (handle, stack))
    (known : memory.quotations.get? handle = some body) (readable : arena.slice? body = some text)
    (reads : Reads engine arena levels ⟨offset, "do".toList, memory⟩ upshot final) :
    upshot = some (.error (.nestingTooDeep engine.settings.maxNesting)) ∨
      ∃ fewer, levels = fewer + 1 ∧
        Reads engine arena fewer ⟨body.start, text, { memory with stack := stack }⟩ upshot
          final := by
  have deep : 0 < memory.stack.depth := by
    by_contra shallow
    have none : memory.stack.cells = [] :=
      List.length_eq_zero_iff.1 (Nat.eq_zero_of_not_pos shallow)
    simp [Stack.pop, none] at top
  have enters : engine.step ⟨offset, "do".toList, memory⟩ =
      .enter body ⟨offset + 2, [], { memory with stack := stack }⟩ := by
    rw [Engine.step_do standard running deep]
    simp [Point.call, top, known]
  cases reads with
  | stop move => cases enters.symm.trans move
  | fail move => cases enters.symm.trans move
  | go move => cases enters.symm.trans move
  | tooDeep => exact .inl rfl
  | crash move unreadable =>
    cases enters.symm.trans move
    cases readable.symm.trans unreadable
  | enter move found nested later =>
    cases enters.symm.trans move
    cases readable.symm.trans found
    obtain ⟨rfl, rfl⟩ := Reads.of_stop (Engine.step_blank rfl) later
    exact .inr ⟨_, rfl, nested⟩
  | leave move found nested =>
    cases enters.symm.trans move
    cases readable.symm.trans found
    exact .inr ⟨_, rfl, nested⟩

theorem State.alike_self (within : state.quotations.Within state.arena fun _ => True) :
    state.Alike state where
  stack := rfl
  room := rfl
  quotations := by
    refine ⟨rfl, ?_⟩
    intro index body body' found found'
    cases found.symm.trans found'
    obtain ⟨inner, readable, _⟩ := within body (Array.mem_of_getElem? found)
    exact ⟨inner, inner, readable, readable, rfl⟩

theorem State.Captured.bare {body : Span} (captured : state.Captured)
    (known : state.quotations.get? handle = some body)
    (readable : state.arena.slice? body = some text) : ']' ∉ text := by
  obtain ⟨inner, found, absent⟩ := captured body (Quotations.mem_of_get? known)
  obtain rfl : inner = text := Option.some_inj.1 (found.symm.trans readable)
  exact absent

theorem Engine.run_of_nested (standard : engine.dictionary = .standard) (rest : state.AtRest)
    (captured : state.Captured) {body : Span} (known : state.quotations.get? handle = some body)
    (readable : state.arena.slice? body = some text) (holds : state.arena.Holds text)
    {script : Text} {fewer : Nat} {result : Except Fault Unit} {final : Memory}
    (levels : engine.settings.maxNesting = fewer + 1)
    (nested : Reads engine (state.arena.append script).2 fewer
      ⟨body.start, text, { state.memory with halted := false }⟩ (some result) final)
    (shallow : Status.of result ≠ .nestingTooDeep) :
    ∃ after, engine.run text state = .returned result after ∧ after.memory = final := by
  have readable' := Arena.slice?_append readable script
  have points := (State.alike_self captured.readable).points
    (fun cause => cause.status = .nestingTooDeep) (Arena.stands_of_slice? readable')
    (entry_stands holds) rfl false
  obtain ⟨after, returned, arena, memories⟩ := points.run engine nested rfl levels.symm
    (.inr fun _ => rfl) (fun _ error tooDeep => shallow (by rw [error]; exact tooDeep)) rest holds
  obtain ⟨_, _, _, reads⟩ := run_reads standard rest returned
  -- Without a bracket to close neither of the two captures anything.
  have bare := captured.bare known readable
  have kept : final.quotations = state.quotations :=
    (Invariant.unchanged engine _ _ (captured.append _)).reads nested bare rfl
  have kept' : after.memory.quotations = state.quotations :=
    (Invariant.unchanged engine _ _ (captured.append _)).reads reads bare rfl
  refine ⟨after, returned, ?_⟩
  apply Memory.ext
  · exact (memories.stack_eq nofun).symm
  · exact kept'.trans kept.symm
  · exact memories.sink.eq.symm
  · exact memories.halted.symm

/-- Running `do` comes to what running the text of the quotation does, unless it runs out of
levels, and it does when that does. -/
theorem Engine.run_do (standard : engine.dictionary = .standard) (rest : state.AtRest)
    (captured : state.Captured) (found : state.quotationText? handle = some text)
    (room : state.stack.depth < state.stack.capacity) (holds : state.arena.Holds "do".toList)
    (holds' : state.arena.Holds text) :
    ∃ result after result' after',
      engine.run "do".toList (state.withCells (handle :: state.stack.cells)) =
        .returned result after ∧
      engine.run text state = .returned result' after' ∧
      (Status.of result ≠ .nestingTooDeep → result = result' ∧ after.stack = after'.stack ∧
        after.sink = after'.sink ∧ after.halted = after'.halted ∧
        after.quotations = after'.quotations) ∧
      (Status.of result' = .nestingTooDeep → Status.of result = .nestingTooDeep) := by
  have calling : (state.withCells (handle :: state.stack.cells)).AtRest :=
    ⟨rest.nesting, rest.frame, rest.resetPending, room⟩
  obtain ⟨result, after, returned⟩ := run_returns standard calling holds captured.readable
  obtain ⟨_, _, _, reads⟩ := run_reads standard calling returned
  obtain ⟨body, known, readable⟩ := Option.bind_eq_some_iff.1 found
  have readable' := Arena.slice?_append readable "do".toList
  by_cases deep : Status.of result = .nestingTooDeep
  · obtain ⟨result', after', returned'⟩ := run_returns standard rest holds' captured.readable
    exact ⟨result, after, result', after', returned, returned', fun other => absurd deep other,
      fun _ => deep⟩
  · rcases Reads.of_do standard rfl rfl known readable' reads with tooDeep | ⟨fewer, levels, nested⟩
    · cases tooDeep
      exact absurd rfl deep
    · obtain ⟨after', returned', memory⟩ := run_of_nested standard rest captured known readable
        holds' levels nested deep
      have stack : after.stack = after'.stack := (congrArg Memory.stack memory).symm
      have sink : after.sink = after'.sink := (congrArg Memory.sink memory).symm
      have halted : after.halted = after'.halted := (congrArg Memory.halted memory).symm
      have quotations : after.quotations = after'.quotations :=
        (congrArg Memory.quotations memory).symm
      exact ⟨result, after, result, after', returned, returned',
        fun _ => ⟨rfl, stack, sink, halted, quotations⟩, id⟩

theorem Engine.run_do_square :
    ∃ result after result' after',
      (Engine.mk .standard .default).run "do".toList
        ((State.resting ⟨[3], 9⟩ ⟨"[ dup * ]".toList⟩ ⟨#[⟨1, 7⟩]⟩).withCells [0, 3]) =
        .returned result after ∧
      (Engine.mk .standard .default).run " dup * ".toList
        (State.resting ⟨[3], 9⟩ ⟨"[ dup * ]".toList⟩ ⟨#[⟨1, 7⟩]⟩) = .returned result' after' ∧
      (Status.of result ≠ .nestingTooDeep → result = result' ∧ after.stack = after'.stack ∧
        after.sink = after'.sink ∧ after.halted = after'.halted ∧
        after.quotations = after'.quotations) ∧
      (Status.of result' = .nestingTooDeep → Status.of result = .nestingTooDeep) := by
  have readable : (Arena.mk "[ dup * ]".toList).slice? ⟨1, 7⟩ = some " dup * ".toList := rfl
  have captured : (State.resting ⟨[3], 9⟩ ⟨"[ dup * ]".toList⟩ ⟨#[⟨1, 7⟩]⟩).Captured :=
    Quotations.within_empty.capture readable (by decide)
  exact run_do rfl (State.resting_atRest (by decide)) captured rfl (by decide) (by decide)
    (by decide)

end Calling

end StackScript

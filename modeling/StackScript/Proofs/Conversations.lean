import StackScript.Console.Program
import StackScript.Proofs.Layout
import StackScript.Proofs.Pieces
import StackScript.Proofs.Transcripts

set_option autoImplicit false

namespace StackScript

def Invariant.prints (engine : Engine) (arena : Arena) (base : Bytes) : Invariant engine arena where
  place := fun _ _ => True
  memory := fun memory => memory.sink.room = none ∧
    ∃ cells, memory.sink.received = base ++ (printout cells).toBytes
  step := by
    rintro point next _ ⟨unlimited, cells, received⟩ move
    obtain ⟨more, prints⟩ := Engine.step_prints move
    refine ⟨trivial, by rw [prints, Sink.room_write unlimited], cells ++ more, ?_⟩
    simp [prints, unlimited, received, printout_append, Text.toBytes_append]
  enter := fun _ _ _ => trivial

theorem State.Alike.refl {state : State} (captured : state.Captured) : state.Alike state where
  stack := rfl
  room := rfl
  quotations := by
    refine ⟨rfl, fun found found' => ?_⟩
    obtain rfl := Option.some_inj.1 (found.symm.trans found')
    obtain ⟨inner, readable, _⟩ := captured _ (Array.mem_of_getElem? found)
    exact ⟨inner, inner, readable, readable, rfl⟩

theorem State.AtRest.hush {state : State} (rest : state.AtRest) : state.hush.AtRest :=
  ⟨rest.nesting, rest.frame, rest.resetPending, rest.depth⟩

theorem State.Alike.hush {state other : State} (alike : state.Alike other) :
    state.hush.Alike other :=
  ⟨alike.stack, alike.room, alike.quotations⟩

theorem Arena.holds_of_size_le {arena : Arena} {script longer : Text}
    (le : Text.size script ≤ Text.size longer) (holds : arena.Holds longer) :
    arena.Holds script := by
  simp only [Holds, append, size, Text.size_append] at holds ⊢
  omega

namespace Engine

variable {engine : Engine} {state after : State} {script : Text} {result : Except Fault Unit}

theorem run_prints (standard : engine.dictionary = .standard) (rest : state.AtRest)
    (unlimited : state.sink.room = none)
    (returned : engine.run script state = .returned result after) :
    after.sink.room = none ∧
      ∃ cells, after.sink.received = state.sink.received ++ (printout cells).toBytes := by
  obtain ⟨_, _, _, reads⟩ := run_reads standard rest returned
  have start : state.sink.received = state.sink.received ++ (printout []).toBytes := by
    simp [printout, Text.toBytes]
  exact (Invariant.prints engine _ state.sink.received).reads reads trivial ⟨unlimited, [], start⟩

theorem run_alike (standard : engine.dictionary = .standard) {other : State} {script' : Text}
    (rest : state.AtRest) (rest' : other.AtRest) (alike : state.Alike other)
    (words : script.words = script'.words) (holds : other.arena.Holds script')
    (returned : engine.run script state = .returned result after) :
    ∃ after', engine.run script' other = .returned result after' ∧ after.Alike after' ∧
      after.halted = after'.halted ∧ ∃ written,
        after.sink.received = state.sink.received ++ written ∧
        after'.sink.received = other.sink.received ++ written := by
  obtain ⟨held, _, arena, reads⟩ := run_reads standard rest returned
  have points := alike.points (fun _ => False) (entry_stands held) (entry_stands holds) words false
  obtain ⟨after', returned', arena', memories⟩ := points.run engine reads rfl
    (Nat.add_zero _) (.inl ⟨rfl, rfl⟩) (fun _ _ => id) rest' holds
  rw [← arena, ← arena'] at memories
  exact ⟨after', returned', memories.alike id, memories.halted, memories.sink.received⟩

theorem run_nil (standard : engine.dictionary = .standard) (rest : state.AtRest)
    (returned : engine.run [] state = .returned result after) :
    after.memory = { state.memory with halted := false } ∧
      after.arena = (state.arena.append []).2 := by
  obtain ⟨held, _, _, _⟩ := run_reads standard rest returned
  have reads : Reads engine (state.arena.append []).2 engine.settings.maxNesting (state.entry [])
      (some (.ok ())) _ := .stop rfl
  obtain ⟨_, returned', _, arena, memory⟩ := run_shows rest held reads
  obtain ⟨_, rfl⟩ := returned_inj (returned.symm.trans returned')
  exact ⟨memory, arena⟩

theorem run_nil_alike (standard : engine.dictionary = .standard) {other : State}
    (rest : state.AtRest) (alike : state.Alike other)
    (returned : engine.run [] state = .returned result after) : after.Alike other := by
  obtain ⟨memory, arena⟩ := run_nil standard rest returned
  have stack : after.stack = state.stack := congrArg Memory.stack memory
  have sink : after.sink = state.sink := congrArg Memory.sink memory
  have quotations : after.quotations = state.quotations := congrArg Memory.quotations memory
  refine ⟨stack.trans alike.stack, by rw [sink, alike.room], ?_⟩
  rw [quotations, arena]
  apply alike.quotations.mono
  rintro body body' ⟨inner, inner', readable, readable', words⟩
  exact ⟨inner, inner', Arena.slice?_append readable [], readable', words⟩

end Engine

namespace Console

/-- Lines are run one after the other, none fails or halts, and each comes to its exchange. -/
inductive Talk (engine : Engine) : State → List Text → List Exchange → Prop where
  | nil {state : State} : Talk engine state [] []
  | cons {state after : State} {line : Text} {lines : List Text} {cells : List Int32}
      {exchanges : List Exchange} (ran : engine.run line.trim state.hush = .done () after)
      (running : after.halted = false) (printed : after.sink.received = (printout cells).toBytes)
      (later : Talk engine after lines exchanges) :
      Talk engine state (line :: lines) (⟨cells, after.stack.toList⟩ :: exchanges)

variable {engine : Engine} {state file : State} {lines : List Text} {exchanges : List Exchange}

theorem joined_singleton (line : Text) : joined [line] = line :=
  List.intercalate_singleton

theorem joined_cons {line : Text} (nonempty : lines ≠ []) :
    joined (line :: lines) = line ++ '\n' :: joined lines := by
  rw [joined, List.intercalate_cons_of_ne_nil nonempty, List.append_assoc]
  rfl

def Retells (engine : Engine) (file : State) (script : Text) (exchanges : List Exchange) : Prop :=
  ∃ last, engine.run script file = .returned (.ok ()) last ∧
    last.sink.received =
      file.sink.received ++ (printout (exchanges.flatMap Exchange.printed)).toBytes ∧
    exchanges.getLast?.map Exchange.stack = some last.stack.toList

namespace Retells

variable {script line : Text} {first : Exchange}

theorem getLast?_cons {stack : List Int32}
    (top : exchanges.getLast?.map Exchange.stack = some stack) (first : Exchange) :
    (first :: exchanges).getLast?.map Exchange.stack = some stack := by
  obtain ⟨exchange, final, rfl⟩ := Option.map_eq_some_iff.1 top
  simp [List.getLast?_cons, final]

theorem newline (standard : engine.dictionary = .standard) (rest : file.AtRest)
    (captured : file.Captured) (holds : file.arena.Holds ('\n' :: script))
    (silent : (printout first.printed).toBytes = [])
    (retells : Retells engine file script exchanges) :
    Retells engine file ('\n' :: script) (first :: exchanges) := by
  obtain ⟨last, returned, received, top⟩ := retells
  have words : script.words = Text.words ('\n' :: script) := (Text.words_cons_blank rfl _).symm
  obtain ⟨last', returned', alike, _, written, before, after⟩ :=
    Engine.run_alike standard rest rest (.refl captured) words holds returned
  refine ⟨last', returned', ?_, ?_⟩
  · rw [after.trans (before.symm.trans received), List.flatMap_cons, printout_append,
      Text.toBytes_append, silent, List.nil_append]
  · rw [← alike.stack]
    exact getLast?_cons top first

theorem cons {middle : State} (standard : engine.dictionary = .standard) (rest : file.AtRest)
    (captured : file.Captured) (nonempty : line ≠ [])
    (holds : file.arena.Holds (line ++ '\n' :: script))
    (ran : engine.run line file = .returned (.ok ()) middle) (running : middle.halted = false)
    (printed : middle.sink.received = file.sink.received ++ (printout first.printed).toBytes)
    (retells : Retells engine middle script exchanges) :
    Retells engine file (line ++ '\n' :: script) (first :: exchanges) := by
  obtain ⟨last, returned, received, top⟩ := retells
  obtain ⟨result, last', whole, returned', together, memory, _⟩ :=
    Engine.run_in_turn standard rest captured (.inr nonempty) holds ran running
  obtain ⟨rfl, rfl⟩ := Engine.returned_inj (returned.symm.trans returned')
  have sink : whole.sink = last.sink := congrArg Memory.sink memory
  have stack : whole.stack = last.stack := congrArg Memory.stack memory
  refine ⟨whole, together, ?_, ?_⟩
  · simp [sink, received, printed, printout_append, Text.toBytes_append]
  · rw [stack]
    exact getLast?_cons top first

end Retells

theorem Talk.retells (talk : Talk engine state lines exchanges)
    (standard : engine.dictionary = .standard) (nonempty : lines ≠ [])
    (words : ∀ line ∈ lines, line.trim.words = line.words)
    (rest : state.AtRest) (rest' : file.AtRest) (captured : file.Captured)
    (alike : state.Alike file) (holds : file.arena.Holds (joined lines)) :
    Retells engine file (joined lines) exchanges := by
  induction talk generalizing file with
  | nil => exact absurd rfl nonempty
  | @cons state after line lines cells exchanges ran running printed later ih =>
    obtain ⟨same, others⟩ := List.forall_mem_cons.1 words
    have ran : engine.run line.trim state.hush = .returned (.ok ()) after := ran
    have hushed := rest.hush
    replace alike := alike.hush
    obtain ⟨_, restAfter, _, _⟩ := Engine.run_reads standard hushed ran
    by_cases more : lines = []
    · subst more
      cases later
      rw [joined_singleton] at holds ⊢
      obtain ⟨last, returned, alike, _, written, received, received'⟩ :=
        Engine.run_alike standard hushed rest' alike same holds ran
      have wrote : written = (printout cells).toBytes := received.symm.trans printed
      exact ⟨last, returned, by simp [received', wrote], by simp [alike.stack]⟩
    rw [joined_cons more] at holds ⊢
    by_cases empty : line = []
    · -- An empty line takes no place in an empty arena, so this is no case of `cons`.
      subst empty
      have memory := (Engine.run_nil standard hushed ran).1
      have again := Engine.run_nil_alike standard hushed alike ran
      have retells := ih more others restAfter rest' captured again
        (Arena.holds_of_size_le (by simp) holds)
      exact retells.newline standard rest' captured holds
        (printed.symm.trans (congrArg (·.sink.received) memory))
    · obtain ⟨middle, returned, alike, halted, written, received, received'⟩ :=
        Engine.run_alike standard hushed rest' alike same
          (Arena.holds_of_size_le (by simp) holds) ran
      have wrote : written = (printout cells).toBytes := received.symm.trans printed
      obtain ⟨_, restMiddle, arena, _⟩ := Engine.run_reads standard rest' returned
      have holds' : middle.arena.Holds (joined lines) := by
        rw [Arena.Holds, arena, Arena.append_append (.inr empty)]
        exact holds
      have retells := ih more others restAfter restMiddle
        (Engine.run_captured standard rest' captured returned) alike holds'
      exact retells.cons standard rest' captured empty holds returned (halted ▸ running)
        (by rw [received', wrote])

def RunsAll (engine : Engine) : State → List Bytes → Prop
  | _, [] => True
  | state, bytes :: rest => ∃ line after output, Text.ofBytes? bytes = some line ∧
      respond engine state line = .ready after output [] ∧ RunsAll engine after rest

theorem respond_ready {line output : Text} {after : State}
    (ready : respond engine state line = .ready after output []) :
    engine.run line.trim state.hush = .done () after ∧ after.halted = false ∧
      output = after.output ++ "=> ".toList ++ stackLine after := by
  unfold respond at ready
  dsimp only at ready
  split at ready
  · cases ready
  · split at ready
    · next ran =>
      unfold Reply.afterRun at ready
      dsimp only at ready
      split at ready
      · cases ready
      · next running =>
        cases ready
        exact ⟨ran, eq_false_of_ne_true running, rfl⟩
    · unfold Reply.afterRun at ready
      dsimp only at ready
      split at ready <;> cases ready
    · cases ready
    · cases ready

theorem respond_withoutReturn (engine : Engine) (state : State) (line : Text) :
    respond engine state line.withoutReturn = respond engine state line := by
  rw [respond, respond, Text.trim_withoutReturn]

theorem RunsAll.talk (standard : engine.dictionary = .standard) (rest : state.AtRest)
    (unlimited : state.sink.room = none)
    (runs : RunsAll engine state (lines.map fun line => line.withoutReturn.toBytes)) :
    ∃ exchanges, Talk engine state lines exchanges ∧
      converse engine state (lines.map fun line => line.withoutReturn.toBytes) =
        .exit 0 (transcript exchanges) [] := by
  induction lines generalizing state with
  | nil => exact ⟨[], .nil, rfl⟩
  | cons line lines ih =>
    obtain ⟨line', after, output, decoded, ready, later⟩ := runs
    obtain rfl := Option.some_inj.1 ((Text.ofBytes?_toBytes _).symm.trans decoded)
    have answered := ready
    rw [respond_withoutReturn] at ready
    obtain ⟨ran, running, rfl⟩ := respond_ready ready
    have returned : engine.run line.trim state.hush = .returned (.ok ()) after := ran
    obtain ⟨_, restAfter, _, _⟩ := Engine.run_reads standard rest.hush returned
    obtain ⟨unlimited, cells, printed⟩ :=
      Engine.run_prints standard rest.hush unlimited returned
    obtain ⟨exchanges, talk, conversed⟩ := ih restAfter unlimited later
    refine ⟨_, .cons ran running printed talk, ?_⟩
    have written : after.output = printout cells := by
      rw [State.output, printed]
      exact Text.ofCutBytes_toBytes _
    rw [List.map_cons, converse, decoded]
    simp [answered, conversed, Ending.after, transcript, marked, stackLine, written]

theorem RunsAll.cons_of_reads {arena : Arena} {memory final : Memory} {line : Text}
    {bytes : List Bytes} (rest : state.AtRest) (lies : state.arena = arena)
    (was : state.memory = memory) (stays : isFarewell line.trim = false)
    (holds : arena.Holds line.trim)
    (reads : Reads engine (arena.append line.trim).2 engine.settings.maxNesting
      ⟨(arena.append line.trim).1.start, line.trim,
        { memory with sink := { memory.sink with stored := [] }, halted := false }⟩
      (some (.ok ())) final)
    (running : final.halted = false)
    (later : ∀ after : State, after.AtRest → after.arena = (arena.append line.trim).2 →
      after.memory = final → RunsAll engine after bytes) :
    RunsAll engine state (line.toBytes :: bytes) := by
  subst lies was
  obtain ⟨after, returned, rest', arena, memory⟩ := Engine.run_shows rest.hush holds reads
  have ran : engine.run line.trim state.hush = .done () after := returned
  have halted : after.halted = false := (congrArg Memory.halted memory).trans running
  refine ⟨line, after, after.output ++ "=> ".toList ++ stackLine after, Text.ofBytes?_toBytes line,
    ?_, later after rest' arena memory⟩
  simp [respond, stays, ran, Reply.afterRun, halted]

def settingsOf (files : Files) (arguments : Arguments) : Except Ending Settings :=
  (loadSettings files arguments.config).map arguments.override

section Tasks

variable {files : Files} {input : Bytes} {arguments : Arguments}

theorem converse_of_ofRequest
    (conversing : Task.ofRequest files input (.run arguments) = .converse engine state) :
    settingsOf files arguments = .ok engine.settings ∧ engine.dictionary = .standard ∧
      engine.start? .unlimited = some state := by
  unfold Task.ofRequest at conversing
  dsimp only at conversing
  split at conversing
  · next settings loaded =>
    unfold Task.start at conversing
    dsimp only at conversing
    split at conversing
    · cases conversing
    · next started =>
      split at conversing
      · cases conversing
      · split at conversing <;> cases conversing
      · cases conversing
        exact ⟨by rw [settingsOf, loaded]; rfl, rfl, started⟩
  · cases conversing

theorem ofRequest_file {path script : Text}
    (settings : settingsOf files arguments = .ok engine.settings)
    (standard : engine.dictionary = .standard) (started : engine.start? .unlimited = some state)
    (eval : arguments.eval = none) (file : arguments.script = some path)
    (regular : isInput path = false) (content : files path = some script.toBytes) :
    Task.ofRequest files input (.run arguments) =
      .runScript engine state script arguments.printStack := by
  cases loaded : loadSettings files arguments.config with
  | error ending => simp [settingsOf, loaded, Except.map] at settings
  | ok read =>
    have same : arguments.override read = engine.settings := by
      simpa [settingsOf, loaded, Except.map] using settings
    have whole : Engine.mk .standard (arguments.override read) = engine := by
      rw [same, ← standard]
    simp [Task.ofRequest, loaded, Task.start, whole, started, eval, file, loadScript, regular,
      content, Text.ofBytes?_toBytes]

end Tasks

/-- Lines of a conversation that all run, without an error or a halt, come to the same as a script
in a file: it prints what the conversation shows apart from stacks, and the last stack. The file is
one whose offsets are machine words. -/
theorem script_of_conversation {given given' : List Text} {files files' : Files} {input' : Bytes}
    {arguments arguments' : Arguments} {path : Text}
    (asked : Request.ofArguments? given = some (.run arguments))
    (conversing : Task.ofRequest files (typed lines) (.run arguments) = .converse engine state)
    (nonempty : lines ≠ []) (bare : ∀ line ∈ lines, '\n' ∉ line)
    (plain : ∀ line ∈ lines, line.PlainEnds)
    (runs : RunsAll engine state (linesOf (typed lines)))
    (asked' : Request.ofArguments? given' = some (.run arguments'))
    (eval : arguments'.eval = none) (file : arguments'.script = some path)
    (shows : arguments'.printStack = true)
    (settings : settingsOf files' arguments' = settingsOf files arguments)
    (regular : isInput path = false) (content : files' path = some (joined lines).toBytes)
    (short : Text.size (joined lines) < wordLimit) :
    ∃ output stack, run given files (typed lines) = .exit 0 output [] ∧
      lastStackLine? output = some ("=> ".toList ++ stack) ∧
      run given' files' input' = .exit 0 (withoutStackLines output ++ stack ++ ['\n']) [] := by
  obtain ⟨loaded, standard, started⟩ := converse_of_ofRequest conversing
  have rest := Engine.start?_atRest started
  have captured := Engine.start?_captured started
  obtain ⟨stack, _, rfl⟩ := Option.map_eq_some_iff.1 started
  have reading := linesOf_typed bare
  rw [reading] at runs
  obtain ⟨exchanges, talk, conversed⟩ := runs.talk standard rest rfl
  have holds : Arena.empty.Holds (joined lines) := by
    simpa [Arena.Holds, Arena.append, Arena.empty, Arena.separator, Arena.size] using short
  -- The script is run by a new engine, which is alike to the one that reads the first line.
  obtain ⟨last, returned, received, top⟩ := talk.retells standard nonempty
    (fun line member => (plain line member).words_trim) rest rest captured (.refl captured) holds
  obtain ⟨exchange, final, left⟩ := Option.map_eq_some_iff.1 top
  have scripted : Task.ofRequest files' input' (.run arguments') =
      .runScript engine _ (joined lines) arguments'.printStack :=
    ofRequest_file (settings.trans loaded) standard started eval file regular content
  have ran : engine.run (joined lines) _ = .done () last := returned
  have printed : last.output = printout (exchanges.flatMap Exchange.printed) := by
    rw [State.output, received]
    exact Text.ofCutBytes_toBytes _
  refine ⟨transcript exchanges, listing exchange.stack, ?_, ?_, ?_⟩
  · rw [run, asked]
    dsimp only
    rw [conversing, Task.ending, reading, conversed]
  · rw [lastStackLine?_transcript, final]
    rfl
  · rw [run, asked']
    dsimp only
    rw [scripted, Task.ending, ran]
    simp [shows, printed, withoutStackLines_transcript, stackLine, left]

theorem script_of_conversation_square : ∃ output stack,
    run [] (fun _ => none)
      (typed ["[ dup * ]".toList, " 3 swap do .\r".toList, "7".toList]) = .exit 0 output [] ∧
    lastStackLine? output = some ("=> ".toList ++ stack) ∧
    run ["-s".toList, "square".toList]
      (fun _ => some (Text.toBytes "[ dup * ]\n 3 swap do .\r\n7".toList)) [] =
      .exit 0 (withoutStackLines output ++ stack ++ ['\n']) [] := by
  have runs : RunsAll (.mk .standard .default) (.resting ⟨[], 100⟩ .empty .empty)
      (linesOf (typed ["[ dup * ]".toList, " 3 swap do .\r".toList, "7".toList])) := by
    rw [linesOf_typed (by decide)]
    apply @RunsAll.cons_of_reads _ _ _ _ _ "[ dup * ]".toList _
      (State.resting_atRest (by decide)) rfl rfl rfl (by decide) (.go rfl (.stop rfl)) rfl
    intro after rest arena memory
    apply @RunsAll.cons_of_reads _ _ _ _ _ " 3 swap do .".toList _
      rest arena memory rfl (by decide)
      (.go rfl (.go rfl (.enter rfl rfl (.go rfl (.go rfl (.stop rfl))) (.go rfl (.stop rfl))))) rfl
    intro after rest arena memory
    apply @RunsAll.cons_of_reads _ _ _ _ _ "7".toList _
      rest arena memory rfl (by decide) (.go rfl (.stop rfl)) rfl
    intro after rest arena memory
    trivial
  exact script_of_conversation rfl rfl (by decide) (by decide) (by decide) runs rfl rfl rfl rfl rfl
    (by decide) rfl (by decide)

end Console

end StackScript

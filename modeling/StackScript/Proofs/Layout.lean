import StackScript.Proofs.Simulation

set_option autoImplicit false

namespace StackScript

def Span.SameWords (arena arena' : Arena) (span span' : Span) : Prop :=
  ∃ inner inner', arena.slice? span = some inner ∧ arena'.slice? span' = some inner' ∧
    Token.names? inner = Token.names? inner'

/-- Two engines' states that words cannot tell apart. -/
structure State.Alike (first second : State) : Prop where
  stack : first.stack = second.stack
  room : first.sink.room = second.sink.room
  quotations : first.quotations.Paired (Span.SameWords first.arena second.arena) second.quotations

theorem Token.names?_eq_iff {text text' : Text} :
    names? text = names? text' ↔ text.words = text'.words := by
  rw [names?_eq_words, names?_eq_words, Option.some_inj]

variable {arena arena' : Arena}

theorem Span.SameWords.append {span span' : Span} (same : Span.SameWords arena arena' span span')
    (p q : Text) : Span.SameWords (arena.append p).2 (arena'.append q).2 span span' := by
  obtain ⟨inner, inner', readable, readable', words⟩ := same
  exact ⟨inner, inner', Arena.slice?_append readable p, Arena.slice?_append readable' q, words⟩

theorem Quotations.Paired.mono {related related' : Span → Span → Prop}
    {quotations quotations' : Quotations} (paired : quotations.Paired related quotations')
    (implied : ∀ {body body' : Span}, related body body' → related' body body') :
    quotations.Paired related' quotations' :=
  ⟨paired.size, fun found found' => implied (paired.bodies found found')⟩

theorem Arena.Stands.bracket {offset : Nat} {inner back : Text}
    (stands : arena.Stands offset (inner ++ ']' :: back)) :
    arena.Stands (offset + inner.size + 1) back := by
  have split : inner ++ ']' :: back = (inner ++ [']']) ++ back := by simp
  rw [split] at stands
  have behind := stands.split.2
  rwa [Text.size_append, ← Nat.add_assoc] at behind

def Layout.ofWords (arena arena' : Arena) : Layout arena arena' where
  place := fun offset rest offset' rest' =>
    arena.Stands offset rest ∧ arena'.Stands offset' rest' ∧ rest.words = rest'.words
  body := Span.SameWords arena arena'
  words := fun place => place.2.2
  behind := by
    intro offset offset' rest rest' place
    obtain ⟨stands, stands', words⟩ := place
    refine ⟨stands.afterWord, stands'.afterWord, ?_⟩
    rw [Token.words_afterWord, Token.words_afterWord, words]
  quote := by
    intro offset offset' rest rest' inner inner' place found found'
    obtain ⟨stands, stands', words⟩ := place
    obtain ⟨bare, split⟩ := Builtin.split_of_bodyOf? found
    obtain ⟨bare', split'⟩ := Builtin.split_of_bodyOf? found'
    have cut := Text.cutWords?_words bare (rest.drop (inner.length + 1))
    have cut' := Text.cutWords?_words bare' (rest'.drop (inner'.length + 1))
    rw [← split, words, split', cut'] at cut
    simp only [Option.some.injEq, Prod.mk.injEq] at cut
    rw [split] at stands
    rw [split'] at stands'
    exact ⟨⟨inner, inner', stands.split.1, stands'.split.1, Token.names?_eq_iff.2 cut.1.symm⟩,
      stands.bracket, stands'.bracket, cut.2.symm⟩
  opens := by
    rintro span span' inner ⟨text, inner', readable, readable', words⟩ found
    obtain rfl : text = inner := Option.some_inj.1 (readable.symm.trans found)
    exact ⟨inner', readable', Arena.stands_of_slice? readable, Arena.stands_of_slice? readable',
      Token.names?_eq_iff.1 words⟩

def Comparison.ofWords (arena arena' : Arena) (excepted : Fault → Prop) (sink sink' : Sink) :
    Comparison arena arena' :=
  { Layout.ofWords arena arena' with
    below := []
    excepted := excepted
    sink := sink
    sink' := sink' }

namespace State.Alike

variable {first second : State} {p q : Text}

theorem points {offset offset' : Nat} {rest rest' : Text} (alike : first.Alike second)
    (excepted : Fault → Prop) (stands : (first.arena.append p).2.Stands offset rest)
    (stands' : (second.arena.append q).2.Stands offset' rest') (words : rest.words = rest'.words)
    (halted : Bool) :
    (Comparison.ofWords (first.arena.append p).2 (second.arena.append q).2 excepted first.sink
      second.sink).Points ⟨offset, rest, { first.memory with halted := halted }⟩
        ⟨offset', rest', { second.memory with halted := halted }⟩ where
  place := ⟨stands, stands', words⟩
  memories :=
    { stack := {
        cells := by simp [State.memory, alike.stack, Comparison.ofWords]
        capacity := by simp [State.memory, alike.stack, Comparison.ofWords]
        limits := .inl ⟨rfl, by simp [State.memory, alike.stack]⟩ }
      quotations := alike.quotations.mono fun same => same.append p q
      sink := ⟨alike.room, [], by simp [State.memory, Comparison.ofWords]⟩
      halted := rfl }

theorem within (alike : first.Alike second) :
    first.quotations.Within first.arena fun _ => True := by
  intro body member
  obtain ⟨index, bound, rfl⟩ := Array.mem_iff_getElem.1 member
  have size : first.quotations.bodies.size = second.quotations.bodies.size := alike.quotations.size
  have bound' : index < second.quotations.bodies.size := size ▸ bound
  obtain ⟨inner, _, readable, _⟩ := alike.quotations.bodies (Array.getElem?_eq_getElem bound)
    (Array.getElem?_eq_getElem bound')
  exact ⟨inner, readable, trivial⟩

end State.Alike

namespace Comparison.Memories

variable {excepted : Fault → Prop} {sink sink' : Sink}

theorem stack_eq {memory memory' : Memory} (tight : ¬ excepted .stackUnderflow)
    (memories : (Comparison.ofWords arena arena' excepted sink sink').Memories memory memory') :
    memory.stack = memory'.stack := by
  rcases memories.stack.eq_or_excepted with same | ⟨underflow, _⟩
  · exact same.symm
  · exact absurd underflow tight

theorem alike {first second : State} (tight : ¬ excepted .stackUnderflow)
    (memories : (Comparison.ofWords first.arena second.arena excepted sink sink').Memories
      first.memory second.memory) : first.Alike second where
  stack := memories.stack_eq tight
  room := memories.sink.room
  quotations := memories.quotations

end Comparison.Memories

/-- Scripts with the same words come to the same on states that words cannot tell apart. -/
theorem Engine.run_same_words {engine : Engine} (standard : engine.dictionary = .standard)
    {first second : State} (rest : first.AtRest) (rest' : second.AtRest)
    (alike : first.Alike second) {p q : Text} (same : Token.names? p = Token.names? q)
    (holds : first.arena.Holds p) (holds' : second.arena.Holds q) :
    ∃ result after after' written,
      engine.run p first = .returned result after ∧
      engine.run q second = .returned result after' ∧
      after.Alike after' ∧ after.halted = after'.halted ∧
      after.sink.received = first.sink.received ++ written ∧
      after'.sink.received = second.sink.received ++ written := by
  obtain ⟨result, after, returned⟩ := run_returns standard rest holds alike.within
  obtain ⟨_, _, arena, reads⟩ := run_reads standard rest returned
  have points := alike.points (fun _ => False) (entry_stands holds) (entry_stands holds')
    (Token.names?_eq_iff.1 same) false
  obtain ⟨after', returned', arena', memories⟩ := points.run engine reads rfl
    (Nat.add_zero _) (.inl ⟨rfl, rfl⟩) (fun _ _ => id) rest' holds'
  rw [← arena, ← arena'] at memories
  obtain ⟨written, received, received'⟩ := memories.sink.received
  exact ⟨result, after, after', written, returned, returned', memories.alike id, memories.halted,
    received, received'⟩

theorem Engine.run_same_words_square :
    ∃ result after after' written,
      (Engine.mk .standard .default).run "3 swap do .".toList
        (.resting ⟨[0], 9⟩ ⟨"[ dup * ]".toList⟩ ⟨#[⟨1, 7⟩]⟩) = .returned result after ∧
      (Engine.mk .standard .default).run "\n3\tswap  do .".toList
        (.resting ⟨[0], 9⟩ ⟨"1 [\ndup\n*]".toList⟩ ⟨#[⟨3, 6⟩]⟩) = .returned result after' ∧
      after.Alike after' ∧ after.halted = after'.halted ∧
      after.sink.received = [] ++ written ∧ after'.sink.received = [] ++ written := by
  apply run_same_words rfl (State.resting_atRest (by decide)) (State.resting_atRest (by decide))
  · have none : Quotations.empty.Paired (Span.SameWords ⟨"[ dup * ]".toList⟩
        ⟨"1 [\ndup\n*]".toList⟩) .empty := ⟨rfl, nofun⟩
    have same : Span.SameWords ⟨"[ dup * ]".toList⟩ ⟨"1 [\ndup\n*]".toList⟩ ⟨1, 7⟩ ⟨3, 6⟩ :=
      ⟨" dup * ".toList, "\ndup\n*".toList, rfl, rfl, by decide⟩
    exact ⟨rfl, rfl, none.capture same⟩
  · decide
  · decide
  · decide

end StackScript

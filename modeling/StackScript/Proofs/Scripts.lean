import Mathlib.Data.List.Forall2
import StackScript.Proofs.Invariants

set_option autoImplicit false

namespace StackScript.Arena

def appendAll (arena : Arena) : List Text → List Span × Arena
  | [] => ([], arena)
  | script :: rest =>
    let (span, longer) := arena.append script
    let (spans, last) := longer.appendAll rest
    (span :: spans, last)

variable {arena : Arena} {script inner : Text} {scripts : List Text} {span : Span}

theorem appendAll_cons (arena : Arena) (script : Text) (scripts : List Text) :
    arena.appendAll (script :: scripts) =
      ((arena.append script).1 :: ((arena.append script).2.appendAll scripts).1,
        ((arena.append script).2.appendAll scripts).2) := rfl

theorem size_le_start (arena : Arena) (script : Text) :
    arena.size ≤ (arena.append script).1.start :=
  Nat.le_add_right _ _

theorem size_le_append (arena : Arena) (script : Text) :
    arena.size ≤ (arena.append script).2.size := by
  rw [← stop_append]
  exact Nat.le_trans (size_le_start arena script) (Nat.le_add_right _ _)

theorem exists_appendAll_text (arena : Arena) (scripts : List Text) :
    ∃ more, (arena.appendAll scripts).2.text = arena.text ++ more := by
  induction scripts generalizing arena with
  | nil => exact ⟨[], (List.append_nil _).symm⟩
  | cons script scripts ih =>
    obtain ⟨more, longer⟩ := ih (arena.append script).2
    refine ⟨arena.separator ++ script ++ more, ?_⟩
    rw [appendAll_cons, longer, append]
    simp only [List.append_assoc]

theorem slice?_appendAll (readable : arena.slice? span = some inner) (scripts : List Text) :
    (arena.appendAll scripts).2.slice? span = some inner := by
  obtain ⟨more, longer⟩ := exists_appendAll_text arena scripts
  have same : (arena.appendAll scripts).2 = { text := arena.text ++ more } := by
    rw [← longer]
  rw [same]
  exact slice?_more readable more

theorem size_le_appendAll (arena : Arena) (scripts : List Text) :
    arena.size ≤ (arena.appendAll scripts).2.size := by
  obtain ⟨more, longer⟩ := exists_appendAll_text arena scripts
  rw [size, size, longer, Text.size_append]
  exact Nat.le_add_right _ _

theorem size_le_of_mem_appendAll (member : span ∈ (arena.appendAll scripts).1) :
    arena.size ≤ span.start := by
  induction scripts generalizing arena with
  | nil => cases member
  | cons script scripts ih =>
    rcases List.mem_cons.1 member with rfl | later
    · exact size_le_start arena script
    · exact Nat.le_trans (size_le_append arena script) (ih later)

theorem appendAll_ordered (arena : Arena) (scripts : List Text) :
    (arena.appendAll scripts).1.Pairwise fun earlier later => earlier.stop ≤ later.start := by
  induction scripts generalizing arena with
  | nil => exact .nil
  | cons script scripts ih =>
    have behind : ∀ later ∈ ((arena.append script).2.appendAll scripts).1,
        (arena.append script).1.stop ≤ later.start := by
      intro later member
      rw [stop_append]
      exact size_le_of_mem_appendAll member
    exact .cons behind (ih (arena.append script).2)

theorem appendAll_cuts (arena : Arena) (scripts later : List Text) :
    List.Forall₂ (fun span script =>
        ((arena.appendAll scripts).2.appendAll later).2.text.slice? span.start span.stop =
          some script) (arena.appendAll scripts).1 scripts := by
  induction scripts generalizing arena with
  | nil => exact .nil
  | cons script scripts ih =>
    refine .cons ?_ (ih (arena.append script).2)
    have placed := Text.slice?_last (arena.text ++ arena.separator) script
    rw [Text.size_append] at placed
    obtain ⟨more, longer⟩ := exists_appendAll_text (arena.append script).2 scripts
    obtain ⟨last, longest⟩ := exists_appendAll_text
      ((arena.append script).2.appendAll scripts).2 later
    rw [appendAll_cons, longest, longer]
    exact Text.slice?_append (Text.slice?_append placed)

theorem fits_of_mem_appendAll (holds : (arena.appendAll scripts).2.size < wordLimit)
    (member : span ∈ (arena.appendAll scripts).1) : span.fits = true := by
  induction scripts generalizing arena with
  | nil => cases member
  | cons script scripts ih =>
    have first : (arena.append script).1.fits = true :=
      fits_append (Nat.lt_of_le_of_lt (size_le_appendAll _ scripts) holds)
    rcases List.mem_cons.1 member with rfl | later
    · exact first
    · exact ih holds later

theorem words_append (arena : Arena) (script : Text) :
    (arena.append script).2.text.words = arena.text.words ++ script.words := by
  rw [append, separator]
  cases empty : arena.text with
  | nil => simp
  | cons char text =>
    rw [List.append_assoc]
    exact Text.words_append_blank rfl (char :: text) script

theorem words_appendAll (arena : Arena) (scripts : List Text) :
    (arena.appendAll scripts).2.text.words = arena.text.words ++ scripts.flatMap Text.words := by
  induction scripts generalizing arena with
  | nil => exact (List.append_nil _).symm
  | cons script scripts ih =>
    rw [appendAll_cons, ih, words_append, List.flatMap_cons, List.append_assoc]

theorem mapM_names? (scripts : List Text) :
    scripts.mapM Token.names? = some (scripts.map Text.words) := by
  induction scripts with
  | nil => rfl
  | cons script scripts ih => simp [List.mapM_cons, ih, Token.names?_eq_words]

/-- However many scripts are appended to an empty arena, and whatever they are, each one is cut out
where it was put, whichever follow, and read there if the places of the arena are machine words.
They lie there in their order and do not overlap, whatever can be read at all keeps its text, and
the words of the arena are those of the scripts, one script after the other. -/
theorem scripts_apart (scripts later : List Text) :
    let arena := (empty.appendAll scripts).2
    let last := (arena.appendAll later).2
    List.Forall₂ (fun span script => last.text.slice? span.start span.stop = some script ∧
        (arena.size < wordLimit → last.slice? span = some script))
      (empty.appendAll scripts).1 scripts ∧
    (empty.appendAll scripts).1.Pairwise (fun first second => first.stop ≤ second.start) ∧
    (∀ span inner, arena.slice? span = some inner → last.slice? span = some inner) ∧
    ∃ words, scripts.mapM Token.names? = some words ∧
      Token.names? arena.text = some words.flatten := by
  intro arena last
  have fits : ∀ span ∈ (empty.appendAll scripts).1, arena.size < wordLimit → span.fits = true :=
    fun span member holds => fits_of_mem_appendAll holds member
  have cuts := (List.forall₂_and_left _ _).2 ⟨fits, empty.appendAll_cuts scripts later⟩
  refine ⟨cuts.imp ?_, empty.appendAll_ordered scripts, ?_, scripts.map Text.words,
    mapM_names? scripts, ?_⟩
  · rintro span script ⟨fits, cut⟩
    exact ⟨cut, fun holds => slice?_eq_some_iff.2 ⟨fits holds, cut⟩⟩
  · intro span inner readable
    exact slice?_appendAll readable later
  · rw [Token.names?_eq_words, words_appendAll, List.flatMap_def]
    rfl

theorem scripts_apart_blank : ∃ first second third fourth words,
    (empty.appendAll (["", "é ", "", " 1\n"].map String.toList)).1 =
      [first, second, third, fourth] ∧
    let last := ((empty.appendAll (["", "é ", "", " 1\n"].map String.toList)).2.appendAll
      ["x".toList]).2
    first = ⟨0, 0⟩ ∧ second = ⟨0, 3⟩ ∧ third = ⟨4, 0⟩ ∧ fourth = ⟨5, 3⟩ ∧
    last.slice? fourth = some " 1\n".toList ∧
    words = ["é".toList, "1".toList] ∧
    Token.names? (empty.appendAll (["", "é ", "", " 1\n"].map String.toList)).2.text =
      some words := by
  obtain ⟨placed, _, _, words, each, whole⟩ :=
    scripts_apart (["", "é ", "", " 1\n"].map String.toList) ["x".toList]
  cases each.symm.trans (rfl : _ = some [[], ["é".toList], [], ["1".toList]])
  rcases placed with _ | ⟨_, _ | ⟨_, _ | ⟨_, _ | ⟨fourth, _⟩⟩⟩⟩
  exact ⟨_, _, _, _, _, rfl, rfl, rfl, rfl, rfl, fourth.2 (by decide), rfl, whole⟩

end StackScript.Arena

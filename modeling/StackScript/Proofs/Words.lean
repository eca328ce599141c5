import Mathlib.Data.List.Induction
import StackScript.Token
import StackScript.Proofs.Cuts

set_option autoImplicit false

namespace StackScript

namespace Text

variable {text front back gap name rest : Text} {char : Char}

def words (text : Text) : List Text :=
  (text.splitOnP isBlank).filter fun word => !word.isEmpty

def afterWord (rest : Text) : Text :=
  (rest.dropWhile isBlank).dropWhile fun char => !isBlank char

def EndsWord (rest : Text) : Prop :=
  ∀ char ∈ rest.head?, isBlank char = true

@[simp] theorem words_nil : words [] = [] := by
  simp [words]

theorem words_append_blank (blank : isBlank char = true) (front back : Text) :
    words (front ++ char :: back) = words front ++ words back := by
  unfold words
  rw [List.splitOnP_append_cons front back blank, List.filter_append]

theorem words_cons_blank (blank : isBlank char = true) (rest : Text) :
    words (char :: rest) = words rest := by
  simpa using words_append_blank blank [] rest

theorem words_gap (blank : ∀ char ∈ gap, isBlank char = true) (rest : Text) :
    words (gap ++ rest) = words rest := by
  induction gap with
  | nil => rfl
  | cons char gap ih =>
    rw [List.cons_append, words_cons_blank (blank char (by simp))]
    exact ih fun other member => blank other (by simp [member])

theorem words_of_nonblank (nonempty : name ≠ []) (solid : ∀ char ∈ name, isBlank char = false) :
    words name = [name] := by
  rw [words, List.splitOnP_eq_singleton solid]
  simp [nonempty]

theorem words_name_append (nonempty : name ≠ []) (solid : ∀ char ∈ name, isBlank char = false)
    (ends : EndsWord rest) : words (name ++ rest) = name :: words rest := by
  cases rest with
  | nil => simpa using words_of_nonblank nonempty solid
  | cons char rest =>
    have blank : isBlank char = true := ends char rfl
    rw [words_append_blank blank, words_of_nonblank nonempty solid, words_cons_blank blank]
    rfl

theorem words_solid_append (solid : ∀ char ∈ name, isBlank char = false) (ends : EndsWord rest) :
    words (name ++ rest) = words name ++ words rest := by
  by_cases empty : name = []
  · simp [empty]
  · rw [words_name_append empty solid ends, words_of_nonblank empty solid]
    rfl

theorem endsWord_dropWhile (text : Text) :
    EndsWord (text.dropWhile fun char => !isBlank char) := by
  intro char head
  have stopped := List.head?_dropWhile_not (fun char => !isBlank char) text
  rw [Option.mem_def.1 head] at stopped
  simpa using stopped

theorem endsWord_afterWord (rest : Text) : EndsWord rest.afterWord :=
  endsWord_dropWhile _

theorem mem_of_mem_splitOnP {word : Text} (member : word ∈ text.splitOnP isBlank)
    (inside : char ∈ word) : char ∈ text := by
  induction text generalizing word with
  | nil => simp_all
  | cons head tail ih =>
    rw [List.splitOnP_cons_eq_if_modifyHead] at member
    split at member
    · rcases List.mem_cons.1 member with rfl | later
      · simp at inside
      · exact List.mem_cons_of_mem _ (ih later inside)
    · obtain ⟨first, others, pieces⟩ :=
        List.exists_cons_of_ne_nil (List.splitOnP_ne_nil isBlank tail)
      rw [pieces, List.modifyHead_cons] at member
      rcases List.mem_cons.1 member with rfl | later
      · rcases List.mem_cons.1 inside with rfl | inside
        · simp
        · exact List.mem_cons_of_mem _ (ih (by simp [pieces]) inside)
      · exact List.mem_cons_of_mem _ (ih (by simp [pieces, later]) inside)

theorem mem_of_mem_words {word : Text} (member : word ∈ words text) (inside : char ∈ word) :
    char ∈ text :=
  mem_of_mem_splitOnP (List.mem_filter.1 member).1 inside

theorem exists_solid_end (text : Text) :
    ∃ front solid, text = front ++ solid ∧ (∀ char ∈ solid, isBlank char = false) ∧
      ∀ rest, words (front ++ rest) = words front ++ words rest := by
  induction text using List.reverseRecOn with
  | nil => exact ⟨[], [], by simp⟩
  | append_singleton text char ih =>
    by_cases blank : isBlank char = true
    · refine ⟨text ++ [char], [], by simp, by simp, fun rest => ?_⟩
      rw [List.append_assoc, List.singleton_append, words_append_blank blank,
        words_append_blank blank, words_nil, List.append_nil]
    · obtain ⟨front, solid, rfl, nonblank, apart⟩ := ih
      refine ⟨front, solid ++ [char], by simp, ?_, apart⟩
      intro other member
      rcases List.mem_append.1 member with earlier | last
      · exact nonblank other earlier
      · simp_all

theorem exists_solid_start (text : Text) :
    ∃ solid back, text = solid ++ back ∧ (∀ char ∈ solid, isBlank char = false) ∧
      EndsWord back := by
  refine ⟨text.takeWhile fun char => !isBlank char, text.dropWhile fun char => !isBlank char,
    List.takeWhile_append_dropWhile.symm, fun char member => ?_, endsWord_dropWhile text⟩
  have solid := List.all_takeWhile (p := fun char => !isBlank char) (l := text)
  simpa using List.all_eq_true.1 solid char member

def cutWords? : List Text → Option (List Text × List Text)
  | [] => none
  | word :: later =>
    if word.contains ']' then
      some (words (word.takeWhile (· != ']')), words (word.dropWhile (· != ']')).tail ++ later)
    else (cutWords? later).map fun (before, behind) => (word :: before, behind)

theorem cutWords?_append {earlier : List Text} (open_ : ∀ word ∈ earlier, ']' ∉ word)
    (later : List Text) :
    cutWords? (earlier ++ later) =
      (cutWords? later).map fun (before, behind) => (earlier ++ before, behind) := by
  induction earlier with
  | nil => simp
  | cons word earlier ih =>
    have first : word.contains ']' = false := by simpa using open_ word (by simp)
    rw [List.cons_append, cutWords?, first, ih fun other member => open_ other (by simp [member])]
    cases cutWords? later <;> rfl

theorem cutWords?_eq_none (absent : ']' ∉ text) : cutWords? (words text) = none := by
  have open_ : ∀ word ∈ words text, ']' ∉ word :=
    fun word member inside => absent (mem_of_mem_words member inside)
  simpa [cutWords?] using cutWords?_append open_ []

theorem cutWords?_words (absent : ']' ∉ front) (back : Text) :
    cutWords? (words (front ++ ']' :: back)) = some (words front, words back) := by
  obtain ⟨before, solid, rfl, nonblank, apart⟩ := exists_solid_end front
  obtain ⟨after, behind, rfl, nonblank', ends⟩ := exists_solid_start back
  have first : ']' ∉ solid := fun member => absent (by simp [member])
  have open_ : ∀ word ∈ words before, ']' ∉ word :=
    fun word member inside => absent (by simp [mem_of_mem_words member inside])
  have around : words (solid ++ ']' :: after ++ behind) =
      (solid ++ ']' :: after) :: words behind := by
    apply words_name_append (by simp) _ ends
    intro char member
    rcases List.mem_append.1 member with earlier | later
    · exact nonblank char earlier
    · rcases List.mem_cons.1 later with rfl | later
      · rfl
      · exact nonblank' char later
  have stop : ∀ char ∈ solid, (char != ']') = true := by
    intro char member
    have other : char ≠ ']' := fun same => first (same ▸ member)
    simpa using other
  rw [show before ++ solid ++ ']' :: (after ++ behind) =
    before ++ (solid ++ ']' :: after ++ behind) by simp, apart, around, cutWords?_append open_,
    cutWords?, if_pos (by simp), List.takeWhile_append_of_pos stop,
    List.dropWhile_append_of_pos stop, apart, words_solid_append nonblank' ends]
  simp

end Text

namespace Token

open Text

variable {offset count : Nat} {front rest : Text}

theorem scan_split (offset : Nat) (rest : Text) :
    rest = rest.takeWhile isBlank ++ (scan offset rest).name ++ rest.afterWord := by
  rw [List.append_assoc, afterWord, scan, List.takeWhile_append_dropWhile,
    List.takeWhile_append_dropWhile]

theorem scan_stop (offset : Nat) (rest : Text) :
    (scan offset rest).span.stop =
      offset + size (rest.takeWhile isBlank ++ (scan offset rest).name) := by
  rw [size_append, ← Nat.add_assoc]
  rfl

theorem scan_solid (offset : Nat) (rest : Text) :
    ∀ char ∈ (scan offset rest).name, isBlank char = false := by
  intro char member
  have solid := List.all_takeWhile (p := fun char => !isBlank char) (l := rest.dropWhile isBlank)
  simpa using List.all_eq_true.1 solid char member

theorem gap_blank (rest : Text) : ∀ char ∈ rest.takeWhile isBlank, isBlank char = true :=
  fun char member => List.all_eq_true.1 List.all_takeWhile char member

theorem afterWord_eq_nil (empty : (scan offset rest).name = []) : rest.afterWord = [] := by
  cases found : rest.dropWhile isBlank with
  | nil => simp [afterWord, found]
  | cons char later =>
    have solid := List.head?_dropWhile_not isBlank rest
    simp_all [scan]

theorem words_of_scan (rest : Text) :
    rest.words = words (scan offset rest).name ++ rest.afterWord.words := by
  conv_lhs => rw [scan_split offset rest, List.append_assoc, words_gap (gap_blank rest)]
  exact words_solid_append (scan_solid offset rest) (endsWord_afterWord rest)

theorem words_of_scan_nil (empty : (scan offset rest).name = []) : rest.words = [] := by
  rw [words_of_scan rest, empty, afterWord_eq_nil empty]
  rfl

theorem words_of_scan_ne_nil (nonempty : (scan offset rest).name ≠ []) :
    rest.words = (scan offset rest).name :: rest.afterWord.words := by
  conv_lhs => rw [words_of_scan rest, words_of_nonblank nonempty (scan_solid offset rest)]
  rfl

theorem scan_name (offset : Nat) (rest : Text) :
    (scan offset rest).name = rest.words.headD [] := by
  by_cases empty : (scan offset rest).name = []
  · rw [words_of_scan_nil empty, empty]
    rfl
  · rw [words_of_scan_ne_nil empty]
    rfl

theorem words_afterWord (rest : Text) : rest.afterWord.words = rest.words.tail := by
  by_cases empty : (scan 0 rest).name = []
  · rw [words_of_scan_nil empty, afterWord_eq_nil empty]
    rfl
  · rw [words_of_scan_ne_nil empty]
    rfl

theorem scan_of_words (offset : Nat) {later : List Text} {name : Text}
    (words : rest.words = name :: later) :
    (scan offset rest).name = name ∧ rest.afterWord.words = later := by
  rw [scan_name, words_afterWord, words]
  exact ⟨rfl, rfl⟩

theorem length_afterWord (nonempty : (scan offset rest).name ≠ []) :
    rest.afterWord.length < rest.length := by
  have split := congrArg List.length (scan_split offset rest)
  have positive := List.length_pos_iff.2 nonempty
  simp only [List.length_append] at split
  omega

theorem length_words_le (rest : Text) : rest.words.length ≤ rest.length := by
  induction measured : rest.length using Nat.strongRecOn generalizing rest with
  | ind length ih =>
    by_cases empty : (scan 0 rest).name = []
    · simp [words_of_scan_nil empty]
    · have shorter := length_afterWord empty
      have later := ih _ (measured ▸ shorter) rest.afterWord rfl
      rw [words_of_scan_ne_nil empty, List.length_cons]
      omega

section Append

variable {gap tail : Text}

theorem scan_gap (blank : ∀ char ∈ gap, isBlank char = true) :
    scan offset (gap ++ rest) = scan (offset + size gap) rest := by
  simp [scan, List.takeWhile_append_of_pos blank, List.dropWhile_append_of_pos blank,
    Nat.add_assoc]

theorem afterWord_gap (blank : ∀ char ∈ gap, isBlank char = true) :
    Text.afterWord (gap ++ rest) = rest.afterWord := by
  simp [Text.afterWord, List.dropWhile_append_of_pos blank]

theorem blank_of_scan_nil (empty : (scan offset rest).name = []) :
    ∀ char ∈ rest, isBlank char = true := by
  have split := scan_split offset rest
  rw [empty, afterWord_eq_nil empty, List.append_nil, List.append_nil] at split
  rw [split]
  exact gap_blank rest

theorem dropWhile_gap {char : Char} (rest : Text) (blank : ∀ char ∈ gap, isBlank char = true)
    (solid : isBlank char = false) :
    (gap ++ char :: rest).takeWhile isBlank = gap ∧
      (gap ++ char :: rest).dropWhile isBlank = char :: rest := by
  simp [List.takeWhile_append_of_pos blank, List.dropWhile_append_of_pos blank, solid]

theorem takeWhile_name {name : Text} (solid : ∀ char ∈ name, isBlank char = false)
    (ends : EndsWord rest) :
    ((name ++ rest).takeWhile fun char => !isBlank char) = name ∧
      ((name ++ rest).dropWhile fun char => !isBlank char) = rest := by
  have inside : ∀ char ∈ name, (!isBlank char) = true := by simpa using solid
  rw [List.takeWhile_append_of_pos inside, List.dropWhile_append_of_pos inside]
  cases rest with
  | nil => simp
  | cons char rest => simp [show isBlank char = true from ends char rfl]

theorem scan_word (offset : Nat) {name : Text} (blank : ∀ char ∈ gap, isBlank char = true)
    (nonempty : name ≠ []) (solid : ∀ char ∈ name, isBlank char = false) (ends : EndsWord rest) :
    scan offset (gap ++ (name ++ rest)) =
      { span := { start := offset + size gap, length := size name }, name := name } ∧
      Text.afterWord (gap ++ (name ++ rest)) = rest := by
  obtain ⟨taken, dropped⟩ := takeWhile_name solid ends
  obtain ⟨char, others, rfl⟩ := List.exists_cons_of_ne_nil nonempty
  rw [List.cons_append] at taken dropped ⊢
  obtain ⟨before, behind⟩ := dropWhile_gap (others ++ rest) blank (solid char (by simp))
  rw [scan, Text.afterWord, before, behind, taken, dropped]
  exact ⟨rfl, rfl⟩

theorem endsWord_append {front : Text} (ends : EndsWord front) (ends' : EndsWord tail) :
    EndsWord (front ++ tail) := by
  cases front with
  | nil => exact ends'
  | cons char front => exact ends

theorem scan_append (nonempty : (scan offset rest).name ≠ []) (ends : EndsWord tail) :
    scan offset (rest ++ tail) = scan offset rest ∧
      Text.afterWord (rest ++ tail) = rest.afterWord ++ tail := by
  have solid := scan_solid offset rest
  have whole := scan_word offset (gap_blank rest) nonempty solid
    (endsWord_afterWord rest)
  have longer := scan_word offset (gap_blank rest) nonempty solid
    (endsWord_append (endsWord_afterWord rest) ends)
  rw [← List.append_assoc _ _ rest.afterWord, ← scan_split] at whole
  rw [← List.append_assoc _ _ (rest.afterWord ++ tail), ← List.append_assoc, ← scan_split] at longer
  exact ⟨longer.1.trans whole.1.symm, longer.2⟩

end Append

def names? (text : Text) : Option (List Text) :=
  (wordsFrom? text 0).map (List.map Token.name)

theorem names_takeWords? (front rest : Text) (enough : rest.words.length ≤ count) :
    (takeWords? (front ++ rest) count (size front)).map (List.map Token.name) =
      some rest.words := by
  induction count generalizing front rest with
  | zero => simp [takeWords?, List.length_eq_zero_iff.1 (Nat.le_zero.1 enough)]
  | succ count ih =>
    have dropped : (front ++ rest).dropBytes? (size front) = some rest :=
      dropBytes?_eq_some_iff.2 ⟨front, rfl, rfl⟩
    have next : next? (front ++ rest) (size front) = some (scan (size front) rest) := by
      simp [next?, dropped]
    rw [takeWords?, next]
    by_cases empty : (scan (size front) rest).name = []
    · simp [isEmpty, empty, words_of_scan_nil empty]
    · have fewer : rest.afterWord.words.length ≤ count := by
        simp [words_of_scan_ne_nil empty] at enough
        exact enough
      have later := ih (front ++ (rest.takeWhile isBlank ++ (scan (size front) rest).name))
        rest.afterWord fewer
      rw [List.append_assoc, ← scan_split, size_append, ← scan_stop] at later
      obtain ⟨tokens, taken, named⟩ := Option.map_eq_some_iff.1 later
      simp [isEmpty, empty, taken, named, words_of_scan_ne_nil empty]

theorem names?_eq_words (text : Text) : names? text = some text.words :=
  names_takeWords? [] text (length_words_le text)

end Token

end StackScript

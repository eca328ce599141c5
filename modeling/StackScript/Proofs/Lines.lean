import Mathlib.Data.List.DropRight
import StackScript.Console.Conversation
import StackScript.Proofs.Words

set_option autoImplicit false

namespace StackScript

-- Vertical tab, and white space that is not ASCII: it is trimmed, but it sets no words apart.
def isUncommon (char : Char) : Bool :=
  char == '\x0b' || (128 ≤ char.toNat && isSpace char)

theorem isBlank_or_isUncommon {char : Char} (space : isSpace char = true) :
    isBlank char = true ∨ isUncommon char = true := by
  by_cases ascii : char.toNat < 128
  · have code : char.toNat = 9 ∨ char.toNat = 10 ∨ char.toNat = 11 ∨ char.toNat = 12 ∨
        char.toNat = 13 ∨ char.toNat = 32 := by
      simp [isSpace] at space
      omega
    rw [← Char.ofNat_toNat char]
    rcases code with code | code | code | code | code | code <;> rw [code] <;> decide
  · simp [isUncommon, space, Nat.le_of_not_lt ascii]

namespace Text

variable {line text gap : Text} {char : Char}

def strip (text : Text) : Text :=
  (text.dropWhile isBlank).rdropWhile isBlank

structure PlainEnds (line : Text) : Prop where
  first : line.strip.head?.any isUncommon = false
  last : line.strip.getLast?.any isUncommon = false

instance (line : Text) : Decidable line.PlainEnds :=
  decidable_of_iff (line.strip.head?.any isUncommon = false ∧
    line.strip.getLast?.any isUncommon = false)
    ⟨fun ends => ⟨ends.1, ends.2⟩, fun plain => ⟨plain.first, plain.last⟩⟩

theorem strip_split (text : Text) : ∃ gap gap', text = gap ++ (text.strip ++ gap') ∧
    (∀ char ∈ gap, isBlank char = true) ∧ ∀ char ∈ gap', isBlank char = true := by
  refine ⟨text.takeWhile isBlank, (text.dropWhile isBlank).rtakeWhile isBlank, ?_,
    Token.gap_blank text, fun _ => List.mem_rtakeWhile_imp⟩
  rw [strip, List.rdropWhile_append_rtakeWhile, List.takeWhile_append_dropWhile]

theorem head_strip (first : char ∈ text.strip.head?) : isBlank char = false := by
  have more : text.strip <+: text.dropWhile isBlank := List.rdropWhile_prefix isBlank _
  obtain ⟨rest, split⟩ := more
  have solid := List.head?_dropWhile_not isBlank text
  rw [← split, List.head?_append, Option.mem_def.1 first] at solid
  simpa using solid

theorem last_strip (last : char ∈ text.strip.getLast?) : isBlank char = false := by
  have nonempty : text.strip ≠ [] := by
    intro empty
    simp [empty] at last
  have solid : ¬ isBlank (text.strip.getLast nonempty) = true :=
    List.rdropWhile_last_not isBlank _ nonempty
  rw [List.getLast?_eq_some_getLast nonempty, Option.mem_some_iff] at last
  simpa [last] using solid

theorem trim_gap (spaces : ∀ char ∈ gap, isSpace char = true) (rest : Text) :
    trim (gap ++ rest) = trim rest := by
  rw [trim, trim, List.dropWhile_append_of_pos spaces]

theorem trim_append_gap (spaces : ∀ char ∈ gap, isSpace char = true) (front : Text) :
    trim (front ++ gap) = trim front := by
  have behind : ∀ char ∈ gap.reverse, isSpace char = true :=
    fun char member => spaces char (List.mem_reverse.1 member)
  rw [trim, trim, List.dropWhile_append]
  split
  · next empty => rw [List.isEmpty_iff.1 empty, List.dropWhile_eq_nil_iff.2 spaces]
  · rw [List.reverse_append, List.dropWhile_append_of_pos behind]

theorem trim_eq_self (first : ∀ char ∈ text.head?, isSpace char = false)
    (last : ∀ char ∈ text.getLast?, isSpace char = false) : text.trim = text := by
  have start : text.dropWhile isSpace = text := by
    cases text with
    | nil => rfl
    | cons char rest => simp [first char rfl]
  have end_ : text.rdropWhile isSpace = text := by
    rw [List.rdropWhile_eq_self_iff]
    intro nonempty
    simp [last _ (List.getLast?_eq_some_getLast nonempty)]
  rw [trim, start]
  exact end_

theorem PlainEnds.trim_eq_strip (plain : line.PlainEnds) : line.trim = line.strip := by
  have solid {char : Char} (nonblank : isBlank char = false) (common : isUncommon char = false) :
      isSpace char = false := by
    by_contra space
    rcases isBlank_or_isUncommon (eq_true_of_ne_false space) with blank | uncommon
    · simp [nonblank] at blank
    · simp [common] at uncommon
  obtain ⟨gap, gap', split, blank, blank'⟩ := strip_split line
  conv_lhs => rw [split]
  rw [trim_gap fun char member => isSpace_of_isBlank (blank char member),
    trim_append_gap fun char member => isSpace_of_isBlank (blank' char member)]
  apply trim_eq_self
  · intro char first
    have common := plain.first
    rw [Option.mem_def.1 first] at common
    exact solid (head_strip first) common
  · intro char last
    have common := plain.last
    rw [Option.mem_def.1 last] at common
    exact solid (last_strip last) common

theorem words_append_gap (blank : ∀ char ∈ gap, isBlank char = true) (front : Text) :
    words (front ++ gap) = words front := by
  cases gap with
  | nil => simp
  | cons char gap =>
    have behind := words_gap (fun other member => blank other (List.mem_cons_of_mem _ member)) []
    rw [List.append_nil, words_nil] at behind
    rw [words_append_blank (blank char (by simp)), behind, List.append_nil]

theorem PlainEnds.words_trim (plain : line.PlainEnds) : line.trim.words = line.words := by
  obtain ⟨gap, gap', split, blank, blank'⟩ := strip_split line
  rw [plain.trim_eq_strip]
  conv_rhs => rw [split, words_gap blank, words_append_gap blank']

def withoutReturn (line : Text) : Text :=
  if line.getLast? == some '\r' then line.dropLast else line

theorem trim_withoutReturn (line : Text) : line.withoutReturn.trim = line.trim := by
  unfold withoutReturn
  split
  · next ends =>
    conv_rhs => rw [← List.dropLast_append_getLast? '\r' (beq_iff_eq.1 ends)]
    rw [trim_append_gap]
    intro char member
    rw [List.mem_singleton.1 member]
    rfl
  · rfl

theorem toBytes_append (front back : Text) :
    (front ++ back).toBytes = front.toBytes ++ back.toBytes :=
  List.flatMap_append

theorem ofCutBytes_toBytes (text : Text) : ofCutBytes text.toBytes = text := by
  simp [ofCutBytes, decode, decodeAtMost_toBytes text _ (length_le_toBytes text)]

theorem utf8EncodeChar_ascii_or_wide (char : Char) :
    (char.toNat < 0x80 ∧ String.utf8EncodeChar char = [UInt8.ofNat char.toNat]) ∨
      ∀ byte ∈ String.utf8EncodeChar char, 0x80 ≤ byte.toNat := by
  have marked {part mark : Nat} (large : 0x80 ≤ mark) (small : part + mark < 256) :
      0x80 ≤ (UInt8.ofNat (part + mark)).toNat := by
    rw [UInt8.toNat_ofNat_of_lt' small]
    omega
  fun_cases String.utf8EncodeChar char with
  | case1 code one => exact .inl ⟨Nat.lt_succ_of_le one, rfl⟩
  | case2 | case3 | case4 =>
    right
    simp only [List.forall_mem_cons, List.not_mem_nil, false_implies, implies_true, and_true]
    repeat' apply And.intro
    all_goals exact marked (by decide) (by omega)

theorem eq_of_mem_utf8EncodeChar {other : Char} (ascii : other.toNat < 0x80)
    (member : UInt8.ofNat other.toNat ∈ String.utf8EncodeChar char) : char = other := by
  have code : (UInt8.ofNat other.toNat).toNat = other.toNat :=
    UInt8.toNat_ofNat_of_lt' (Nat.lt_trans ascii (by decide))
  rcases utf8EncodeChar_ascii_or_wide char with ⟨one, encoded⟩ | wide
  · rw [encoded, List.mem_singleton] at member
    rw [member, UInt8.toNat_ofNat_of_lt' (Nat.lt_trans one (by decide))] at code
    exact Char.toNat_inj.1 code
  · have past := wide _ member
    omega

theorem mem_of_mem_toBytes {other : Char} (ascii : other.toNat < 0x80)
    (member : UInt8.ofNat other.toNat ∈ text.toBytes) : other ∈ text := by
  obtain ⟨char, inside, encoded⟩ := List.mem_flatMap.1 member
  rwa [← eq_of_mem_utf8EncodeChar ascii encoded]

theorem toBytes_withoutReturn (line : Text) :
    (if line.toBytes.getLast? == some 13 then line.toBytes.dropLast else line.toBytes) =
      line.withoutReturn.toBytes := by
  rcases List.eq_nil_or_concat line with rfl | ⟨front, char, rfl⟩
  · rfl
  · by_cases return_ : char = '\r'
    · subst return_
      have ends : toBytes (front ++ ['\r']) = toBytes front ++ [13] := toBytes_append _ _
      simp [withoutReturn, ends]
    · have other : (toBytes (front ++ [char])).getLast? ≠ some 13 := by
        intro ends
        have encoded : toBytes [char] = String.utf8EncodeChar char := List.append_nil _
        rw [toBytes_append, encoded,
          List.getLast?_append_of_ne_nil _ String.utf8EncodeChar_ne_nil] at ends
        exact return_ (@eq_of_mem_utf8EncodeChar _ '\r' (by decide) (List.mem_of_getLast? ends))
      simp [withoutReturn, return_, other]

end Text

namespace Console

def typed (lines : List Text) : Bytes :=
  lines.flatMap fun line => line.toBytes ++ [10]

def joined (lines : List Text) : Text :=
  ['\n'].intercalate lines

theorem splitOn_ended {α : Type} [BEq α] [LawfulBEq α] {mark : α} {lines : List (List α)}
    (bare : ∀ line ∈ lines, mark ∉ line) :
    (lines.flatMap (· ++ [mark])).splitOn mark = lines ++ [[]] := by
  induction lines with
  | nil => simp
  | cons line rest ih =>
    obtain ⟨first, bare⟩ := List.forall_mem_cons.1 bare
    have split : (line :: rest).flatMap (· ++ [mark]) =
        line ++ mark :: rest.flatMap (· ++ [mark]) := by simp
    rw [split, List.splitOn_append_cons_self_of_not_mem first, ih bare, List.cons_append]

theorem linesOf_typed {lines : List Text} (bare : ∀ line ∈ lines, '\n' ∉ line) :
    linesOf (typed lines) = lines.map fun line => line.withoutReturn.toBytes := by
  have split : (typed lines).splitOn 10 = lines.map Text.toBytes ++ [[]] := by
    have ended : typed lines = (lines.map Text.toBytes).flatMap (· ++ [10]) := by
      simp [typed, List.flatMap_map]
    rw [ended]
    apply splitOn_ended
    intro bytes member inside
    obtain ⟨line, listed, rfl⟩ := List.mem_map.1 member
    exact bare line listed (@Text.mem_of_mem_toBytes _ '\n' (by decide) inside)
  simp only [linesOf, split, List.getLast?_append, List.getLast?_singleton, Option.some_or,
    beq_self_eq_true, if_true, List.dropLast_concat, List.map_map]
  apply List.map_congr_left
  intro line _
  exact line.toBytes_withoutReturn

end Console

end StackScript

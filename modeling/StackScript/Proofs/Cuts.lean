import Mathlib.Order.Bounds.Defs
import StackScript.Text.Basic

set_option autoImplicit false

namespace StackScript.Text

variable {text front middle back more : Text} {start stop offset cursor : Nat}

theorem size_eq_zero_iff : size text = 0 ↔ text = [] := by
  cases text with
  | nil => simp
  | cons char rest =>
    have width := char.utf8Size_pos
    simp
    omega

theorem stop_of_slice? (cut : text.slice? start stop = some middle) :
    start + size middle = stop := by
  obtain ⟨_, _, _, _, length⟩ := slice?_eq_some_iff.1 cut
  exact length

theorem slice?_behind (cut : text.slice? start stop = some (front ++ back)) :
    text.slice? (start + size front) stop = some back := by
  obtain ⟨before, after, rfl, rfl, rfl⟩ := slice?_eq_some_iff.1 cut
  exact slice?_eq_some_iff.2 ⟨before ++ front, after, by simp, by simp, by simp; omega⟩

theorem slice?_front (cut : text.slice? start stop = some (front ++ back)) :
    text.slice? start (start + size front) = some front := by
  obtain ⟨before, after, rfl, rfl, rfl⟩ := slice?_eq_some_iff.1 cut
  exact slice?_eq_some_iff.2 ⟨before, back ++ after, by simp, rfl, rfl⟩

theorem slice?_append (cut : text.slice? start stop = some middle) :
    (text ++ more).slice? start stop = some middle := by
  obtain ⟨before, after, rfl, rfl, rfl⟩ := slice?_eq_some_iff.1 cut
  exact slice?_eq_some_iff.2 ⟨before, after ++ more, by simp, rfl, rfl⟩

theorem slice?_last (front back : Text) :
    (front ++ back).slice? (size front) (size front + size back) = some back :=
  slice?_eq_some_iff.2 ⟨front, [], by simp, rfl, rfl⟩

theorem boundaryFrom?_size (front back : Text) :
    boundaryFrom? (size front) (front ++ back) = some (size front) := by
  induction front with
  | nil => cases back <;> rfl
  | cons char rest ih =>
    have width := char.utf8Size_pos
    obtain ⟨count, counted⟩ : ∃ count, size (char :: rest) = count + 1 :=
      ⟨size (char :: rest) - 1, by simp; omega⟩
    have later : count + 1 - char.utf8Size = size rest := by simp at counted; omega
    have fits : char.utf8Size ≤ count + 1 := by simp at counted; omega
    rw [counted, List.cons_append, boundaryFrom?, if_pos fits, later, ih, ← counted]
    rfl

theorem boundaryFrom?_of_slice? (cut : text.slice? start stop = some middle) :
    boundaryFrom? start text = some start := by
  obtain ⟨before, after, rfl, rfl, _⟩ := slice?_eq_some_iff.1 cut
  rw [List.append_assoc]
  exact boundaryFrom?_size before (middle ++ after)

theorem le_size_of_isBoundary (boundary : text.isBoundary offset = true) : offset ≤ text.size := by
  obtain ⟨front, back, rfl, rfl⟩ := isBoundary_iff.1 boundary
  rw [size_append]
  exact Nat.le_add_right _ _

theorem isBoundary_zero (text : Text) : text.isBoundary 0 = true :=
  isBoundary_iff.2 ⟨[], text, rfl, rfl⟩

theorem isBoundary_append (boundary : text.isBoundary offset = true) :
    (text ++ more).isBoundary offset = true := by
  obtain ⟨front, back, rfl, rfl⟩ := isBoundary_iff.1 boundary
  exact isBoundary_iff.2 ⟨front, back ++ more, List.append_assoc _ _ _, rfl⟩

theorem isBoundary_of_slice? (cut : text.slice? start stop = some middle) :
    text.isBoundary start = true ∧ text.isBoundary stop = true := by
  obtain ⟨front, back, rfl, rfl, rfl⟩ := slice?_eq_some_iff.1 cut
  exact ⟨isBoundary_iff.2 ⟨front, middle ++ back, List.append_assoc _ _ _, rfl⟩,
    isBoundary_iff.2 ⟨front ++ middle, back, rfl, size_append _ _⟩⟩

theorem exists_slice? (starts : text.isBoundary start = true) (stops : text.isBoundary stop = true)
    (ordered : start ≤ stop) : ∃ middle, text.slice? start stop = some middle := by
  obtain ⟨front, back, rfl, rfl⟩ := isBoundary_iff.1 starts
  obtain ⟨longer, last, same, rfl⟩ := isBoundary_iff.1 stops
  rcases List.append_eq_append_iff.1 same with ⟨middle, rfl, rfl⟩ | ⟨middle, rfl, rfl⟩
  · exact ⟨middle, slice?_eq_some_iff.2 ⟨front, last, by simp, rfl, (size_append _ _).symm⟩⟩
  · have empty : middle = [] := by
      rw [size_append] at ordered
      exact size_eq_zero_iff.1 (by omega)
    subst empty
    exact ⟨[], slice?_eq_some_iff.2 ⟨longer, back, by simp, by simp, by simp⟩⟩

theorem suffix_of_slice? {inner rest : Text} (whole : text.slice? start stop = some inner)
    (cut : text.slice? cursor stop = some rest) (later : start ≤ cursor) : rest <:+ inner := by
  have ends := stop_of_slice? whole
  obtain ⟨before, after, split, rfl, _⟩ := slice?_eq_some_iff.1 whole
  obtain ⟨before', after', split', rfl, ends'⟩ := slice?_eq_some_iff.1 cut
  have same := split.symm.trans split'
  rw [List.append_assoc, List.append_assoc] at same
  rcases List.append_eq_append_iff.1 same with ⟨middle, rfl, _⟩ | ⟨middle, rfl, _⟩
  · have longer : text.slice? before.size stop = some (middle ++ rest) :=
      slice?_eq_some_iff.2 ⟨before, after', by simp [split'], rfl, by
        rw [size_append, ← ends', size_append, Nat.add_assoc]⟩
    exact ⟨middle, Option.some_inj.1 (longer.symm.trans whole)⟩
  · have none : middle = [] := by
      rw [size_append] at later
      exact size_eq_zero_iff.1 (by omega)
    subst none
    rw [List.append_nil] at whole
    exact ⟨[], Option.some_inj.1 (cut.symm.trans whole)⟩

theorem isBoundary_cons {char : Char} {rest : Text} : isBoundary (char :: rest) offset = true ↔
    offset = 0 ∨ char.utf8Size ≤ offset ∧ rest.isBoundary (offset - char.utf8Size) = true := by
  have width := char.utf8Size_pos
  cases offset with
  | zero => simp [isBoundary, dropBytes?]
  | succ count =>
    simp only [isBoundary, dropBytes?]
    split
    · next fits => simp [fits]
    · next short => simp [short]

theorem isLeast_of_boundaryFrom? (found : boundaryFrom? offset text = some cursor) :
    IsLeast { boundary | text.isBoundary boundary = true ∧ offset ≤ boundary } cursor := by
  induction text generalizing offset cursor with
  | nil =>
    cases offset with
    | zero =>
      cases found
      exact ⟨⟨rfl, Nat.le_refl 0⟩, fun _ _ => Nat.zero_le _⟩
    | succ count => cases found
  | cons char rest ih =>
    have width := char.utf8Size_pos
    cases offset with
    | zero =>
      cases found
      exact ⟨⟨rfl, Nat.le_refl 0⟩, fun _ _ => Nat.zero_le _⟩
    | succ count =>
      rw [boundaryFrom?] at found
      split at found
      · next fits =>
        obtain ⟨behind, later, rfl⟩ := Option.map_eq_some_iff.1 found
        obtain ⟨⟨bounds, least⟩, lower⟩ := ih later
        refine ⟨⟨isBoundary_cons.2 (.inr ⟨by omega, ?_⟩), by omega⟩, ?_⟩
        · rw [Nat.add_sub_cancel_left]
          exact bounds
        · rintro other ⟨boundary, after⟩
          rcases isBoundary_cons.1 boundary with rfl | ⟨wide, inner⟩
          · omega
          · have later := lower ⟨inner, by omega⟩
            omega
      · next short =>
        cases found
        refine ⟨⟨isBoundary_cons.2 (.inr ⟨Nat.le_refl _, ?_⟩), by omega⟩, ?_⟩
        · rw [Nat.sub_self]
          exact isBoundary_zero rest
        · rintro other ⟨boundary, after⟩
          rcases isBoundary_cons.1 boundary with rfl | ⟨wide, _⟩
          · omega
          · exact wide

theorem exists_boundaryFrom? (within : offset ≤ text.size) :
    ∃ cursor, boundaryFrom? offset text = some cursor := by
  induction text generalizing offset with
  | nil =>
    obtain rfl : offset = 0 := Nat.le_zero.1 within
    exact ⟨0, rfl⟩
  | cons char rest ih =>
    cases offset with
    | zero => exact ⟨0, rfl⟩
    | succ count =>
      rw [boundaryFrom?]
      split
      · have inner : count + 1 - char.utf8Size ≤ size rest := by
          rw [size_cons] at within
          omega
        obtain ⟨cursor, found⟩ := ih inner
        rw [found]
        exact ⟨_, rfl⟩
      · exact ⟨_, rfl⟩

end StackScript.Text

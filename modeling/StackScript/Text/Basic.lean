set_option autoImplicit false

namespace StackScript

abbrev Text := List Char

namespace Text

def size : Text → Nat
  | [] => 0
  | char :: rest => char.utf8Size + size rest

def dropBytes? : Nat → Text → Option Text
  | 0, text => some text
  | _ + 1, [] => none
  | count + 1, char :: rest =>
    if char.utf8Size ≤ count + 1 then dropBytes? (count + 1 - char.utf8Size) rest else none

def takeBytes? : Nat → Text → Option Text
  | 0, _ => some []
  | _ + 1, [] => none
  | count + 1, char :: rest =>
    if char.utf8Size ≤ count + 1 then
      (takeBytes? (count + 1 - char.utf8Size) rest).map (char :: ·)
    else none

def slice? (text : Text) (start stop : Nat) : Option Text :=
  if start ≤ stop then (dropBytes? start text).bind (takeBytes? (stop - start)) else none

def isBoundary (text : Text) (offset : Nat) : Bool :=
  (dropBytes? offset text).isSome

/-- The least boundary that is not before the offset. Past the end there is none. -/
def boundaryFrom? : Nat → Text → Option Nat
  | 0, _ => some 0
  | _ + 1, [] => none
  | count + 1, char :: rest =>
    if char.utf8Size ≤ count + 1 then
      (boundaryFrom? (count + 1 - char.utf8Size) rest).map (char.utf8Size + ·)
    else some char.utf8Size

@[simp] theorem size_nil : size [] = 0 := rfl

@[simp] theorem size_cons (char : Char) (rest : Text) :
    size (char :: rest) = char.utf8Size + size rest := rfl

@[simp] theorem size_append (front back : Text) :
    size (front ++ back) = size front + size back := by
  induction front with
  | nil => simp
  | cons char rest ih => simp [ih, Nat.add_assoc]

theorem dropBytes?_eq_some_iff {count : Nat} {text back : Text} :
    dropBytes? count text = some back ↔ ∃ front, text = front ++ back ∧ size front = count := by
  induction text generalizing count with
  | nil =>
    cases count with
    | zero =>
      constructor
      · intro same
        exact ⟨[], by simpa [dropBytes?] using same, rfl⟩
      · rintro ⟨front, same, _⟩
        simp_all [dropBytes?]
    | succ count => simp [dropBytes?]
  | cons char rest ih =>
    have width := char.utf8Size_pos
    cases count with
    | zero =>
      constructor
      · intro same
        exact ⟨[], by simpa [dropBytes?] using same, rfl⟩
      · rintro ⟨front, same, none⟩
        cases front with
        | nil => simpa [dropBytes?] using same
        | cons head tail => simp at none; have := head.utf8Size_pos; omega
    | succ count =>
      by_cases fits : char.utf8Size ≤ count + 1
      · simp only [dropBytes?, fits, if_true, ih]
        constructor
        · rintro ⟨front, rfl, measured⟩
          exact ⟨char :: front, rfl, by simp [measured]; omega⟩
        · rintro ⟨front, same, measured⟩
          cases front with
          | nil => simp at measured
          | cons head tail =>
            simp only [List.cons_append, List.cons.injEq] at same
            obtain ⟨rfl, rfl⟩ := same
            exact ⟨tail, rfl, by simp at measured; omega⟩
      · simp only [dropBytes?, fits, if_false, reduceCtorEq, false_iff]
        rintro ⟨front, same, measured⟩
        cases front with
        | nil => simp at measured
        | cons head tail =>
          simp only [List.cons_append, List.cons.injEq] at same
          obtain ⟨rfl, rfl⟩ := same
          simp at measured
          omega

theorem takeBytes?_eq_some_iff {count : Nat} {text front : Text} :
    takeBytes? count text = some front ↔ ∃ back, text = front ++ back ∧ size front = count := by
  induction text generalizing count front with
  | nil =>
    cases count with
    | zero => cases front <;> simp [takeBytes?]
    | succ count => cases front <;> simp [takeBytes?]
  | cons char rest ih =>
    have width := char.utf8Size_pos
    cases count with
    | zero =>
      cases front with
      | nil => simp [takeBytes?]
      | cons head tail => have := head.utf8Size_pos; simp [takeBytes?]; omega
    | succ count =>
      by_cases fits : char.utf8Size ≤ count + 1
      · cases front with
        | nil => simp [takeBytes?, fits]
        | cons head tail =>
          simp only [takeBytes?, fits, if_true, Option.map_eq_some_iff, List.cons.injEq,
            List.cons_append, size_cons]
          constructor
          · rintro ⟨inner, found, rfl, rfl⟩
            obtain ⟨back, rfl, measured⟩ := ih.1 found
            exact ⟨back, ⟨rfl, rfl⟩, by omega⟩
          · rintro ⟨back, ⟨rfl, rfl⟩, measured⟩
            exact ⟨tail, ih.2 ⟨back, rfl, by omega⟩, rfl, rfl⟩
      · simp only [takeBytes?, fits, if_false, reduceCtorEq, false_iff]
        rintro ⟨back, same, measured⟩
        cases front with
        | nil => simp at measured
        | cons head tail =>
          simp only [List.cons_append, List.cons.injEq] at same
          obtain ⟨rfl, rfl⟩ := same
          simp at measured
          omega

theorem slice?_eq_some_iff {text middle : Text} {start stop : Nat} :
    text.slice? start stop = some middle ↔
      ∃ front back, text = front ++ middle ++ back ∧ size front = start ∧
        start + size middle = stop := by
  by_cases ordered : start ≤ stop
  · simp only [slice?, ordered, if_true, Option.bind_eq_some_iff, dropBytes?_eq_some_iff,
      takeBytes?_eq_some_iff]
    constructor
    · rintro ⟨_, ⟨front, rfl, measured⟩, back, rfl, length⟩
      exact ⟨front, back, by simp, measured, by omega⟩
    · rintro ⟨front, back, rfl, measured, length⟩
      exact ⟨middle ++ back, ⟨front, by simp, measured⟩, back, rfl, by omega⟩
  · simp only [slice?, ordered, if_false, reduceCtorEq, false_iff]
    rintro ⟨_, _, _, _, length⟩
    omega

theorem isBoundary_iff {text : Text} {offset : Nat} :
    text.isBoundary offset = true ↔ ∃ front back, text = front ++ back ∧ size front = offset := by
  simp only [isBoundary, Option.isSome_iff_exists, dropBytes?_eq_some_iff]
  exact exists_comm

end Text

end StackScript

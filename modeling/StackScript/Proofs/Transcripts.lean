import StackScript.Proofs.Lines
import StackScript.Proofs.Sinks

set_option autoImplicit false

namespace StackScript

theorem printout_append (cells cells' : List Int32) :
    printout (cells ++ cells') = printout cells ++ printout cells' :=
  List.flatMap_append

theorem mem_decimal {value : Int} {char : Char} (member : char ∈ decimal value) :
    char = '-' ∨ char.isDigit = true := by
  cases value with
  | ofNat value => exact .inr (Nat.isDigit_of_mem_toDigits (by decide) (by decide) member)
  | negSucc value =>
    rcases List.mem_cons.1 member with minus | digit
    · exact .inl minus
    · exact .inr (Nat.isDigit_of_mem_toDigits (by decide) (by decide) digit)

theorem mem_intersperse {α : Type} {separator value : α} {values : List α}
    (member : value ∈ values.intersperse separator) : value = separator ∨ value ∈ values := by
  fun_induction List.intersperse with grind

theorem newline_not_mem_decimal (value : Int) : '\n' ∉ decimal value := by
  intro member
  rcases mem_decimal member with minus | digit
  · cases minus
  · cases digit

theorem newline_not_mem_listing (cells : List Int32) : '\n' ∉ listing cells := by
  intro member
  simp only [listing, List.cons_append, List.mem_cons, List.mem_append, List.mem_flatten,
    List.not_mem_nil] at member
  rcases member with bracket | ⟨part, listed, inside⟩ | bracket | none
  · cases bracket
  · rcases mem_intersperse listed with rfl | shown
    · simp at inside
    · obtain ⟨cell, _, rfl⟩ := List.mem_map.1 shown
      exact newline_not_mem_decimal _ inside
  · cases bracket
  · exact none

namespace Console

structure Exchange where
  printed : List Int32
  stack : List Int32

def marked (stack : List Int32) : Text :=
  "=> ".toList ++ listing stack

def transcript (exchanges : List Exchange) : Text :=
  exchanges.flatMap fun exchange =>
    printout exchange.printed ++ marked exchange.stack ++ ['\n']

def isStackLine (line : Text) : Bool :=
  "=> ".toList.isPrefixOf line

def withoutStackLines (output : Text) : Text :=
  ['\n'].intercalate ((output.splitOn '\n').filter fun line => !isStackLine line)

def lastStackLine? (output : Text) : Option Text :=
  ((output.splitOn '\n').filter isStackLine).getLast?

def Exchange.lines (exchange : Exchange) : List Text :=
  exchange.printed.map (fun cell => decimal cell.toInt) ++ [marked exchange.stack]

variable {exchanges : List Exchange}

theorem printout_eq_ended (cells : List Int32) :
    printout cells = (cells.map fun cell => decimal cell.toInt).flatMap (· ++ ['\n']) := by
  simp [printout, List.flatMap_map]

theorem transcript_eq_ended (exchanges : List Exchange) :
    transcript exchanges = (exchanges.flatMap Exchange.lines).flatMap (· ++ ['\n']) := by
  induction exchanges with
  | nil => rfl
  | cons exchange rest ih =>
    rw [transcript, List.flatMap_cons, ← transcript, ih, List.flatMap_cons, List.flatMap_append,
      Exchange.lines, List.flatMap_append, ← printout_eq_ended]
    simp

theorem isStackLine_decimal (value : Int) : isStackLine (decimal value) = false := by
  cases shown : decimal value with
  | nil => rfl
  | cons char rest =>
    have other : char ≠ '=' := by
      rintro rfl
      rcases mem_decimal (shown ▸ List.mem_cons_self) with minus | digit
      · cases minus
      · cases digit
    simp [isStackLine, List.isPrefixOf, other.symm]

theorem isStackLine_marked (stack : List Int32) : isStackLine (marked stack) = true := by
  simp [isStackLine, marked]

theorem newline_not_mem_marked (stack : List Int32) : '\n' ∉ marked stack := by
  simp [marked, newline_not_mem_listing]

theorem newline_not_mem_lines {exchange : Exchange} : ∀ line ∈ exchange.lines, '\n' ∉ line := by
  intro line member
  rcases List.mem_append.1 member with number | stack
  · obtain ⟨cell, _, rfl⟩ := List.mem_map.1 number
    exact newline_not_mem_decimal _
  · rw [List.mem_singleton.1 stack]
    exact newline_not_mem_marked _

theorem splitOn_transcript (exchanges : List Exchange) :
    (transcript exchanges).splitOn '\n' = exchanges.flatMap Exchange.lines ++ [[]] := by
  rw [transcript_eq_ended]
  apply splitOn_ended
  intro line member
  obtain ⟨exchange, _, shown⟩ := List.mem_flatMap.1 member
  exact newline_not_mem_lines line shown

theorem filter_lines (exchange : Exchange) :
    exchange.lines.filter (fun line => !isStackLine line) =
        exchange.printed.map (fun cell => decimal cell.toInt) ∧
      exchange.lines.filter isStackLine = [marked exchange.stack] := by
  constructor <;>
    simp [Exchange.lines, List.filter_map, Function.comp_def, isStackLine_decimal,
      isStackLine_marked]

theorem withoutStackLines_transcript (exchanges : List Exchange) :
    withoutStackLines (transcript exchanges) = printout (exchanges.flatMap Exchange.printed) := by
  have kept : (exchanges.flatMap Exchange.lines).filter (fun line => !isStackLine line) =
      (exchanges.flatMap Exchange.printed).map fun cell => decimal cell.toInt := by
    simp [List.filter_flatMap, List.map_flatMap, filter_lines]
  have last : [([] : Text)].filter (fun line => !isStackLine line) = [[]] := rfl
  rw [withoutStackLines, splitOn_transcript, List.filter_append, kept, last, printout_eq_ended]
  rw [← splitOn_ended, List.intercalate_splitOn]
  intro line member
  obtain ⟨cell, _, rfl⟩ := List.mem_map.1 member
  exact newline_not_mem_decimal _

theorem lastStackLine?_transcript (exchanges : List Exchange) :
    lastStackLine? (transcript exchanges) =
      exchanges.getLast?.map fun exchange => marked exchange.stack := by
  have shown : (exchanges.flatMap Exchange.lines).filter isStackLine =
      exchanges.map fun exchange => marked exchange.stack := by
    simp [List.filter_flatMap, filter_lines, List.map_eq_flatMap]
  have last : [([] : Text)].filter isStackLine = [] := rfl
  rw [lastStackLine?, splitOn_transcript, List.filter_append, shown, last, List.append_nil,
    List.getLast?_map]

end Console

end StackScript

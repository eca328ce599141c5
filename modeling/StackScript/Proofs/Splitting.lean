import StackScript.Proofs.Lines

set_option autoImplicit false

namespace StackScript

def isBlankByte (byte : UInt8) : Bool :=
  byte == 0x20 || byte == 0x09 || byte == 0x0A || byte == 0x0C || byte == 0x0D

namespace Bytes

variable {bytes : Bytes} {first start stop : Nat} {span : Span}

def isSolidAt (bytes : Bytes) (offset : Nat) : Bool :=
  bytes[offset]?.any fun byte => !isBlankByte byte

/-- The span is a longest run of bytes that are not blank, of those from `first` on. -/
structure IsRun (bytes : Bytes) (first : Nat) (span : Span) : Prop where
  first_le : first ≤ span.start
  nonempty : 0 < span.length
  solid : ∀ offset, span.start ≤ offset → offset < span.stop → bytes.isSolidAt offset = true
  before : span.start = first ∨ bytes.isSolidAt (span.start - 1) = false
  behind : bytes.isSolidAt span.stop = false

theorem not_isRun (blank : ∀ offset, first ≤ offset → bytes.isSolidAt offset = false) :
    ¬ bytes.IsRun first span := by
  intro run
  have inside : span.start < span.stop := Nat.lt_add_of_pos_right run.nonempty
  have solid := run.solid span.start (Nat.le_refl _) inside
  rw [blank span.start run.first_le] at solid
  cases solid

theorem isRun_iff (before : first ≤ start) (inside : start < stop)
    (gap : ∀ offset, first ≤ offset → offset < start → bytes.isSolidAt offset = false)
    (solid : ∀ offset, start ≤ offset → offset < stop → bytes.isSolidAt offset = true)
    (behind : bytes.isSolidAt stop = false) :
    bytes.IsRun first span ↔ span = ⟨start, stop - start⟩ ∨ bytes.IsRun stop span := by
  constructor
  · intro run
    have nonempty : span.start < span.stop := Nat.lt_add_of_pos_right run.nonempty
    -- No run starts in the gap.
    have begins : start ≤ span.start := by
      by_contra early
      have blank := gap span.start run.first_le (by omega)
      rw [run.solid span.start (Nat.le_refl _) nonempty] at blank
      cases blank
    by_cases later : stop ≤ span.start
    · -- The byte before it is blank also where it starts at once, since the first run is there.
      refine .inr ⟨later, run.nonempty, run.solid, ?_, run.behind⟩
      exact run.before.imp (fun atOnce => by omega) id
    · left
      have starts : span.start = start := by
        rcases run.before with atOnce | blank
        · omega
        · by_contra other
          rw [solid (span.start - 1) (by omega) (by omega)] at blank
          cases blank
      have stops : span.stop = stop := by
        rcases Nat.lt_trichotomy span.stop stop with short | same | long
        · have blank := run.behind
          rw [solid span.stop (by omega) short] at blank
          cases blank
        · exact same
        · have wrong := run.solid stop (by omega) long
          rw [behind] at wrong
          cases wrong
      obtain ⟨_, _⟩ := span
      simp only [Span.stop] at starts stops
      subst starts
      simp
      omega
  · rintro (rfl | run)
    · have whole : (Span.mk start (stop - start)).stop = stop :=
        Nat.add_sub_of_le (Nat.le_of_lt inside)
      refine ⟨before, Nat.sub_pos_of_lt inside, by rwa [whole], ?_, by rwa [whole]⟩
      by_cases atOnce : start = first
      · exact .inl atOnce
      · exact .inr (gap (start - 1) (by omega) (by omega))
    · have nonempty : span.start < span.stop := Nat.lt_add_of_pos_right run.nonempty
      refine ⟨by have := run.first_le; omega, run.nonempty, run.solid, ?_, run.behind⟩
      rcases run.before with atOnce | blank
      · have wrong := run.solid span.start (Nat.le_refl _) nonempty
        rw [atOnce, behind] at wrong
        cases wrong
      · exact .inr blank

end Bytes

namespace Text

variable {front middle back : Text} {char : Char} {byte : UInt8} {offset : Nat}

theorem isBlankByte_of_mem (member : byte ∈ String.utf8EncodeChar char) :
    isBlankByte byte = isBlank char := by
  have ascii : ∀ code < 128, isBlankByte (UInt8.ofNat code) = isBlank (Char.ofNat code) := by decide
  -- Characters of several bytes have no blank byte.
  rcases utf8EncodeChar_ascii_or_wide char with ⟨one, encoded⟩ | wide
  · rw [encoded, List.mem_singleton] at member
    rw [member, ascii char.toNat one, Char.ofNat_toNat]
  · have large := wide byte member
    have solid : isBlankByte byte = false := by
      by_contra blank
      simp only [Bool.not_eq_false, isBlankByte, Bool.or_eq_true, beq_iff_eq] at blank
      rcases blank with (((rfl | rfl) | rfl) | rfl) | rfl <;> simp at large
    rw [solid]
    by_contra blank
    simp only [Bool.false_eq, Bool.not_eq_false, isBlank, Bool.or_eq_true, beq_iff_eq] at blank
    rcases blank with (((rfl | rfl) | rfl) | rfl) | rfl <;> cases List.mem_singleton.1 member <;>
      simp at large

@[simp] theorem length_toBytes (text : Text) : text.toBytes.length = text.size := by
  induction text with
  | nil => rfl
  | cons char rest ih =>
    rw [size_cons, ← String.length_utf8EncodeChar, ← ih]
    exact List.length_append

theorem isSolidAt_toBytes {blank : Bool} (kind : ∀ char ∈ middle, isBlank char = blank)
    (after : size front ≤ offset) (before : offset < size front + size middle) :
    (toBytes (front ++ (middle ++ back))).isSolidAt offset = !blank := by
  have inside : offset - size front < middle.toBytes.length := by
    rw [length_toBytes]
    omega
  have found : (toBytes (front ++ (middle ++ back)))[offset]? =
      some middle.toBytes[offset - size front] := by
    rw [toBytes_append, toBytes_append, List.getElem?_append_right (by rwa [length_toBytes]),
      length_toBytes, List.getElem?_append_left inside, List.getElem?_eq_getElem inside]
  obtain ⟨char, member, encoded⟩ := List.mem_flatMap.1 (List.getElem_mem inside)
  simp [Bytes.isSolidAt, found, isBlankByte_of_mem encoded, kind char member]

theorem isBoundary_size (text : Text) : text.isBoundary text.size = true :=
  isBoundary_iff.2 ⟨text, [], by simp, rfl⟩

theorem isSolidAt_past {text : Text} (past : text.size ≤ offset) :
    text.toBytes.isSolidAt offset = false := by
  rw [Bytes.isSolidAt, List.getElem?_eq_none (by rwa [length_toBytes])]
  rfl

theorem isSolidAt_behind (ends : EndsWord back) :
    (toBytes (front ++ back)).isSolidAt (size front) = false := by
  cases back with
  | nil => exact isSolidAt_past (by simp)
  | cons char back =>
    have width := char.utf8Size_pos
    have blank : ∀ other ∈ [char], isBlank other = true := by
      simpa using ends char rfl
    have first : size front < size front + size [char] := by
      rw [size_cons, size_nil]
      omega
    exact isSolidAt_toBytes blank (Nat.le_refl _) first

end Text

namespace Words

open Text

variable {text : Text} {cursor : Nat} {words after : Words} {tokens earlier later : List Token}
  {token : Token}

/-- These tokens come, one after the other, and nothing comes after them. Behind each the cursor
stands at its end, and at last behind the text. -/
def Yields : Words → List Token → Prop
  | words, [] => words.next? = some (none, { words with cursor := words.text.size })
  | words, token :: later =>
    words.next? = some (some token, { words with cursor := token.span.stop }) ∧
      Yields { words with cursor := token.span.stop } later

theorem next?_min (text : Text) (cursor : Nat) :
    (Words.mk text (min cursor text.size)).next? = (Words.mk text cursor).next? := by
  simp only [next?, Token.next?, Nat.min_assoc, Nat.min_self]

theorem next?_eq_none_iff (text : Text) (cursor : Nat) : (Words.mk text cursor).next? = none ↔
    cursor < text.size ∧ text.isBoundary cursor = false := by
  have cut (offset : Nat) : text.dropBytes? offset = none ↔ text.isBoundary offset = false := by
    simp [isBoundary]
  rw [next?, Option.map_eq_none_iff, Token.next?, Option.map_eq_none_iff, cut]
  by_cases within : cursor < text.size
  · rw [Nat.min_eq_left (Nat.le_of_lt within)]
    simp [within]
  · rw [Nat.min_eq_right (Nat.not_lt.1 within)]
    simp [within, isBoundary_size]

theorem next?_eq (front rest : Text) :
    (Words.mk (front ++ rest) (size front)).next? =
      if (Token.scan (size front) rest).name = [] then
        some (none, ⟨front ++ rest, size (front ++ rest)⟩)
      else
        some (some (Token.scan (size front) rest),
          ⟨front ++ rest, (Token.scan (size front) rest).span.stop⟩) := by
  have within : min (size front) (size (front ++ rest)) = size front := by
    rw [size_append]
    exact Nat.min_eq_left (Nat.le_add_right _ _)
  have dropped : (front ++ rest).dropBytes? (size front) = some rest :=
    dropBytes?_eq_some_iff.2 ⟨front, rfl, rfl⟩
  rw [next?, Token.next?, within, dropped]
  by_cases empty : (Token.scan (size front) rest).name = [] <;> simp [Token.isEmpty, empty]

theorem of_next? {found : Option Token} (came : words.next? = some (found, after)) :
    ∃ token, Token.next? words.text words.cursor = some token ∧
      found = if token.isEmpty then none else some token := by
  obtain ⟨token, scanned, ends⟩ := Option.map_eq_some_iff.1 came
  refine ⟨token, scanned, ?_⟩
  split at ends <;> cases ends <;> simp_all

theorem lt_of_next? (came : (Words.mk text cursor).next? = some (some token, after)) :
    cursor < token.span.stop := by
  obtain ⟨other, scanned, nonempty⟩ := of_next? came
  by_cases empty : other.isEmpty = true
  · simp [empty] at nonempty
  obtain rfl : token = other := by simpa [empty] using nonempty
  obtain ⟨rest, dropped, rfl⟩ := Option.map_eq_some_iff.1 scanned
  obtain ⟨front, rfl, sized⟩ := dropBytes?_eq_some_iff.1 dropped
  rw [← sized] at empty ⊢
  have solid : (Token.scan (size front) rest).name ≠ [] := by simpa [Token.isEmpty] using empty
  have width : 0 < size (Token.scan (size front) rest).name :=
    Nat.pos_of_ne_zero fun zero => solid (size_eq_zero_iff.1 zero)
  have whole := congrArg size (Token.scan_split (size front) rest)
  rw [Token.scan_stop]
  simp only [size_append] at sized whole ⊢
  omega

namespace Yields

theorem congr (same : words.next? = after.next?) (text : words.text = after.text)
    (yields : words.Yields tokens) : after.Yields tokens := by
  cases tokens with
  | nil =>
    rw [Yields, ← same, ← text]
    exact yields
  | cons token later =>
    rw [Yields, ← same, ← text]
    exact yields

theorem behind (yields : (Words.mk text cursor).Yields (earlier ++ token :: later)) :
    Yields ⟨text, token.span.stop⟩ later := by
  induction earlier generalizing cursor with
  | nil => exact yields.2
  | cons first earlier ih => exact ih yields.2

theorem ascends (yields : (Words.mk text cursor).Yields tokens) :
    (cursor :: tokens.map (·.span.stop)).Pairwise (· < ·) := by
  induction tokens generalizing cursor with
  | nil => exact List.pairwise_singleton _ _
  | cons token later ih =>
    have onward := lt_of_next? yields.1
    have rest := ih yields.2
    refine List.pairwise_cons.2 ⟨?_, rest⟩
    rintro stop (_ | ⟨_, member⟩)
    · exact onward
    · exact Nat.lt_trans onward ((List.pairwise_cons.1 rest).1 stop member)

theorem taken (yields : (Words.mk text cursor).Yields tokens) {count : Nat}
    (enough : tokens.length ≤ count) : Token.takeWords? text count cursor = some tokens := by
  induction tokens generalizing cursor count with
  | nil =>
    cases count with
    | zero => rfl
    | succ count =>
      obtain ⟨token, scanned, empty⟩ := of_next? yields
      have empty : token.isEmpty = true := by simpa using empty
      simp [Token.takeWords?, scanned, empty]
  | cons token later ih =>
    obtain ⟨count, rfl⟩ : ∃ fewer, count = fewer + 1 :=
      ⟨count - 1, by rw [List.length_cons] at enough; omega⟩
    obtain ⟨other, scanned, nonempty⟩ := of_next? yields.1
    have rest := ih yields.2 (Nat.le_of_succ_le_succ enough)
    by_cases empty : other.isEmpty = true
    · simp [empty] at nonempty
    · obtain rfl : token = other := by simpa [empty] using nonempty
      simp [Token.takeWords?, scanned, empty, rest]

end Yields

theorem isRun_scan {front rest : Text} {span : Span}
    (nonempty : (Token.scan (size front) rest).name ≠ []) :
    (toBytes (front ++ rest)).IsRun (size front) span ↔ span = (Token.scan (size front) rest).span ∨
      (toBytes (front ++ rest)).IsRun (Token.scan (size front) rest).span.stop span := by
  have split := Token.scan_split (size front) rest
  have width : 0 < size (Token.scan (size front) rest).name :=
    Nat.pos_of_ne_zero fun zero => nonempty (size_eq_zero_iff.1 zero)
  have parts : front ++ (rest.takeWhile isBlank ++
      ((Token.scan (size front) rest).name ++ rest.afterWord)) = front ++ rest := by
    rw [← List.append_assoc (rest.takeWhile isBlank), ← split]
  have gap := fun offset => @isSolidAt_toBytes front (rest.takeWhile isBlank)
    ((Token.scan (size front) rest).name ++ rest.afterWord) offset true (Token.gap_blank rest)
  have name := fun offset => @isSolidAt_toBytes (front ++ rest.takeWhile isBlank)
    (Token.scan (size front) rest).name rest.afterWord offset false (Token.scan_solid _ rest)
  have behind := @isSolidAt_behind (front ++ (rest.takeWhile isBlank ++
    (Token.scan (size front) rest).name)) rest.afterWord (endsWord_afterWord rest)
  rw [parts] at gap
  rw [List.append_assoc front, parts, size_append] at name
  rw [List.append_assoc, ← split, size_append, ← Token.scan_stop] at behind
  have run := @Bytes.isRun_iff _ _ _ _ span (Nat.le_add_right _ _) (Nat.lt_add_of_pos_right width)
    gap name behind
  rwa [Nat.add_sub_cancel_left] at run

theorem exists_yields (front rest : Text) :
    ∃ tokens, (Words.mk (front ++ rest) (size front)).Yields tokens ∧
      tokens.map Token.name = rest.words ∧
      (∀ span, span ∈ tokens.map Token.span ↔
        (toBytes (front ++ rest)).IsRun (size front) span) ∧
      ∀ token ∈ tokens,
        (front ++ rest).slice? token.span.start token.span.stop = some token.name := by
  -- By induction on what is left: the first word is the first run, and the others are behind it.
  induction measured : rest.length using Nat.strongRecOn generalizing front rest with
  | ind length ih =>
    by_cases empty : (Token.scan (size front) rest).name = []
    · have blank : ∀ offset, size front ≤ offset →
          (toBytes (front ++ rest)).isSolidAt offset = false := by
        intro offset behind
        by_cases inside : offset < size front + size rest
        · have gap := @isSolidAt_toBytes _ _ [] _ _ (Token.blank_of_scan_nil empty) behind inside
          rwa [List.append_nil] at gap
        · exact isSolidAt_past (by rw [size_append]; omega)
      refine ⟨[], (next?_eq front rest).trans (if_pos empty), ?_, ?_, nofun⟩
      · rw [Token.words_of_scan_nil empty]
        rfl
      · intro span
        simpa using Bytes.not_isRun blank
    · have split := Token.scan_split (size front) rest
      obtain ⟨tokens, yields, names, runs, slices⟩ := ih rest.afterWord.length
        (by rw [← measured]; exact Token.length_afterWord empty)
        (front ++ (rest.takeWhile isBlank ++ (Token.scan (size front) rest).name)) rest.afterWord
        rfl
      rw [List.append_assoc, ← split, size_append, ← Token.scan_stop] at yields runs
      rw [List.append_assoc, ← split] at slices
      refine ⟨Token.scan (size front) rest :: tokens,
        ⟨(next?_eq front rest).trans (if_neg empty), yields⟩, ?_, ?_, ?_⟩
      · rw [List.map_cons, names, ← Token.words_of_scan_ne_nil empty]
      · intro span
        rw [List.map_cons, List.mem_cons, runs]
        exact (isRun_scan empty).symm
      · rintro token (_ | ⟨_, member⟩)
        · apply slice?_eq_some_iff.2
          refine ⟨front ++ rest.takeWhile isBlank, rest.afterWord, ?_, size_append _ _, rfl⟩
          conv_lhs => rw [split]
          simp only [List.append_assoc]
        · exact slices token member

/-- The iterator yields the longest runs of bytes that are not blank, from its cursor to the end of
the text, and breaks only where it would start inside a character. What it yields are pieces of the
text, each ends behind the one before it and where the cursor stands then, and whoever starts there
gets the ones that are left. -/
theorem yields_runs (text : Text) (cursor : Nat) :
    ((Words.mk text cursor).next? = none ↔
      cursor < text.size ∧ text.isBoundary cursor = false) ∧
    ((Words.mk text cursor).next? = none ∨ ∃ tokens, (Words.mk text cursor).Yields tokens ∧
      Token.wordsFrom? text cursor = some tokens ∧
      (∀ span, span ∈ tokens.map Token.span ↔ text.toBytes.IsRun (min cursor text.size) span) ∧
      (∀ token ∈ tokens,
        text.slice? token.span.start token.span.stop = some token.name ∧ token.name ≠ [] ∧
          text.isBoundary token.span.start = true ∧ text.isBoundary token.span.stop = true) ∧
      (cursor :: tokens.map (·.span.stop)).Pairwise (· < ·) ∧
      (∀ earlier token later, tokens = earlier ++ token :: later →
        Yields ⟨text, token.span.stop⟩ later) ∧
      Yields ⟨text, text.size⟩ []) := by
  refine ⟨next?_eq_none_iff text cursor, ?_⟩
  by_cases broken : (Words.mk text cursor).next? = none
  · exact .inl broken
  right
  -- Past the end the cursor counts as the end.
  have boundary : text.isBoundary (min cursor text.size) = true := by
    rw [next?_eq_none_iff, not_and, Bool.not_eq_false] at broken
    by_cases within : cursor < text.size
    · rw [Nat.min_eq_left (Nat.le_of_lt within)]
      exact broken within
    · rw [Nat.min_eq_right (Nat.not_lt.1 within)]
      exact isBoundary_size text
  obtain ⟨front, rest, rfl, sized⟩ := isBoundary_iff.1 boundary
  obtain ⟨tokens, yields, names, runs, slices⟩ := exists_yields front rest
  rw [sized] at yields runs
  have yields : (Words.mk (front ++ rest) cursor).Yields tokens :=
    yields.congr (next?_min (front ++ rest) cursor) rfl
  have few : tokens.length ≤ (front ++ rest).length := by
    have count := Token.length_words_le rest
    rw [← names, List.length_map] at count
    rw [List.length_append]
    omega
  refine ⟨tokens, yields, yields.taken few, runs, ?_, yields.ascends, ?_, ?_⟩
  · intro token member
    have cut := slices token member
    have run := (runs token.span).1 (List.mem_map_of_mem member)
    refine ⟨cut, ?_, isBoundary_of_slice? cut⟩
    intro empty
    have stop := stop_of_slice? cut
    rw [empty, size_nil, Nat.add_zero] at stop
    have nonempty := run.nonempty
    rw [Span.stop] at stop
    omega
  · rintro earlier token later rfl
    exact yields.behind
  · have ended := next?_eq (front ++ rest) []
    rw [List.append_nil] at ended
    exact ended.trans (if_pos rfl)

-- Neither a vertical tab nor a no-break space sets words apart.
example : (Words.mk "é\x0b\t\u00a0b".toList 2).Yields
    [⟨⟨2, 1⟩, ['\x0b']⟩, ⟨⟨4, 3⟩, ['\u00a0', 'b']⟩] :=
  ⟨rfl, rfl, rfl⟩

end Words

end StackScript

import StackScript.Text.Basic

set_option autoImplicit false

namespace StackScript

abbrev Bytes := List UInt8

namespace Text

def toBytes (text : Text) : Bytes :=
  text.flatMap String.utf8EncodeChar

-- No character has more than four bytes.
def nextChar? (bytes : Bytes) : Option (Char × Bytes) :=
  ((bytes.take 4).toByteArray.utf8DecodeChar? 0).map fun char => (char, bytes.drop char.utf8Size)

def decodeAtMost : Nat → Bytes → Text × Bytes
  | 0, bytes => ([], bytes)
  | count + 1, bytes =>
    match nextChar? bytes with
    | none => ([], bytes)
    | some (char, rest) =>
      let (text, left) := decodeAtMost count rest
      (char :: text, left)

def decode (bytes : Bytes) : Text × Bytes :=
  decodeAtMost bytes.length bytes

def ofBytes? (bytes : Bytes) : Option Text :=
  match decode bytes with
  | (text, []) => some text
  | (_, _ :: _) => none

-- The text of a stream that was cut off: an unfinished last character is shown as U+FFFD.
def ofCutBytes (bytes : Bytes) : Text :=
  match decode bytes with
  | (text, []) => text
  | (text, _ :: _) => text ++ ['\uFFFD']

theorem nextChar?_append (char : Char) (rest : Bytes) :
    nextChar? (String.utf8EncodeChar char ++ rest) = some (char, rest) := by
  have size := String.length_utf8EncodeChar char
  have taken : (String.utf8EncodeChar char ++ rest).take 4 =
      String.utf8EncodeChar char ++ rest.take (4 - char.utf8Size) := by
    rw [List.take_append, size, List.take_of_length_le (size ▸ char.utf8Size_le_four)]
  rw [nextChar?, taken, List.toByteArray_append, ByteArray.utf8DecodeChar?_utf8EncodeChar_append,
    Option.map_some, ← size, List.drop_left]

theorem decodeAtMost_toBytes (text : Text) (count : Nat) (enough : text.length ≤ count) :
    decodeAtMost count text.toBytes = (text, []) := by
  induction text generalizing count with
  | nil => cases count <;> rfl
  | cons char rest ih =>
    cases count with
    | zero => simp at enough
    | succ count =>
      have next : nextChar? (toBytes (char :: rest)) = some (char, toBytes rest) := by
        simpa [toBytes] using nextChar?_append char (toBytes rest)
      simp only [decodeAtMost, next, ih count (by simpa using enough)]

theorem length_le_toBytes (text : Text) : text.length ≤ text.toBytes.length := by
  induction text with
  | nil => simp
  | cons char rest ih =>
    have positive := List.length_pos_iff.2 (@String.utf8EncodeChar_ne_nil char)
    simp only [toBytes, List.flatMap_cons, List.length_append, List.length_cons] at ih ⊢
    omega

theorem ofBytes?_toBytes (text : Text) : ofBytes? text.toBytes = some text := by
  simp [ofBytes?, decode, decodeAtMost_toBytes text _ (length_le_toBytes text)]

end Text

end StackScript

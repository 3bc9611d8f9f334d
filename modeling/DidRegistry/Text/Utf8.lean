/-!
Texts as octets. `Bytes.ofText` is the UTF-8 form of a text, character by character, and
`Bytes.text?` reads it back, refusing octets that are no text (`text?_ofText`). A reader that does
not look at everything goes through `Bytes.characters`, which keeps the octets that are part of no
character.
-/

namespace DidRegistry

/-- A sequence of octets. -/
abbrev Bytes := List UInt8

namespace Bytes

/-- The UTF-8 form of a text. -/
def ofText (text : String) : Bytes := text.toList.flatMap String.utf8EncodeChar

/-- The text with this UTF-8 form, if there is one. -/
def text? (bytes : Bytes) : Option String := String.fromUTF8? bytes.toByteArray

@[simp] theorem text?_ofText (text : String) : text? (ofText text) = some text := by
  have same : (ofText text).toByteArray = text.toByteArray := by
    rw [ofText, ← List.utf8Encode]
    simp
  simp only [text?, same, String.fromUTF8?]
  rw [dif_pos text.isValidUTF8]
  rfl

/-- The character that octets begin with, if they begin with one. -/
def first? (bytes : Bytes) : Option Char := (bytes.take 4).toByteArray.utf8DecodeChar? 0

/-- The characters that octets write in UTF-8, with the first octets skipped. An octet that is part
of no character stands for itself, as a gap. -/
def charactersAfter : Nat → Bytes → List (Option Char)
  | _, [] => []
  | skipped + 1, _ :: rest => charactersAfter skipped rest
  | 0, octet :: rest =>
    match first? (octet :: rest) with
    | some c => some c :: charactersAfter (c.utf8Size - 1) rest
    | none => none :: charactersAfter 0 rest

/-- The characters that octets write in UTF-8, and gaps for the other octets. -/
def characters (bytes : Bytes) : List (Option Char) := charactersAfter 0 bytes

theorem charactersAfter_append (skipped rest : Bytes) :
    charactersAfter skipped.length (skipped ++ rest) = charactersAfter 0 rest := by
  induction skipped with
  | nil => rfl
  | cons octet skipped ih => exact ih

theorem first?_append (c : Char) (rest : Bytes) :
    first? (String.utf8EncodeChar c ++ rest) = some c := by
  rw [first?, List.take_append, List.take_of_length_le, List.toByteArray_append]
  · exact ByteArray.utf8DecodeChar?_utf8EncodeChar_append
  · rw [String.length_utf8EncodeChar]
    exact c.utf8Size_le_four

theorem charactersAfter_encode (c : Char) (rest : Bytes) :
    charactersAfter 0 (String.utf8EncodeChar c ++ rest) = some c :: charactersAfter 0 rest := by
  have read := first?_append c rest
  have size := String.length_utf8EncodeChar c
  cases encoded : String.utf8EncodeChar c with
  | nil =>
      rw [encoded] at size
      exact absurd size.symm (Nat.ne_of_gt c.utf8Size_pos)
  | cons octet others =>
      rw [encoded] at read size
      rw [List.length_cons] at size
      rw [List.cons_append] at read ⊢
      simp only [charactersAfter, read, ← size, Nat.add_sub_cancel, charactersAfter_append]

/-- The characters of a text are read from its octets, without gaps. -/
@[simp] theorem characters_ofText (text : String) :
    characters (ofText text) = text.toList.map some := by
  rw [characters, ofText]
  induction text.toList with
  | nil => rfl
  | cons c rest ih => rw [List.flatMap_cons, charactersAfter_encode, ih, List.map_cons]

end Bytes
end DidRegistry

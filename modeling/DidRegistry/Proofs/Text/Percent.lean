import DidRegistry.Proofs.Text.Hex
import DidRegistry.Text.Percent

/-!
Reading escapes back. Where `%` stands only in escapes, the octets that a text was written for are
read from it again (`Percent.decode_encode`), so that texts without `%` are told apart by what is
written for them (`Percent.encode_injective`).
-/

namespace DidRegistry

theorem Digits.hex?_upperHex {value : Nat} (below : value < 16) :
    hex? (upperHex value) = some value := by
  have all : ∀ value : Fin 16, hex? (upperHex value) = some value.val := by decide
  exact all ⟨value, below⟩

theorem Digits.isAlphanum_upperHex {value : Nat} (below : value < 16) :
    (upperHex value).isAlphanum = true := by
  have all : ∀ value : Fin 16, (upperHex value).isAlphanum = true := by decide
  exact all ⟨value, below⟩

namespace Percent

theorem decode_escape (byte : UInt8) (rest : List Char) :
    decode (escape byte ++ rest) = byte :: decode rest := by
  obtain ⟨high, low⟩ := Hex.halves_lt byte
  have whole : 16 * (byte.toNat / 16) + byte.toNat % 16 = byte.toNat := Nat.div_add_mod ..
  simp only [escape, List.cons_append, List.nil_append, decode, Digits.hex?_upperHex high,
    Digits.hex?_upperHex low, whole, UInt8.ofNat_toNat]

theorem decode_escapes (bytes : List UInt8) (rest : List Char) :
    decode (bytes.flatMap escape ++ rest) = bytes ++ decode rest := by
  induction bytes with
  | nil => rfl
  | cons byte bytes ih =>
      rw [List.flatMap_cons, List.append_assoc, decode_escape, ih, List.cons_append]

/-- A character that begins no escape stands for itself. -/
theorem decode_cons {c : Char} (other : c ≠ '%') (rest : List Char) :
    decode (c :: rest) = String.utf8EncodeChar c ++ decode rest := by
  rw [decode]
  rintro _ _ _ rfl
  exact absurd rfl other

variable {kept : Char → Bool} {c : Char} {text other : List Char}

/-- A text is written with the characters that are kept, and with those of escapes. -/
theorem mem_encode (member : c ∈ encode kept text) :
    (c ∈ text ∧ kept c = true) ∨ c = '%' ∨ c.isAlphanum = true := by
  obtain ⟨d, origin, within⟩ := List.mem_flatMap.mp member
  unfold encodeChar at within
  split at within
  · rename_i stays
    rw [List.mem_singleton.mp within]
    exact Or.inl ⟨origin, stays⟩
  · obtain ⟨byte, -, escaped⟩ := List.mem_flatMap.mp within
    obtain ⟨high, low⟩ := Hex.halves_lt byte
    simp only [escape, List.mem_cons, List.not_mem_nil, or_false] at escaped
    rcases escaped with rfl | rfl | rfl
    · exact Or.inr (Or.inl rfl)
    · exact Or.inr (Or.inr (Digits.isAlphanum_upperHex high))
    · exact Or.inr (Or.inr (Digits.isAlphanum_upperHex low))

/-- A text in which all characters are kept is written as it is. -/
theorem encode_of_kept (all : ∀ c ∈ text, kept c = true) : encode kept text = text := by
  induction text with
  | nil => rfl
  | cons c rest ih =>
      have first := all c (List.mem_cons_self ..)
      have others := ih fun d member => all d (List.mem_cons_of_mem _ member)
      rw [encode, List.flatMap_cons, encodeChar, if_pos first, ← encode, others]
      rfl

theorem encode_append : encode kept (text ++ other) = encode kept text ++ encode kept other :=
  List.flatMap_append

/-- A character is read back as its octets from what is written for it. -/
theorem decode_encodeChar_append (plain : c ≠ '%') (rest : List Char) :
    decode (encodeChar kept c ++ rest) = String.utf8EncodeChar c ++ decode rest := by
  unfold encodeChar
  split
  · exact decode_cons plain rest
  · exact decode_escapes _ rest

/-- A text without `%` is read back as its octets. -/
theorem decode_encode (plain : '%' ∉ text) :
    decode (encode kept text) = text.flatMap String.utf8EncodeChar := by
  induction text with
  | nil => rfl
  | cons c rest ih =>
      rw [List.mem_cons, not_or] at plain
      rw [encode, List.flatMap_cons, ← encode, decode_encodeChar_append (Ne.symm plain.1),
        ih plain.2, List.flatMap_cons]

/-- Texts without `%` are told apart by what is written for them. -/
theorem encode_injective (plain : '%' ∉ text) (plainOther : '%' ∉ other)
    (same : encode kept text = encode kept other) : text = other := by
  have octets := congrArg decode same
  rw [decode_encode plain, decode_encode plainOther] at octets
  have read : Bytes.text? (Bytes.ofText (String.ofList text)) =
      Bytes.text? (Bytes.ofText (String.ofList other)) := by
    simp only [Bytes.ofText, String.toList_ofList, octets]
  rw [Bytes.text?_ofText, Bytes.text?_ofText] at read
  exact String.ofList_injective (Option.some.inj read)

end Percent
end DidRegistry

import DidRegistry.Text.Hex

/-!
Octets in lowercase hexadecimal. A text writes octets if it has lowercase digits only and is read
back as these octets (`Hex.Writes`); what is written for octets does (`Hex.writes_encode`).
-/

namespace DidRegistry

theorem Digits.hex?_lowerHex {value : Nat} (below : value < 16) :
    hex? (lowerHex value) = some value := by
  have all : ∀ value : Fin 16, hex? (lowerHex value) = some value.val := by decide
  exact all ⟨value, below⟩

theorem Digits.lowerHex_mem {value : Nat} (below : value < 16) :
    lowerHex value ∈ "0123456789abcdef".toList := by
  have all : ∀ value : Fin 16, lowerHex value ∈ "0123456789abcdef".toList := by decide
  exact all ⟨value, below⟩

namespace Hex

/-- The text writes just these octets, in lowercase. -/
structure Writes (text : String) (bytes : Bytes) : Prop where
  digits : ∀ c ∈ text.toList, c ∈ "0123456789abcdef".toList
  octets : decode? text = some bytes

/-- The two digits of an octet are those of numbers below sixteen. -/
theorem halves_lt (byte : UInt8) : byte.toNat / 16 < 16 ∧ byte.toNat % 16 < 16 := by
  have bound := byte.toNat_lt
  omega

theorem decodeDigits?_flatMap_pair (bytes : Bytes) :
    decodeDigits? (bytes.flatMap pair) = some bytes := by
  induction bytes with
  | nil => rfl
  | cons byte rest ih =>
      obtain ⟨high, low⟩ := halves_lt byte
      have whole : 16 * (byte.toNat / 16) + byte.toNat % 16 = byte.toNat := Nat.div_add_mod ..
      simp only [List.flatMap_cons, pair, List.cons_append, List.nil_append, decodeDigits?,
        Digits.hex?_lowerHex high, Digits.hex?_lowerHex low, ih, Option.bind_eq_bind,
        Option.bind_some, whole, UInt8.ofNat_toNat]
      rfl

theorem writes_encode (bytes : Bytes) : Writes (encode bytes) bytes where
  digits := by
    intro c member
    rw [encode, String.toList_ofList] at member
    obtain ⟨byte, -, digit⟩ := List.mem_flatMap.mp member
    obtain ⟨high, low⟩ := halves_lt byte
    simp only [pair, List.mem_cons, List.not_mem_nil, or_false] at digit
    rcases digit with rfl | rfl
    · exact Digits.lowerHex_mem high
    · exact Digits.lowerHex_mem low
  octets := by
    rw [decode?, encode, String.toList_ofList]
    exact decodeDigits?_flatMap_pair bytes

end Hex
end DidRegistry

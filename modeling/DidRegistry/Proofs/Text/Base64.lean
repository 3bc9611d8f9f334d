import DidRegistry.Text.Base64

/-!
Octets in base64. The characters of the alphabet stand for the numbers below sixty-four
(`value?_symbol`), and three octets make four such numbers; so octets are read back from the text
that writes them (`decode?_encode`), and from no other (`decode?_eq_some_iff`).
-/

namespace DidRegistry.Base64

theorem value?_symbol {value : Nat} (below : value < 64) : value? (symbol value) = some value := by
  have all : ∀ value : Fin 64, value? (symbol value) = some value.val := by decide
  exact all ⟨value, below⟩

/-- No number is written as what fills the last group up. -/
theorem symbol_ne_filling {value : Nat} (below : value < 64) : symbol value ≠ '=' := by
  have all : ∀ value : Fin 64, symbol value.val ≠ '=' := by decide
  exact all ⟨value, below⟩

/-- An octet is put together again from its upper and its lower part. -/
theorem ofNat_parts (byte : UInt8) {high low : Nat} (whole : high + low = byte.toNat) :
    UInt8.ofNat (high + low) = byte := by
  rw [whole, UInt8.ofNat_toNat]

/-- Three octets are read back from their group. -/
theorem group?_symbols (a b c : UInt8) :
    group? (symbol (a.toNat / 4)) (symbol (a.toNat % 4 * 16 + b.toNat / 16))
      (symbol (b.toNat % 16 * 4 + c.toNat / 64)) (symbol (c.toNat % 64)) = some [a, b, c] := by
  have first := a.toNat_lt
  have second := b.toNat_lt
  have third := c.toNat_lt
  simp only [group?, value?_symbol (show a.toNat / 4 < 64 by omega),
    value?_symbol (show a.toNat % 4 * 16 + b.toNat / 16 < 64 by omega),
    value?_symbol (show b.toNat % 16 * 4 + c.toNat / 64 < 64 by omega),
    value?_symbol (show c.toNat % 64 < 64 by omega), Option.bind_eq_bind, Option.bind_some]
  rw [ofNat_parts a (by omega), ofNat_parts b (by omega), ofNat_parts c (by omega)]
  rfl

theorem lastGroup?_of_ne {a b c d : Char} (full : d ≠ '=') : lastGroup? a b c d = group? a b c d :=
  if_neg full

/-- One octet is read back from the last group. -/
theorem lastGroup?_one (a : UInt8) :
    lastGroup? (symbol (a.toNat / 4)) (symbol (a.toNat % 4 * 16)) '=' '=' = some [a] := by
  have first := a.toNat_lt
  simp only [lastGroup?, if_true, value?_symbol (show a.toNat / 4 < 64 by omega),
    value?_symbol (show a.toNat % 4 * 16 < 64 by omega), Option.bind_eq_bind, Option.bind_some]
  rw [if_pos (by omega), ofNat_parts a (by omega)]
  rfl

/-- Two octets are read back from the last group. -/
theorem lastGroup?_two (a b : UInt8) :
    lastGroup? (symbol (a.toNat / 4)) (symbol (a.toNat % 4 * 16 + b.toNat / 16))
      (symbol (b.toNat % 16 * 4)) '=' = some [a, b] := by
  have first := a.toNat_lt
  have second := b.toNat_lt
  have third : b.toNat % 16 * 4 < 64 := by omega
  simp only [lastGroup?, if_true, if_neg (symbol_ne_filling third),
    value?_symbol (show a.toNat / 4 < 64 by omega),
    value?_symbol (show a.toNat % 4 * 16 + b.toNat / 16 < 64 by omega), value?_symbol third,
    Option.bind_eq_bind, Option.bind_some]
  rw [if_pos (by omega), ofNat_parts a (by omega), ofNat_parts b (by omega)]
  rfl

theorem decodeChars?_encodeChars (bytes : Bytes) :
    decodeChars? (encodeChars bytes) = some bytes := by
  induction bytes using encodeChars.induct with
  | case1 => rfl
  | case2 a => exact lastGroup?_one a
  | case3 a b => exact lastGroup?_two a b
  | case4 a b c rest ih =>
      rw [encodeChars]
      cases written : encodeChars rest with
      | nil =>
          rw [written] at ih
          cases ih
          have last : c.toNat % 64 < 64 := by omega
          rw [decodeChars?, lastGroup?_of_ne (symbol_ne_filling last), group?_symbols]
      | cons first others =>
          rw [decodeChars?, group?_symbols, ← written, ih]
          · rfl
          · exact List.cons_ne_nil _ _

/-- Octets are read back from the text that writes them. -/
theorem decode?_encode (bytes : Bytes) : decode? (encode bytes) = some bytes := by
  rw [decode?, encode, String.toList_ofList]
  exact decodeChars?_encodeChars bytes

/-! ### The canonical form -/

theorem symbol_lower {place : Nat} (below : place < 26) :
    symbol (place + 26) = Char.ofNat (97 + place) := by
  have all : ∀ place : Fin 26, symbol (place.val + 26) = Char.ofNat (97 + place.val) := by decide
  exact all ⟨place, below⟩

theorem symbol_figure {place : Nat} (below : place < 10) :
    symbol (place + 52) = Char.ofNat (48 + place) := by
  have all : ∀ place : Fin 10, symbol (place.val + 52) = Char.ofNat (48 + place.val) := by decide
  exact all ⟨place, below⟩

/-- A range of characters is written from its first. -/
theorem ofNat_place {c : Char} {first : Nat} (above : first ≤ c.toNat) :
    Char.ofNat (first + (c.toNat - first)) = c := by
  rw [Nat.add_sub_cancel' above, Char.ofNat_toNat]

theorem symbol_of_value? {c : Char} {value : Nat} (read : value? c = some value) :
    value < 64 ∧ symbol value = c := by
  unfold value? at read
  split at read
  · rename_i upper
    have range : 65 ≤ c.toNat ∧ c.toNat ≤ 90 := upper
    have below : c.toNat - 65 < 26 := by omega
    obtain rfl := Option.some.inj read
    exact ⟨Nat.lt_trans below (by decide), (if_pos below).trans (ofNat_place range.1)⟩
  split at read
  · rename_i lower
    have range : 97 ≤ c.toNat ∧ c.toNat ≤ 122 := lower
    have below : c.toNat - 97 < 26 := by omega
    obtain rfl := Option.some.inj read
    exact ⟨Nat.add_lt_add_right (Nat.lt_trans below (by decide : 26 < 38)) 26,
      (symbol_lower below).trans (ofNat_place range.1)⟩
  split at read
  · rename_i figure
    have range : 48 ≤ c.toNat ∧ c.toNat ≤ 57 := figure
    have below : c.toNat - 48 < 10 := by omega
    obtain rfl := Option.some.inj read
    exact ⟨Nat.add_lt_add_right (Nat.lt_trans below (by decide : 10 < 12)) 52,
      (symbol_figure below).trans (ofNat_place range.1)⟩
  split at read
  · rename_i plus
    obtain rfl := Option.some.inj read
    exact ⟨by decide, plus.symm⟩
  split at read
  · rename_i slash
    obtain rfl := Option.some.inj read
    exact ⟨by decide, slash.symm⟩
  · cases read

theorem toNat_ofNat (number : Nat) : (UInt8.ofNat number).toNat = number % 256 :=
  UInt8.toNat_ofNat'

/-- The first number of a group is the upper part of an octet. -/
theorem upper_place {first second : Nat} (firstBelow : first < 64) (secondBelow : second < 64) :
    (first * 4 + second / 16) % 256 / 4 = first := by
  omega

/-- The second number of a group is divided between two octets. -/
theorem divided_place {first second third : Nat} (secondBelow : second < 64)
    (thirdBelow : third < 64) :
    (first * 4 + second / 16) % 256 % 4 * 16 + (second % 16 * 16 + third / 4) % 256 / 16 =
      second := by
  omega

/-- A full group is written by the octets that are read from it. -/
theorem encodeChars_of_group? {a b c d : Char} {octets : Bytes}
    (read : group? a b c d = some octets) (rest : Bytes) :
    encodeChars (octets ++ rest) = a :: b :: c :: d :: encodeChars rest := by
  simp only [group?, Option.bind_eq_bind, Option.bind_eq_some_iff, Option.pure_def,
    Option.some.injEq] at read
  obtain ⟨first, readFirst, second, readSecond, third, readThird, fourth, readFourth, rfl⟩ := read
  obtain ⟨firstBelow, rfl⟩ := symbol_of_value? readFirst
  obtain ⟨secondBelow, rfl⟩ := symbol_of_value? readSecond
  obtain ⟨thirdBelow, rfl⟩ := symbol_of_value? readThird
  obtain ⟨fourthBelow, rfl⟩ := symbol_of_value? readFourth
  have thirdPlace : (second % 16 * 16 + third / 4) % 256 % 16 * 4 +
      (third % 4 * 64 + fourth) % 256 / 64 = third := by omega
  have fourthPlace : (third % 4 * 64 + fourth) % 256 % 64 = fourth := by omega
  simp only [List.cons_append, List.nil_append, encodeChars, toNat_ofNat, thirdPlace,
    fourthPlace, upper_place firstBelow secondBelow, divided_place secondBelow thirdBelow]

/-- The last group is written by the octets that are read from it. -/
theorem encodeChars_of_lastGroup? {a b c d : Char} {octets : Bytes}
    (read : lastGroup? a b c d = some octets) : encodeChars octets = [a, b, c, d] := by
  unfold lastGroup? at read
  split at read
  · rename_i filled
    subst filled
    split at read
    · rename_i filled
      subst filled
      simp only [Option.bind_eq_bind, Option.bind_eq_some_iff] at read
      obtain ⟨first, readFirst, second, readSecond, unused⟩ := read
      obtain ⟨firstBelow, rfl⟩ := symbol_of_value? readFirst
      obtain ⟨secondBelow, rfl⟩ := symbol_of_value? readSecond
      split at unused
      · rename_i zero
        obtain rfl := Option.some.inj unused
        have secondPlace : (first * 4 + second / 16) % 256 % 4 * 16 = second := by omega
        simp only [encodeChars, toNat_ofNat, secondPlace, upper_place firstBelow secondBelow]
      · cases unused
    · simp only [Option.bind_eq_bind, Option.bind_eq_some_iff] at read
      obtain ⟨first, readFirst, second, readSecond, third, readThird, unused⟩ := read
      obtain ⟨firstBelow, rfl⟩ := symbol_of_value? readFirst
      obtain ⟨secondBelow, rfl⟩ := symbol_of_value? readSecond
      obtain ⟨thirdBelow, rfl⟩ := symbol_of_value? readThird
      split at unused
      · rename_i zero
        obtain rfl := Option.some.inj unused
        have thirdPlace : (second % 16 * 16 + third / 4) % 256 % 16 * 4 = third := by omega
        simp only [encodeChars, toNat_ofNat, thirdPlace, upper_place firstBelow secondBelow,
          divided_place secondBelow thirdBelow]
      · cases unused
  · simpa [encodeChars] using encodeChars_of_group? read []

theorem encodeChars_of_decodeChars? {text : List Char} {octets : Bytes}
    (read : decodeChars? text = some octets) : encodeChars octets = text := by
  induction text using decodeChars?.induct generalizing octets with
  | case1 =>
      obtain rfl := Option.some.inj read
      rfl
  | case2 a b c d => exact encodeChars_of_lastGroup? read
  | case3 a b c d rest more ih =>
      rw [decodeChars?] at read
      · simp only [Option.bind_eq_bind, Option.bind_eq_some_iff, Option.pure_def] at read
        obtain ⟨first, readFirst, others, readOthers, same⟩ := read
        obtain rfl := Option.some.inj same
        rw [encodeChars_of_group? readFirst, ih readOthers]
      · exact more
  | case4 text empty last full =>
      rw [decodeChars?] at read
      · cases read
      · exact empty
      · exact last
      · exact full

/-- No other text is read as the octets than the one that writes them. -/
theorem decode?_eq_some_iff {text : String} {octets : Bytes} :
    decode? text = some octets ↔ text = encode octets := by
  constructor
  · intro read
    rw [encode, encodeChars_of_decodeChars? read, String.ofList_toList]
  · rintro rfl
    exact decode?_encode octets

end DidRegistry.Base64

import DidRegistry.Text.Digits
import DidRegistry.Text.Utf8
import Mathlib.Algebra.Group.Nat.Defs
import Mathlib.Data.List.Forall2

/-!
Numbers in columns. A numeral filled up with zeros is read back as its number
(`Digits.number?_padded`), has the width of its column and keeps the order of the numbers
(`Digits.padded_lt`). A row of numbers, each in its column and closed by the mark of that column, is
then read back (`FixedWidth.read?_write`), and rows come in the lexicographic order of their numbers
(`FixedWidth.ofText_write_lt`).
-/

namespace DidRegistry

/-! ### Numerals -/

namespace Digits

theorem decimal?_digitChar {digit : Nat} (below : digit < 10) :
    decimal? (Nat.digitChar digit) = some digit := by
  have all : ∀ digit : Fin 10, decimal? (Nat.digitChar digit) = some digit.val := by decide
  exact all ⟨digit, below⟩

theorem digitChar_lt {digit other : Nat} (before : digit < other) (below : other < 10) :
    Nat.digitChar digit < Nat.digitChar other := by
  rw [Char.lt_def, UInt32.lt_iff_toNat_lt]
  have first := Nat.toNat_digitChar_of_lt_ten (Nat.lt_trans before below)
  have second := Nat.toNat_digitChar_of_lt_ten below
  rw [Char.toNat] at first second
  omega

/-- Characters that write digits are below `:`, and so are octets of their own. -/
theorem toNat_lt_of_decimal? {c : Char} (digit : (decimal? c).isSome) : c.toNat < 128 := by
  unfold decimal? at digit
  split at digit
  · rename_i range
    have last : c.toNat ≤ '9'.toNat := range.2
    exact Nat.lt_of_le_of_lt last (by decide)
  · simp at digit

/-- The last digit of a numeral comes off its end. -/
theorem decimal_eq (value : Nat) :
    decimal value =
      (if value < 10 then [] else decimal (value / 10)) ++ [Nat.digitChar (value % 10)] := by
  rw [decimal, Nat.toDigits_eq_if (by decide)]
  split
  · rw [Nat.mod_eq_of_lt ‹_›]
    rfl
  · rfl

theorem number?_append_singleton (base : Nat) (digit? : Char → Option Nat) (text : List Char)
    (c : Char) :
    number? base digit? (text ++ [c]) =
      (number? base digit? text).bind fun value => (digit? c).map (base * value + ·) := by
  simp [number?, List.foldlM_append]

theorem number?_decimal (value : Nat) : number? 10 decimal? (decimal value) = some value := by
  induction value using Nat.strongRecOn with
  | _ value ih =>
      have digit := decimal?_digitChar (Nat.mod_lt value (by decide : 10 > 0))
      rw [decimal_eq, number?_append_singleton, digit]
      by_cases single : value < 10
      · simp [if_pos single, Nat.mod_eq_of_lt single, number?]
      · rw [if_neg single, ih _ (by omega), Option.bind_some, Option.map_some, Nat.div_add_mod]

/-- Zeros on the left do not count. -/
theorem number?_padded (width value : Nat) :
    number? 10 decimal? (padded width value) = some value := by
  have zeros : ∀ count, number? 10 decimal? (List.replicate count '0' ++ decimal value) =
      number? 10 decimal? (decimal value) := by
    intro count
    induction count with
    | zero => rfl
    | succ count ih =>
        rw [← ih]
        rfl
  rw [padded, zeros, number?_decimal]

/-- A text that is read as a number is all digits. -/
theorem isSome_of_number? {base value : Nat} {digit? : Char → Option Nat} {text : List Char}
    (read : number? base digit? text = some value) : ∀ c ∈ text, (digit? c).isSome := by
  have all : ∀ start, text.foldlM (fun value c => (digit? c).map (base * value + ·)) start =
      some value → ∀ c ∈ text, (digit? c).isSome := by
    clear read
    induction text with
    | nil => simp
    | cons c rest ih =>
        intro start read
        rw [List.foldlM_cons] at read
        obtain ⟨next, digit, read⟩ := Option.bind_eq_some_iff.mp read
        obtain ⟨number, digit, -⟩ := Option.map_eq_some_iff.mp digit
        exact List.forall_mem_cons.mpr ⟨Option.isSome_of_eq_some digit, ih next read⟩
  exact all 0 read

/-- A column that is one wider has one more digit at the end. -/
theorem padded_succ (width value : Nat) :
    padded (width + 2) value =
      padded (width + 1) (value / 10) ++ [Nat.digitChar (value % 10)] := by
  by_cases single : value < 10
  · have zero : decimal (value / 10) = ['0'] := by
      rw [Nat.div_eq_of_lt single]
      rfl
    rw [padded, padded, zero, decimal_eq value, if_pos single]
    simp [List.replicate_succ']
  · rw [padded, padded, decimal_eq value, if_neg single]
    simp

theorem length_padded {width value : Nat} (below : value < 10 ^ (width + 1)) :
    (padded (width + 1) value).length = width + 1 := by
  induction width generalizing value with
  | zero =>
      rw [padded, decimal_eq, if_pos (by omega)]
      rfl
  | succ width ih =>
      rw [padded_succ, List.length_append, ih (by rw [Nat.pow_succ] at below; omega)]
      rfl

/-- Texts of one length are in order as soon as their beginnings are. -/
theorem append_lt_append {front other : List Char} (before : front < other)
    (even : front.length = other.length) (back rest : List Char) :
    front ++ back < other ++ rest := by
  induction front generalizing other with
  | nil =>
      rw [List.eq_nil_of_length_eq_zero even.symm] at before
      exact absurd before (List.not_lt_nil _)
  | cons c front ih =>
      cases other with
      | nil => simp at even
      | cons d other =>
          rw [List.cons_append, List.cons_append, List.cons_lt_cons_iff]
          rcases List.cons_lt_cons_iff.mp before with first | ⟨same, before⟩
          · exact Or.inl first
          · exact Or.inr ⟨same, ih before (Nat.succ.inj even)⟩

/-- In a column, the numerals have the order of their numbers. -/
theorem padded_lt {width value other : Nat} (before : value < other)
    (below : other < 10 ^ (width + 1)) : padded (width + 1) value < padded (width + 1) other := by
  induction width generalizing value other with
  | zero =>
      have single : other < 10 := by omega
      rw [padded, padded, decimal_eq, decimal_eq other, if_pos single,
        if_pos (Nat.lt_trans before single), Nat.mod_eq_of_lt single,
        Nat.mod_eq_of_lt (Nat.lt_trans before single)]
      exact List.cons_lt_cons_iff.mpr (Or.inl (digitChar_lt before single))
  | succ width ih =>
      have shorter : other / 10 < 10 ^ (width + 1) := by
        rw [Nat.pow_succ] at below
        omega
      rw [padded_succ, padded_succ]
      by_cases same : value / 10 = other / 10
      · rw [same]
        apply List.append_left_lt
        exact List.cons_lt_cons_iff.mpr (Or.inl (digitChar_lt (by omega) (by omega)))
      · have front : value / 10 < other / 10 := by omega
        apply append_lt_append (ih front shorter)
        rw [length_padded (Nat.lt_trans front shorter), length_padded shorter]

end Digits

/-! ### Rows of numbers -/

/-- A column for numbers of so many digits, and the mark that closes it. -/
structure Column where
  width : Nat
  mark : Char
  width_pos : 0 < width := by decide

theorem Column.exists_width (column : Column) : ∃ width, column.width = width + 1 :=
  Nat.exists_eq_succ_of_ne_zero (Nat.ne_of_gt column.width_pos)

namespace FixedWidth

def write : List Column → List Nat → List Char
  | column :: columns, value :: values =>
      Digits.padded column.width value ++ column.mark :: write columns values
  | _, _ => []

/-- The numbers of a row that has just these columns. -/
def read? : List Column → List Char → Option (List Nat)
  | [], text => if text = [] then some [] else none
  | column :: columns, text => do
      let value ← Digits.number? 10 Digits.decimal? (text.take column.width)
      if (text.drop column.width).head? = some column.mark then
        let values ← read? columns (text.drop (column.width + 1))
        return value :: values
      else none

/-- The numbers are as many as the columns, and each is small enough for its own. -/
def Fits : List Column → List Nat → Prop :=
  List.Forall₂ fun column value => value < 10 ^ column.width

theorem length_padded {column : Column} {value : Nat} (below : value < 10 ^ column.width) :
    (Digits.padded column.width value).length = column.width := by
  obtain ⟨width, whole⟩ := column.exists_width
  rw [whole] at below ⊢
  exact Digits.length_padded below

theorem padded_lt {column : Column} {value other : Nat} (before : value < other)
    (below : other < 10 ^ column.width) :
    Digits.padded column.width value < Digits.padded column.width other := by
  obtain ⟨width, whole⟩ := column.exists_width
  rw [whole] at below ⊢
  exact Digits.padded_lt before below

/-- A column is read without regard to what follows it. -/
theorem read?_column {column : Column} {value : Nat} (below : value < 10 ^ column.width)
    (columns : List Column) (rest : List Char) :
    read? (column :: columns) (Digits.padded column.width value ++ column.mark :: rest) =
      (read? columns rest).map (value :: ·) := by
  have width := length_padded below
  have number : (Digits.padded column.width value ++ column.mark :: rest).take column.width =
      Digits.padded column.width value := List.take_left' width
  have mark : (Digits.padded column.width value ++ column.mark :: rest).drop column.width =
      column.mark :: rest := List.drop_left' width
  rw [read?, ← List.drop_drop, number, mark, Digits.number?_padded]
  simp only [List.head?_cons, ↓reduceIte, List.drop_succ_cons, List.drop_zero, Option.pure_def,
    Option.bind_eq_bind, Option.bind_some]
  exact Option.map_eq_bind.symm

/-- A row is read back as its numbers. -/
theorem read?_write {columns : List Column} {values : List Nat} (fits : Fits columns values) :
    read? columns (write columns values) = some values := by
  induction fits with
  | nil => rfl
  | cons below _ ih => rw [write, read?_column below, ih, Option.map_some]

/-- Rows have the order of their numbers, the first that differs deciding. -/
theorem write_lt {columns : List Column} {values others : List Nat} (fits : Fits columns values)
    (also : Fits columns others) (before : values < others) :
    write columns values < write columns others := by
  induction fits generalizing others with
  | nil =>
      cases also
      exact absurd before (List.lt_irrefl _)
  | @cons column value columns values below _ ih =>
      cases also with
      | @cons _ other _ others fit also =>
          rcases List.cons_lt_cons_iff.mp before with first | ⟨rfl, later⟩
          · apply Digits.append_lt_append (padded_lt first fit)
            rw [length_padded below, length_padded fit]
          · apply List.append_left_lt
            exact List.cons_lt_cons_iff.mpr (Or.inr ⟨rfl, ih also later⟩)

theorem toNat_lt_of_mem_write {columns : List Column} {values : List Nat}
    (marks : ∀ column ∈ columns, column.mark.toNat < 128) :
    ∀ c ∈ write columns values, c.toNat < 128 := by
  induction columns generalizing values with
  | nil => simp [write]
  | cons column columns ih =>
      obtain ⟨mark, marks⟩ := List.forall_mem_cons.mp marks
      cases values with
      | nil => simp [write]
      | cons value values =>
          intro c member
          rcases List.mem_append.mp member with digit | member
          · have read := Digits.number?_padded column.width value
            exact Digits.toNat_lt_of_decimal? (Digits.isSome_of_number? read c digit)
          · rcases List.mem_cons.mp member with rfl | member
            · exact mark
            · exact ih marks c member

end FixedWidth

/-! ### The order of octets -/

namespace Bytes

/-- A text of characters below 128 has an octet for each. -/
theorem ofText_of_ascii {text : List Char} (ascii : ∀ c ∈ text, c.toNat < 128) :
    ofText (String.ofList text) = text.map fun c => c.val.toUInt8 := by
  rw [ofText, String.toList_ofList]
  induction text with
  | nil => rfl
  | cons c rest ih =>
      obtain ⟨small, ascii⟩ := List.forall_mem_cons.mp ascii
      have single : c.utf8Size = 1 := by
        rw [Char.utf8Size_eq_one_iff, UInt32.le_iff_toNat_le]
        exact Nat.le_of_lt_succ small
      rw [List.flatMap_cons, String.utf8EncodeChar_eq_singleton single, ih ascii]
      rfl

/-- The octets of such texts have the order of their characters. -/
theorem ofText_lt_of_ascii {text other : List Char} (ascii : ∀ c ∈ text, c.toNat < 128)
    (also : ∀ c ∈ other, c.toNat < 128) (before : text < other) :
    ofText (String.ofList text) < ofText (String.ofList other) := by
  rw [ofText_of_ascii ascii, ofText_of_ascii also]
  induction text generalizing other with
  | nil =>
      cases other with
      | nil => exact absurd before (List.lt_irrefl _)
      | cons d other => exact List.nil_lt_cons _ _
  | cons c text ih =>
      cases other with
      | nil => exact absurd before (List.not_lt_nil _)
      | cons d other =>
          obtain ⟨small, rest⟩ := List.forall_mem_cons.mp ascii
          obtain ⟨fit, others⟩ := List.forall_mem_cons.mp also
          rw [List.map_cons, List.map_cons, List.cons_lt_cons_iff]
          rcases List.cons_lt_cons_iff.mp before with first | ⟨rfl, later⟩
          · left
            rw [Char.lt_def, UInt32.lt_iff_toNat_lt] at first
            rw [UInt8.lt_iff_toNat_lt, UInt32.toNat_toUInt8, UInt32.toNat_toUInt8]
            rw [Char.toNat] at small fit
            omega
          · exact Or.inr ⟨rfl, ih rest others later⟩

end Bytes

/-- Rows have the order of their numbers octet by octet too. -/
theorem FixedWidth.ofText_write_lt {columns : List Column} {values others : List Nat}
    (marks : ∀ column ∈ columns, column.mark.toNat < 128) (fits : Fits columns values)
    (also : Fits columns others) (before : values < others) :
    Bytes.ofText (String.ofList (write columns values)) <
      Bytes.ofText (String.ofList (write columns others)) :=
  Bytes.ofText_lt_of_ascii (toNat_lt_of_mem_write marks) (toNat_lt_of_mem_write marks)
    (write_lt fits also before)

end DidRegistry

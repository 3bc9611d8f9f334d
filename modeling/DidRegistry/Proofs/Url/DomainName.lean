import DidRegistry.Proofs.Text.Split
import DidRegistry.Url.DomainName
import Mathlib.Data.List.TakeDrop
import Mathlib.Data.List.TakeWhile
import Mathlib.Data.Option.Basic

/-!
The letters that names of hosts are written in. No character that names refuse is in a name that has
been read (`DomainName.isRefused_of_mem`): labels of ASCII are checked for it, and the others are
written with the letters that they have in ASCII, with hyphens, and with the digits of their codes.
-/

namespace DidRegistry

/-- Letters and figures by their numbers. -/
theorem isAlphanum_iff {c : Char} : c.isAlphanum = true ↔
    (65 ≤ c.toNat ∧ c.toNat ≤ 90) ∨ (97 ≤ c.toNat ∧ c.toNat ≤ 122) ∨
      (48 ≤ c.toNat ∧ c.toNat ≤ 57) := by
  have shown : c.isAlphanum = ((decide ('A'.val ≤ c.val ∧ c.val ≤ 'Z'.val) ||
      ('a'.val ≤ c.val && c.val ≤ 'z'.val)) || ('0'.val ≤ c.val && c.val ≤ '9'.val)) := rfl
  rw [shown]
  simp only [Bool.or_eq_true, Bool.and_eq_true, decide_eq_true_eq, or_assoc]
  exact Iff.rfl

/-! ### Readings that fail as a whole -/

/-- What is read of a list is read of its members. -/
theorem exists_of_mem_mapM {α β : Type} {f : α → Option β} {list : List α} {read : List β}
    (whole : list.mapM f = some read) {b : β} (member : b ∈ read) : ∃ a ∈ list, f a = some b := by
  induction list generalizing read with
  | nil =>
      cases whole
      cases member
  | cons a rest ih =>
      simp only [List.mapM_cons, Option.bind_eq_bind, Option.bind_eq_some_iff, Option.pure_def,
        Option.some.injEq] at whole
      obtain ⟨first, readFirst, others, readOthers, rfl⟩ := whole
      rcases List.mem_cons.mp member with rfl | later
      · exact ⟨a, List.mem_cons_self .., readFirst⟩
      · obtain ⟨c, among, readLater⟩ := ih readOthers later
        exact ⟨c, List.mem_cons_of_mem _ among, readLater⟩

namespace Punycode

/-! ### Writing -/

theorem isAlphanum_digit {value : Nat} (below : value < 36) : (digit value).isAlphanum = true := by
  have all : ∀ value : Fin 36, (digit value).isAlphanum = true := by decide
  exact all ⟨value, below⟩

theorem threshold_bounds (position bias : Nat) :
    1 ≤ threshold position bias ∧ threshold position bias ≤ 26 := by
  unfold threshold
  split
  · omega
  · split <;> omega

/-- A number is written with digits, as long as there is a step for each of its units. -/
theorem isAlphanum_of_mem_number {bias fuel position value : Nat} (enough : value ≤ fuel) {c : Char}
    (member : c ∈ number bias fuel position value) : c.isAlphanum = true := by
  induction fuel generalizing position value with
  | zero =>
      rw [List.mem_singleton.mp member]
      exact isAlphanum_digit (by omega)
  | succ fuel ih =>
      obtain ⟨least, most⟩ := threshold_bounds position bias
      simp only [number] at member
      by_cases small : value < threshold position bias
      · rw [if_pos small] at member
        rw [List.mem_singleton.mp member]
        exact isAlphanum_digit (by omega)
      · rw [if_neg small] at member
        rcases List.mem_cons.mp member with rfl | later
        · have rest : (value - threshold position bias) % (36 - threshold position bias) <
              36 - threshold position bias := Nat.mod_lt _ (by omega)
          exact isAlphanum_digit (by omega)
        · refine ih ?_ later
          have less : (value - threshold position bias) / (36 - threshold position bias) ≤
              value - threshold position bias := Nat.div_le_self ..
          omega

/-- What a writer has put out is made of characters of a name, of hyphens and of digits. -/
def Writer.Keeps (name : List Char) (writer : Writer) : Prop :=
  ∀ c ∈ writer.output, c ∈ name ∨ c = '-' ∨ c.isAlphanum = true

variable {name : List Char} {basic code : Nat} {writer : Writer}

theorem Writer.Keeps.pass (keeps : writer.Keeps name) (c : Char) :
    (pass basic code writer c).Keeps name := by
  unfold Punycode.pass
  split
  · exact keeps
  · split
    · intro d member
      rcases List.mem_append.mp member with before | digits
      · exact keeps d before
      · exact Or.inr (Or.inr (isAlphanum_of_mem_number (Nat.le_refl _) digits))
    · exact keeps

theorem Writer.Keeps.foldl_pass (keeps : writer.Keeps name) (text : List Char) :
    (text.foldl (Punycode.pass basic code) writer).Keeps name := by
  induction text generalizing writer with
  | nil => exact keeps
  | cons c rest ih => exact ih (keeps.pass c)

theorem Writer.Keeps.place {text : List Char} {reached : Nat} {codes : List Nat}
    (keeps : writer.Keeps name) : (place text basic reached codes writer).Keeps name := by
  induction codes generalizing writer reached with
  | nil => exact keeps
  | cons code codes ih =>
      refine ih ?_
      have advanced : Writer.Keeps name { writer with
          delta := writer.delta + (code - reached) * (writer.placed + 1) } := keeps
      exact advanced.foldl_pass text

/-- A name is written with its own characters, with hyphens and with digits. -/
theorem mem_encode {c : Char} (member : c ∈ encode name) :
    c ∈ name ∨ c = '-' ∨ c.isAlphanum = true := by
  refine (Writer.Keeps.place ?_ : Writer.Keeps name _) c member
  intro d start
  change d ∈ (if _ then _ else _) at start
  split at start
  · cases start
  · rcases List.mem_append.mp start with basic | hyphen
    · exact Or.inl (List.mem_filter.mp basic).1
    · exact Or.inr (Or.inl (List.mem_singleton.mp hyphen))

/-! ### Reading -/

theorem isAlphanum_of_value? {c : Char} {value : Nat} (read : value? c = some value) :
    c.isAlphanum = true := by
  unfold value? at read
  split at read
  · rename_i letter
    exact isAlphanum_iff.mpr (Or.inr (Or.inl letter))
  · split at read
    · rename_i figure
      exact isAlphanum_iff.mpr (Or.inr (Or.inr figure))
    · cases read

/-- A digit leaves the characters that are in place where they are. -/
theorem subset_of_readDigit {reader next : Reader} {c : Char}
    (read : readDigit reader c = some next) :
    c.isAlphanum = true ∧ reader.name ⊆ next.name := by
  simp only [readDigit, Option.bind_eq_bind, Option.bind_eq_some_iff] at read
  obtain ⟨value, digit, read⟩ := read
  refine ⟨isAlphanum_of_value? digit, ?_⟩
  split at read
  · cases read
  split at read
  · unfold settlePlace at read
    simp only [Option.ite_none_right_eq_some, Option.some.injEq] at read
    obtain ⟨-, rfl⟩ := read
    intro d member
    rw [← List.take_append_drop (_ % _) reader.name] at member
    rcases List.mem_append.mp member with before | behind
    · exact List.mem_append_left _ before
    · exact List.mem_append_right _ (List.mem_cons_of_mem _ behind)
  · split at read
    · cases read
    · cases read
      exact List.Subset.refl _

theorem subset_of_readDigits {digits : List Char} {reader last : Reader}
    (read : digits.foldlM readDigit reader = some last) :
    (∀ c ∈ digits, c.isAlphanum = true) ∧ reader.name ⊆ last.name := by
  induction digits generalizing reader with
  | nil =>
      cases read
      exact ⟨by simp, List.Subset.refl _⟩
  | cons c rest ih =>
      simp only [List.foldlM_cons, Option.bind_eq_bind, Option.bind_eq_some_iff] at read
      obtain ⟨next, first, others⟩ := read
      obtain ⟨alphanum, kept⟩ := subset_of_readDigit first
      obtain ⟨all, later⟩ := ih others
      exact ⟨List.forall_mem_cons.mpr ⟨alphanum, all⟩, List.Subset.trans kept later⟩

/-- A text is its letters, a hyphen and its digits, or it has no hyphen to be cut at. -/
theorem mem_of_cutAtHyphen {text letters digits : List Char} {c : Char}
    (cut : cutAtHyphen text = (letters, digits)) (member : c ∈ text) :
    c ∈ letters ∨ c = '-' ∨ c ∈ digits := by
  unfold cutAtHyphen at cut
  split at cut
  · rename_i behind mark last before split
    cases cut
    rw [List.span_eq_takeWhile_dropWhile, Prod.mk.injEq] at split
    have whole := List.takeWhile_append_dropWhile (p := (· != '-')) (l := text.reverse)
    rw [split.1, split.2] at whole
    have hyphen : mark = '-' := by
      have stops := List.head?_dropWhile_not (· != '-') text.reverse
      rw [split.2] at stops
      simpa using stops
    rw [← List.mem_reverse, ← whole, List.mem_append, List.mem_cons] at member
    rcases member with digit | rfl | letter
    · exact Or.inr (Or.inr (List.mem_reverse.mpr digit))
    · exact Or.inr (Or.inl hyphen)
    · exact Or.inl (List.mem_reverse.mpr letter)
  · cases cut
    exact Or.inr (Or.inr member)

/-- A text that is read is made of the name's characters, of hyphens and of digits. -/
theorem mem_of_decode? {text : List Char} (read : decode? text = some name) {c : Char}
    (member : c ∈ text) : c ∈ name ∨ c = '-' ∨ c.isAlphanum = true := by
  unfold decode? at read
  cases cut : cutAtHyphen text with
  | mk letters digits =>
      simp only [cut, Option.bind_eq_bind, Option.bind_eq_some_iff] at read
      obtain ⟨last, placed, ended⟩ := read
      obtain ⟨all, kept⟩ := subset_of_readDigits placed
      simp only [Option.pure_def, Option.ite_none_right_eq_some, Option.some.injEq] at ended
      obtain ⟨-, rfl⟩ := ended
      rcases mem_of_cutAtHyphen cut member with letter | hyphen | digit
      · exact Or.inl (kept letter)
      · exact Or.inr (Or.inl hyphen)
      · exact Or.inr (Or.inr (all c digit))

end Punycode

namespace DomainName

variable {c : Char}

/-- Letters and figures are allowed in names. -/
theorem isRefused_of_isAlphanum (alphanum : c.isAlphanum = true) : isRefused c = false := by
  have visible : 0x20 < c.toNat := by
    have range := isAlphanum_iff.mp alphanum
    omega
  have marks : ∀ mark ∈ ['%', '#', '/', ':', '<', '>', '?', '@', '[', '\\', ']', '^', '|',
      '\x7f'], mark.isAlphanum = false := by simp
  rw [isRefused, Bool.or_eq_false_iff]
  refine ⟨decide_eq_false (by omega), ?_⟩
  rw [← Bool.not_eq_true, List.contains_iff_mem]
  intro member
  rw [marks c member] at alphanum
  cases alphanum

/-- A hyphen is allowed in names. -/
theorem isRefused_hyphen : isRefused '-' = false := by decide

/-- No label is written with a character that names refuse. -/
theorem Label.isRefused_of_mem {text : List Char} {label : Label}
    (read : Label.ofText? text = some label) (member : c ∈ label.written) :
    isRefused c = false := by
  -- What is neither a hyphen nor alphanumeric comes from a text that has been checked.
  have allowed : ∀ {checked : List Char}, checked.any isRefused = false →
      c ∈ checked ∨ c = '-' ∨ c.isAlphanum = true → isRefused c = false := by
    intro checked none origin
    rcases origin with among | rfl | alphanum
    · exact Bool.eq_false_iff.mpr (List.any_eq_false.mp none c among)
    · exact isRefused_hyphen
    · exact isRefused_of_isAlphanum alphanum
  have mark : c ∈ encodedMark → isRefused c = false := by
    have all : ∀ c ∈ encodedMark, isRefused c = false := by simp [encodedMark, isRefused]
    exact all c
  unfold ofText? at read
  split at read
  · rename_i encoded
    simp only [ofEncoded?, Option.bind_eq_bind, Option.bind_eq_some_iff, Option.guard_eq_some',
      Option.pure_def, Option.some.injEq] at read
    obtain ⟨-, -, meaning, decoded, -, -, -, refused, -, -, rfl⟩ := read
    rw [Bool.not_eq_true', Bool.or_eq_false_iff] at refused
    rw [← List.take_append_drop encodedMark.length text] at member
    rcases List.mem_append.mp member with first | letter
    · rw [isEncoded, beq_iff_eq] at encoded
      exact mark (encoded ▸ first)
    · exact allowed refused.2 (Punycode.mem_of_decode? decoded letter)
  · split at read
    · cases read
    · rename_i checked
      rw [Bool.not_eq_true, Bool.or_eq_false_iff] at checked
      split at read
      · cases read
        exact allowed checked.1 (Or.inl member)
      · cases read
        rcases List.mem_append.mp member with first | letter
        · exact mark first
        · exact allowed checked.1 (Punycode.mem_encode letter)

/-- The labels of a piece are read one by one. -/
theorem exists_of_labels? {piece : List Char} {labels : List Label}
    (read : labels? piece = some labels) :
    ∃ normal, (Split.pieces (· == '.') normal).mapM Label.ofText? = some labels := by
  unfold labels? at read
  split at read
  · exact ⟨_, read⟩
  · simp only [Option.bind_eq_bind, Option.bind_eq_some_iff] at read
    obtain ⟨normal, -, labelled⟩ := read
    exact ⟨normal, labelled⟩

/-- No name is written with a character that names refuse. -/
theorem isRefused_of_mem {text written : List Char} (read : ofText? text = some written)
    (member : c ∈ written) : isRefused c = false := by
  simp only [ofText?, Option.bind_eq_bind, Option.bind_eq_some_iff, Option.guard_eq_some',
    Option.pure_def, Option.some.injEq] at read
  obtain ⟨pieces, readPieces, -, -, rfl⟩ := read
  rcases Split.mem_joined member with rfl | ⟨part, among, inside⟩
  · decide
  · obtain ⟨label, labelled, rfl⟩ := List.mem_map.mp among
    obtain ⟨labels, whole, within⟩ := List.mem_flatten.mp labelled
    obtain ⟨piece, -, readPiece⟩ := exists_of_mem_mapM readPieces whole
    obtain ⟨normal, readLabels⟩ := exists_of_labels? readPiece
    obtain ⟨text, -, readLabel⟩ := exists_of_mem_mapM readLabels within
    exact Label.isRefused_of_mem readLabel inside

end DomainName
end DidRegistry

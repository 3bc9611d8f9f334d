import DidRegistry.Text.Split

/-!
Pieces of texts. A separator ends a piece, and what is between separators is in a piece
(`Split.pieces_append`, `Split.mem_of_mem_pieces`). So parts without separators are read back from
the text that joins them (`Split.pieces_joined`).
-/

namespace DidRegistry.Split

variable {α : Type} {separates : α → Bool} {mark separator a : α} {front piece : List α}
  {parts : List (List α)}

theorem consFirst_append (nonempty : parts ≠ []) (others : List (List α)) :
    consFirst a (parts ++ others) = consFirst a parts ++ others := by
  cases parts with
  | nil => exact absurd rfl nonempty
  | cons part rest => rfl

/-- A separator ends a piece. -/
theorem pieces_append (separator : separates mark = true) (front back : List α) :
    pieces separates (front ++ mark :: back) = pieces separates front ++ pieces separates back := by
  induction front with
  | nil => simp [pieces, separator]
  | cons a rest ih =>
      simp only [List.cons_append, pieces, ih]
      split
      · rfl
      · exact consFirst_append (pieces_ne_nil _ _) _

/-- A text without separators is one piece. -/
theorem pieces_of_unseparated (unseparated : ∀ a ∈ front, separates a = false) :
    pieces separates front = [front] := by
  induction front with
  | nil => rfl
  | cons a rest ih =>
      have first := unseparated a (List.mem_cons_self ..)
      have others := ih fun b member => unseparated b (List.mem_cons_of_mem _ member)
      simp [pieces, first, others, consFirst]

/-- The first piece ends at the first separator. -/
theorem exists_pieces (separates : α → Bool) (text : List α) :
    ∃ others, pieces separates text = text.takeWhile (fun a => !separates a) :: others := by
  induction text with
  | nil => exact ⟨[], rfl⟩
  | cons a rest ih =>
      obtain ⟨others, cut⟩ := ih
      cases separated : separates a with
      | true => exact ⟨pieces separates rest, by simp [pieces, separated]⟩
      | false => exact ⟨others, by simp [pieces, separated, cut, consFirst]⟩

/-- A text that ends in no separator has a piece at its end that is not empty. -/
theorem exists_last_piece (front : List α) (part : separates a = false) :
    ∃ others last, pieces separates (front ++ [a]) = others ++ [last] ∧ last ≠ [] := by
  induction front with
  | nil => exact ⟨[], [a], by simp [pieces, part, consFirst], by simp⟩
  | cons b front ih =>
      obtain ⟨others, last, cut, nonempty⟩ := ih
      rw [List.cons_append, pieces, cut]
      split
      · exact ⟨[] :: others, last, rfl, nonempty⟩
      · cases others with
        | nil => exact ⟨[], b :: last, rfl, by simp⟩
        | cons first others => exact ⟨(b :: first) :: others, last, rfl, nonempty⟩

/-- Pieces have what is between the separators. -/
theorem mem_of_mem_pieces {text : List α} (among : piece ∈ pieces separates text)
    (member : a ∈ piece) : a ∈ text ∧ separates a = false := by
  induction text generalizing piece with
  | nil =>
      rw [List.mem_singleton.mp among] at member
      cases member
  | cons b rest ih =>
      have later : piece ∈ pieces separates rest → a ∈ b :: rest ∧ separates a = false := by
        intro among
        exact ⟨List.mem_cons_of_mem _ (ih among member).1, (ih among member).2⟩
      unfold pieces at among
      split at among
      · rcases List.mem_cons.mp among with rfl | among
        · cases member
        · exact later among
      · rename_i unseparated
        obtain ⟨first, others, cut⟩ := List.exists_cons_of_ne_nil (pieces_ne_nil separates rest)
        rw [cut, consFirst] at among
        rcases List.mem_cons.mp among with rfl | among
        · rcases List.mem_cons.mp member with rfl | member
          · exact ⟨List.mem_cons_self .., Bool.eq_false_iff.mpr unseparated⟩
          · have leads : first ∈ pieces separates rest := by
              rw [cut]
              exact List.mem_cons_self ..
            have within := ih leads member
            exact ⟨List.mem_cons_of_mem _ within.1, within.2⟩
        · exact later (by rw [cut]; exact List.mem_cons_of_mem _ among)

/-- Pieces depend on what separates in the text. -/
theorem pieces_congr {other : α → Bool} {text : List α}
    (same : ∀ a ∈ text, separates a = other a) : pieces separates text = pieces other text := by
  induction text with
  | nil => rfl
  | cons a rest ih =>
      have first := same a (List.mem_cons_self ..)
      have others := ih fun b member => same b (List.mem_cons_of_mem _ member)
      rw [pieces, pieces, first, others]

/-! ### Joined parts -/

/-- Parts are joined with separators and nothing else. -/
theorem mem_joined (member : a ∈ joined separator parts) :
    a = separator ∨ ∃ part ∈ parts, a ∈ part := by
  induction parts with
  | nil => cases member
  | cons part rest ih =>
      cases rest with
      | nil => exact Or.inr ⟨part, List.mem_cons_self .., member⟩
      | cons next rest =>
          rcases List.mem_append.mp member with first | later
          · exact Or.inr ⟨part, List.mem_cons_self .., first⟩
          · rcases List.mem_cons.mp later with same | among
            · exact Or.inl same
            · rcases ih among with same | ⟨other, within, inside⟩
              · exact Or.inl same
              · exact Or.inr ⟨other, List.mem_cons_of_mem _ within, inside⟩

theorem joined_eq_intercalate (separator : α) (parts : List (List α)) :
    joined separator parts = [separator].intercalate parts := by
  induction parts with
  | nil => rfl
  | cons part rest ih =>
      cases rest with
      | nil => simp [joined]
      | cons next rest => simp [joined, ih]

/-- Parts without separators are read back from the text that joins them. -/
theorem pieces_joined [BEq α] [LawfulBEq α] (nonempty : parts ≠ [])
    (whole : ∀ part ∈ parts, separator ∉ part) :
    pieces (· == separator) (joined separator parts) = parts := by
  induction parts with
  | nil => exact absurd rfl nonempty
  | cons part rest ih =>
      have first : pieces (· == separator) part = [part] := by
        apply pieces_of_unseparated
        intro a member
        exact beq_eq_false_iff_ne.mpr fun same => whole part (List.mem_cons_self ..) (same ▸ member)
      cases rest with
      | nil => exact first
      | cons next rest =>
          have others := ih (List.cons_ne_nil _ _) fun part member =>
            whole part (List.mem_cons_of_mem _ member)
          have apart :
              pieces (· == separator) (part ++ separator :: joined separator (next :: rest)) =
                pieces (· == separator) part ++
                  pieces (· == separator) (joined separator (next :: rest)) :=
            pieces_append (by simp) ..
          exact apart.trans (by rw [first, others, List.singleton_append])

end DidRegistry.Split

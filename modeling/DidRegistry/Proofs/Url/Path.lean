import DidRegistry.Proofs.Text.Split
import DidRegistry.Proofs.Url.Continuation

/-!
Paths and their segments. Dots are resolved once: what has been read is written with segments that
are kept when it is read again (`Url.IsSegment`), and where no segment is dots, nothing is resolved
(`Url.resolveDots_of_undotted`).
-/

namespace DidRegistry

namespace Url

/-! ### Dots -/

/-- Whether a segment stands for a place relative to itself. -/
def isDots (segment : String) : Bool := isSingleDot segment || isDoubleDot segment

variable {above list rest : List String} {segment : String}

theorem keptSegment_false (above : List String) (segment : String) :
    keptSegment false above segment = segment :=
  rfl

/-- Segments without dots are kept. -/
theorem resolveDots_append (undotted : ∀ segment ∈ list, isDots segment = false)
    (nonempty : rest ≠ []) :
    resolveDots false above (list ++ rest) = resolveDots false (list.reverse ++ above) rest := by
  induction list generalizing above with
  | nil => rfl
  | cons segment list ih =>
      have first := undotted segment (List.mem_cons_self ..)
      rw [isDots, Bool.or_eq_false_iff] at first
      obtain ⟨next, others, more⟩ :=
        List.exists_cons_of_ne_nil (List.append_ne_nil_of_right_ne_nil list nonempty)
      rw [List.cons_append, more, resolveDots, first.1, first.2, ← more, keptSegment_false,
        List.reverse_cons, List.append_assoc, List.singleton_append]
      · exact ih fun other member => undotted other (List.mem_cons_of_mem _ member)
      · intro empty
        cases empty

/-- If no segment is dots, all are kept. -/
theorem resolveDots_of_undotted (undotted : ∀ segment ∈ list, isDots segment = false) :
    resolveDots false above list = above.reverse ++ list := by
  rcases List.eq_nil_or_concat list with rfl | ⟨front, last, rfl⟩
  · simp [resolveDots]
  · have ends := undotted last (by simp)
    rw [isDots, Bool.or_eq_false_iff] at ends
    rw [List.concat_eq_append] at undotted ⊢
    have before : ∀ segment ∈ front, isDots segment = false := by
      intro segment member
      exact undotted segment (List.mem_append_left _ member)
    rw [resolveDots_append before (by simp)]
    simp [resolveDots, ends.1, ends.2, keptSegment_false]

theorem parent_subset (list : List String) : parent list ⊆ list := by
  cases list with
  | nil => exact List.Subset.refl _
  | cons top rest =>
      rw [parent]
      split
      · exact List.Subset.refl _
      · exact List.subset_cons_self ..

theorem isDots_eq_false (double : isDoubleDot segment ≠ true) (single : isSingleDot segment ≠ true) :
    isDots segment = false := by
  simp [isDots, double, single]

/-- A segment is kept, or moves the place of what follows it. -/
theorem resolveDots_cons (above : List String) (segment next : String) (rest : List String) :
    ∃ higher, resolveDots false above (segment :: next :: rest) =
        resolveDots false higher (next :: rest) ∧
      ∀ other ∈ higher, other ∈ above ∨ (other = segment ∧ isDots segment = false) := by
  by_cases double : isDoubleDot segment = true
  · refine ⟨parent above, by simp [resolveDots, double], ?_⟩
    intro other member
    exact Or.inl (parent_subset above member)
  by_cases single : isSingleDot segment = true
  · refine ⟨above, by simp [resolveDots, double, single], ?_⟩
    intro other member
    exact Or.inl member
  · refine ⟨segment :: above, by simp [resolveDots, double, single, keptSegment_false], ?_⟩
    intro other member
    rcases List.mem_cons.mp member with rfl | higher
    · exact Or.inr ⟨rfl, isDots_eq_false double single⟩
    · exact Or.inl higher

/-- In the last place, a segment is kept or leaves an empty one. -/
theorem resolveDots_singleton (above : List String) (segment : String) :
    ∃ last higher, resolveDots false above [segment] = (last :: higher).reverse ∧ higher ⊆ above ∧
      (last = "" ∨ (last = segment ∧ isDots segment = false)) := by
  by_cases double : isDoubleDot segment = true
  · exact ⟨"", parent above, by simp [resolveDots, double], parent_subset above, Or.inl rfl⟩
  by_cases single : isSingleDot segment = true
  · exact ⟨"", above, by simp [resolveDots, double, single], List.Subset.refl _, Or.inl rfl⟩
  · exact ⟨segment, above, by simp [resolveDots, double, single, keptSegment_false],
      List.Subset.refl _, Or.inr ⟨rfl, isDots_eq_false double single⟩⟩

/-- What is left when dots have been resolved are segments without dots, and the empty one. -/
theorem mem_of_mem_resolveDots (member : segment ∈ resolveDots false above list) :
    segment ∈ above ∨ segment = "" ∨ (segment ∈ list ∧ isDots segment = false) := by
  induction list generalizing above with
  | nil => exact Or.inl (List.mem_reverse.mp member)
  | cons first rest ih =>
      cases rest with
      | nil =>
          obtain ⟨last, higher, resolved, within, kept⟩ := resolveDots_singleton above first
          rw [resolved, List.mem_reverse, List.mem_cons] at member
          rcases member with rfl | among
          · rcases kept with empty | ⟨rfl, undotted⟩
            · exact Or.inr (Or.inl empty)
            · exact Or.inr (Or.inr ⟨List.mem_cons_self .., undotted⟩)
          · exact Or.inl (within among)
      | cons next rest =>
          obtain ⟨higher, resolved, within⟩ := resolveDots_cons above first next rest
          rw [resolved] at member
          rcases ih member with among | empty | ⟨later, undotted⟩
          · rcases within _ among with old | ⟨rfl, undotted⟩
            · exact Or.inl old
            · exact Or.inr (Or.inr ⟨List.mem_cons_self .., undotted⟩)
          · exact Or.inr (Or.inl empty)
          · exact Or.inr (Or.inr ⟨List.mem_cons_of_mem _ later, undotted⟩)

/-! ### Segments that have been read -/

/-- A segment as it is kept: escapes are in place, and it is not dots. -/
structure IsSegment (segment : String) : Prop where
  undelimited : Undelimited segment.toList
  kept : ∀ c ∈ segment.toList, keptInPath c = true
  undotted : isDots segment = false

theorem IsSegment.empty : IsSegment "" := by
  constructor
  · exact .nil
  · simp
  · decide +kernel

theorem keptInPath_of_isAlphanum {c : Char} (alphanum : c.isAlphanum = true) :
    keptInPath c = true := by
  have others : ∀ mark ∈ [' ', '"', '<', '>', Char.ofNat 0x60, '#', '?', '\x7b', '\x7d'],
      mark.isAlphanum = false := by simp
  have apart : ∀ mark ∈ [' ', '"', '<', '>', Char.ofNat 0x60, '#', '?', '\x7b', '\x7d'],
      c ≠ mark := by
    rintro mark member rfl
    rw [others _ member] at alphanum
    cases alphanum
  have printable : Host.isPrintable c = true := by
    have range := isAlphanum_iff.mp alphanum
    have inside : 32 ≤ c.toNat ∧ c.toNat ≤ 126 := by omega
    rw [Host.isPrintable, Bool.and_eq_true, decide_eq_true_eq, decide_eq_true_eq]
    exact inside
  simp only [List.mem_cons, List.not_mem_nil, or_false, ne_eq, forall_eq_or_imp, forall_eq] at apart
  simp [keptInPath, keptInFragment, printable, apart]

/-- What is written in a path is kept there. -/
theorem keptInPath_of_mem_encode {text : List Char} {c : Char}
    (member : c ∈ Percent.encode keptInPath text) : keptInPath c = true := by
  rcases Percent.mem_encode member with ⟨-, kept⟩ | rfl | alphanum
  · exact kept
  · decide
  · exact keptInPath_of_isAlphanum alphanum

/-- Pieces of a path are written without delimiters. -/
theorem undelimited_of_mem_pieces {text : List Char} (member : segment ∈ pieces true text) :
    Undelimited segment.toList := by
  have marks : ∀ mark ∈ delimiters, keptInPath mark = true → isSlash true mark = true := by
    simp [delimiters, keptInPath, keptInFragment, Host.isPrintable, isSlash]
  have apart : ∀ mark ∈ delimiters, mark ≠ '%' ∧ mark.isAlphanum = false := by simp [delimiters]
  obtain ⟨piece, among, rfl⟩ := List.mem_map.mp member
  rw [escaped, String.toList_ofList]
  intro c written mark
  rcases Percent.mem_encode written with ⟨origin, kept⟩ | percent | alphanum
  · have inside := (Split.mem_of_mem_pieces among origin).2
    rw [marks c mark kept] at inside
    cases inside
  · exact (apart c mark).1 percent
  · rw [(apart c mark).2] at alphanum
    cases alphanum

/-- The segments of a path are kept segments. -/
theorem isSegment_of_mem_segments {text : List Char} (member : segment ∈ segments true text) :
    IsSegment segment := by
  rcases mem_of_mem_resolveDots member with higher | rfl | ⟨among, undotted⟩
  · cases higher
  · exact .empty
  · refine ⟨undelimited_of_mem_pieces among, ?_, undotted⟩
    obtain ⟨piece, -, rfl⟩ := List.mem_map.mp among
    intro c member
    rw [escaped, String.toList_ofList] at member
    exact keptInPath_of_mem_encode member

end Url
end DidRegistry

import DidRegistry.Url.Reader
import Mathlib.Data.List.TakeDrop
import Mathlib.Data.List.TakeWhile

/-!
Where a query begins. A text that has a question mark behind its scheme and in front of any `#`
reads as a URL with a query (`query_isSome_of_parse`).
-/

namespace DidRegistry.Url

variable {front back : List Char} {mark : Char}

/-- A text without the blanks and control characters at its end. -/
def endTrimmed (text : List Char) : List Char :=
  (text.reverse.dropWhile fun c => decide (c.toNat ≤ 0x20)).reverse

/-- Nothing goes from the end of a text up to a visible character. -/
theorem endTrimmed_append (visible : 0x20 < mark.toNat) :
    endTrimmed (front ++ mark :: back) = front ++ mark :: endTrimmed back := by
  have ends : (mark :: front.reverse).dropWhile (fun c => decide (c.toNat ≤ 0x20)) =
      mark :: front.reverse := by
    simp [visible]
  have turned : (front ++ mark :: back).reverse = back.reverse ++ mark :: front.reverse := by
    simp
  unfold endTrimmed
  rw [turned, List.dropWhile_append]
  by_cases blank : (back.reverse.dropWhile fun c => decide (c.toNat ≤ 0x20)).isEmpty = true
  · rw [if_pos blank, ends, List.isEmpty_iff.mp blank]
    simp
  · rw [if_neg blank]
    simp

/-- Nothing goes from the end of a text that is visible up to it. -/
theorem endTrimmed_of_visible {text : List Char} (visible : ∀ c ∈ text.getLast?, 0x20 < c.toNat) :
    endTrimmed text = text := by
  rcases List.eq_nil_or_concat text with rfl | ⟨front, last, rfl⟩
  · rfl
  · rw [List.concat_eq_append] at visible ⊢
    exact endTrimmed_append (visible last (by simp))

/-- Visible characters count. -/
theorem unbroken_of_visible {text : List Char} (visible : ∀ c ∈ text, 0x20 < c.toNat) :
    unbroken text = text := by
  refine List.filter_eq_self.mpr ?_
  intro c member
  have shown := visible c member
  rw [Bool.not_eq_true', ← Bool.not_eq_true]
  intro breaks
  simp only [isBreak, Bool.or_eq_true, beq_iff_eq] at breaks
  rcases breaks with (rfl | rfl) | rfl <;> exact absurd shown (by decide)

/-- Trimming keeps a text from its first visible character to a later one. -/
theorem trimmed_append {first : Char} {rest : List Char} (visible : 0x20 < first.toNat)
    (visibleMark : 0x20 < mark.toNat) :
    trimmed (first :: rest ++ mark :: back) = first :: rest ++ mark :: endTrimmed back := by
  have begins : (first :: rest ++ mark :: back).dropWhile (fun c => decide (c.toNat ≤ 0x20)) =
      first :: rest ++ mark :: back := by
    simp [visible]
  have ends : trimmed (first :: rest ++ mark :: back) =
      endTrimmed ((first :: rest ++ mark :: back).dropWhile fun c => decide (c.toNat ≤ 0x20)) :=
    rfl
  rw [ends, begins, endTrimmed_append visibleMark]

theorem span_append (absent : mark ∉ front) :
    (front ++ mark :: back).span (· != mark) = (front, mark :: back) := by
  have passes : ∀ c ∈ front, (c != mark) = true := by
    intro c member
    exact bne_iff_ne.mpr fun same => absent (same ▸ member)
  rw [List.span_eq_takeWhile_dropWhile, List.takeWhile_append_of_pos passes,
    List.dropWhile_append_of_pos passes]
  simp

/-- A cut at a mark is made at its first place. -/
theorem cutAt_append (absent : mark ∉ front) :
    cutAt mark (front ++ mark :: back) = (front, some back) := by
  unfold cutAt
  rw [span_append absent]

theorem cutAt_isSome {text : List Char} (member : mark ∈ text) :
    (cutAt mark text).2.isSome = true := by
  obtain ⟨before, behind, rfl, absent⟩ := List.eq_append_cons_of_mem member
  rw [cutAt_append absent]
  rfl

/-- A cut at another mark leaves a text as it is up to where that mark may stand. -/
theorem cutAt_of_other {other : Char} (absent : other ∉ front) (distinct : mark ≠ other) :
    ∃ back', (cutAt other (front ++ mark :: back)).1 = front ++ mark :: back' := by
  have passes : ∀ c ∈ front, (c != other) = true := by
    intro c member
    exact bne_iff_ne.mpr fun same => absent (same ▸ member)
  refine ⟨back.takeWhile (· != other), ?_⟩
  have before : (cutAt other (front ++ mark :: back)).1 =
      (front ++ mark :: back).takeWhile (· != other) := by
    unfold cutAt
    rw [List.span_eq_takeWhile_dropWhile]
    split <;> simp_all
  rw [before, List.takeWhile_append_of_pos passes]
  simp [distinct]

/-- What follows the scheme is behind the first colon. -/
theorem scheme?_append {scheme rest : List Char} (colon : ':' ∈ front)
    (read : scheme? (front ++ mark :: back) = some (scheme, rest)) :
    ∃ front', front' ⊆ front ∧ rest = front' ++ mark :: back := by
  obtain ⟨name, front', rfl, absent⟩ := List.eq_append_cons_of_mem colon
  refine ⟨front', fun c member => by simp [member], ?_⟩
  unfold scheme? at read
  rw [List.append_assoc, List.cons_append, span_append absent] at read
  simp only [Option.ite_none_right_eq_some, Option.some.injEq, Prod.mk.injEq] at read
  exact read.2.2.symm

/-- A question mark in front of any `#` begins a query. -/
theorem Remainder.query_isSome (unmarked : '#' ∉ front) :
    (Remainder.ofText (front ++ '?' :: back)).query.isSome = true := by
  obtain ⟨back', cut⟩ := cutAt_of_other unmarked (by decide : '?' ≠ '#')
  have query : (Remainder.ofText (front ++ '?' :: back)).query =
      (cutAt '?' (cutAt '#' (front ++ '?' :: back)).1).2.map unbroken := rfl
  rw [query, cut, Option.isSome_map]
  exact cutAt_isSome (by simp)

/-- A question mark behind the scheme and in front of any `#` begins a query. -/
theorem query_isSome_of_parse {text : String} {url : Url} {first : Char} {rest back : List Char}
    (parsed : parse text = .ok url) (written : text.toList = first :: rest ++ '?' :: back)
    (visible : 0x20 < first.toNat) (colon : ':' ∈ first :: rest)
    (unmarked : '#' ∉ first :: rest) : url.query.isSome = true := by
  have visibleMark : 0x20 < '?'.toNat := by decide
  have trim : trimmed (first :: rest ++ '?' :: back) = first :: rest ++ '?' :: endTrimmed back :=
    trimmed_append visible visibleMark
  unfold parse at parsed
  rw [written, trim] at parsed
  cases read : scheme? (first :: rest ++ '?' :: endTrimmed back) with
  | none =>
      rw [read] at parsed
      cases parsed
  | some parts =>
      obtain ⟨scheme, remainder⟩ := parts
      rw [read] at parsed
      obtain ⟨front, within, rfl⟩ := scheme?_append colon read
      have plain : '#' ∉ front := fun member => unmarked (within member)
      simp only [bind, Except.bind] at parsed
      split at parsed
      · cases parsed
      · cases parsed
        change (Option.map _ _).isSome = true
        rw [Option.isSome_map]
        exact Remainder.query_isSome plain

end DidRegistry.Url

import DidRegistry.Did.Identifier
import DidRegistry.Proofs.Text.Split
import Mathlib.Data.List.Infix
import Mathlib.Data.List.TakeWhile

/-!
Identifiers of resources, put together and taken apart again. They are taken apart at their first
and last slash, which need not be those between issuer and resource ID: what comes back are the part
of the issuer before its first slash and the part of the resource ID behind its last
(`split_compose`).
-/

namespace DidRegistry

namespace Identifier

/-- The part of a text before its first slash. -/
def issuerPart (text : String) : String := String.ofList (text.toList.takeWhile (· != '/'))

/-- The part of a text behind its last slash. -/
def resourcePart (text : String) : String :=
  String.ofList (text.toList.reverse.takeWhile (· != '/')).reverse

/-! ### Marks -/

section Marks

variable {mark : Char}

theorem not_mem_takeWhile (text : List Char) : mark ∉ text.takeWhile (· != mark) := by
  intro member
  have passes := List.mem_takeWhile_imp member
  simp at passes

theorem head_dropWhile {c : Char} {text rest : List Char}
    (cut : text.dropWhile (· != mark) = c :: rest) : c = mark := by
  have stops := List.head?_dropWhile_not (· != mark) text
  simpa [cut] using stops

/-- A text is cut in front of the first mark. -/
theorem cut_append (front back : List Char) (absent : mark ∉ front)
    (opens : ∀ c, back.head? = some c → c = mark) :
    (front ++ back).takeWhile (· != mark) = front ∧
      (front ++ back).dropWhile (· != mark) = back := by
  have passes : ∀ c ∈ front, (c != mark) = true := by
    intro c member
    exact bne_iff_ne.mpr fun same => absent (same ▸ member)
  rw [List.takeWhile_append_of_pos passes, List.dropWhile_append_of_pos passes]
  cases back with
  | nil => simp
  | cons c rest =>
      obtain rfl := opens c rfl
      simp

theorem takeWhile_of_not_mem {text : List Char} (absent : mark ∉ text) :
    text.takeWhile (· != mark) = text := by
  simpa using (cut_append text [] absent nofun).1

end Marks

/-! ### Taking apart and putting together -/

/-- What follows a slash is not in front of the first. -/
theorem takeWhile_append_slash (front tail : List Char) :
    (front ++ '/' :: tail).takeWhile (· != '/') = front.takeWhile (· != '/') := by
  induction front with
  | nil => simp
  | cons c front ih => simp only [List.cons_append, List.takeWhile_cons, ih]

theorem not_mem_resourcePart (text : String) : '/' ∉ (resourcePart text).toList := by
  simpa [resourcePart] using not_mem_takeWhile text.toList.reverse

theorem issuerPart_of_not_mem {text : String} (absent : '/' ∉ text.toList) :
    issuerPart text = text := by
  rw [issuerPart, takeWhile_of_not_mem absent, String.ofList_toList]

theorem resourcePart_of_not_mem {text : String} (absent : '/' ∉ text.toList) :
    resourcePart text = text := by
  have turned : '/' ∉ text.toList.reverse := by simpa using absent
  rw [resourcePart, takeWhile_of_not_mem turned, List.reverse_reverse, String.ofList_toList]

/-- A text with a slash ends with its last slash and the part behind it. -/
theorem exists_eq_append_resourcePart {text : String} (present : '/' ∈ text.toList) :
    ∃ front, text.toList = front ++ '/' :: (resourcePart text).toList := by
  have halves := List.takeWhile_append_dropWhile (p := (· != '/')) (l := text.toList.reverse)
  cases cut : text.toList.reverse.dropWhile (· != '/') with
  | nil =>
      have turned : '/' ∈ text.toList.reverse := by simpa using present
      rw [cut, List.append_nil] at halves
      rw [← halves] at turned
      exact absurd turned (not_mem_takeWhile _)
  | cons c rest =>
      obtain rfl := head_dropWhile cut
      refine ⟨rest.reverse, ?_⟩
      rw [cut] at halves
      have turned := congrArg List.reverse halves
      rw [List.reverse_reverse] at turned
      rw [← turned]
      simp [resourcePart]

theorem resourcePart_append (front back : String) :
    resourcePart (front ++ "/" ++ back) = resourcePart back := by
  have turned : (front ++ "/" ++ back).toList.reverse =
      back.toList.reverse ++ '/' :: front.toList.reverse := by simp
  rw [resourcePart, turned, takeWhile_append_slash]
  rfl

/-- The first piece of a text between its slashes. -/
theorem exists_pieces_issuerPart (text : String) :
    ∃ others, Split.pieces (· == '/') text.toList = (issuerPart text).toList :: others := by
  obtain ⟨others, cut⟩ := Split.exists_pieces (· == '/') text.toList
  exact ⟨others, by rw [cut, issuerPart, String.toList_ofList]; rfl⟩

theorem pieces_of_not_mem {text : String} (absent : '/' ∉ text.toList) :
    Split.pieces (· == '/') text.toList = [text.toList] := by
  apply Split.pieces_of_unseparated
  intro c member
  exact beq_eq_false_iff_ne.mpr fun same => absent (same ▸ member)

/-- The last piece of a text between its slashes. -/
theorem exists_pieces_resourcePart (text : String) :
    ∃ others, Split.pieces (· == '/') text.toList = others ++ [(resourcePart text).toList] := by
  by_cases present : '/' ∈ text.toList
  · obtain ⟨front, parts⟩ := exists_eq_append_resourcePart present
    have apart : Split.pieces (· == '/') (front ++ '/' :: (resourcePart text).toList) =
        Split.pieces (· == '/') front ++ Split.pieces (· == '/') (resourcePart text).toList :=
      Split.pieces_append rfl ..
    exact ⟨Split.pieces (· == '/') front,
      by rw [parts, apart, pieces_of_not_mem (not_mem_resourcePart text)]⟩
  · exact ⟨[], by rw [pieces_of_not_mem present, resourcePart_of_not_mem present]; rfl⟩

/-- A text with a slash is taken apart at its first and last slash, if there is something in front
of the one and behind the other. -/
theorem split_append (front back : String) :
    split (front ++ "/" ++ back) =
      if issuerPart front = "" ∨ resourcePart back = "" then
        .error (.invalidIdentifier (front ++ "/" ++ back))
      else .ok (issuerPart front, resourcePart back) := by
  obtain ⟨following, begins⟩ := exists_pieces_issuerPart front
  obtain ⟨before, ends⟩ := exists_pieces_resourcePart back
  have apart : Split.pieces (· == '/') (front.toList ++ '/' :: back.toList) =
      Split.pieces (· == '/') front.toList ++ Split.pieces (· == '/') back.toList :=
    Split.pieces_append rfl ..
  obtain ⟨second, others, behind⟩ : ∃ second others,
      following ++ before ++ [(resourcePart back).toList] = second :: others :=
    List.exists_cons_of_ne_nil (List.append_ne_nil_of_right_ne_nil _ (List.cons_ne_nil _ _))
  have pieces : Split.pieces (· == '/') (front ++ "/" ++ back).toList =
      (issuerPart front).toList :: second :: others := by
    have text : (front ++ "/" ++ back).toList = front.toList ++ '/' :: back.toList := by simp
    rw [text, apart, begins, ends, ← behind]
    simp
  have last : ∀ nonempty, (second :: others).getLast nonempty = (resourcePart back).toList := by
    simp [← behind]
  unfold split
  simp only [pieces, last, Bool.or_eq_true, List.isEmpty_iff, String.toList_eq_nil_iff,
    String.ofList_toList]

/-- A text without slashes is not taken apart. -/
theorem split_of_not_mem {id : String} (absent : '/' ∉ id.toList) :
    split id = .error (.invalidIdentifier id) := by
  unfold split
  rw [pieces_of_not_mem absent]

/-- A resource's identifier is put together around a slash. -/
theorem compose_eq (issuer resource : String) :
    compose issuer resource = issuer ++ "/" ++ ("resources" ++ "/" ++ resource) := by
  apply String.toList_injective
  simp [compose, resourcesPath]

/-- What comes back of an issuer and a resource ID that were put together. -/
theorem split_compose {issuer resource : String} (named : issuerPart issuer ≠ "")
    (ends : resourcePart resource ≠ "") :
    split (compose issuer resource) = .ok (issuerPart issuer, resourcePart resource) := by
  rw [compose_eq, split_append, resourcePart_append, if_neg (not_or.mpr ⟨named, ends⟩)]

/-- An issuer and a resource ID without slashes come back as they are. -/
theorem split_compose_of_not_mem {issuer resource : String} (named : issuer ≠ "")
    (ends : resource ≠ "") (issuerWhole : '/' ∉ issuer.toList)
    (resourceWhole : '/' ∉ resource.toList) :
    split (compose issuer resource) = .ok (issuer, resource) := by
  have parts : split (compose issuer resource) =
      .ok (issuerPart issuer, resourcePart resource) := by
    apply split_compose
    · rwa [issuerPart_of_not_mem issuerWhole]
    · rwa [resourcePart_of_not_mem resourceWhole]
  rw [parts, issuerPart_of_not_mem issuerWhole, resourcePart_of_not_mem resourceWhole]

/-! ### Networks -/

/-- A DID with a network begins with a part that is not empty. -/
theorem issuerPart_ne_empty {did network : String} (named : Identifier.network did = .ok network) :
    issuerPart did ≠ "" := by
  unfold Identifier.network at named
  cases start : methodStart.toList.isPrefixOf? did.toList with
  | none =>
      rw [start] at named
      cases named
  | some rest =>
      have text : methodStart.toList ++ rest = did.toList :=
        List.append_eq_of_isPrefixOf?_eq_some start
      have begins : methodStart.toList = 'd' :: "id:cheqd:".toList := by decide
      simp [issuerPart, ← text, begins]

/-- The network of a DID stands between the method and the next colon. -/
theorem exists_of_network {did name : String} (named : network did = .ok name) :
    ∃ rest, did = methodStart ++ name ++ ":" ++ rest ∧ name ≠ "" ∧ ':' ∉ name.toList := by
  unfold network at named
  cases start : methodStart.toList.isPrefixOf? did.toList with
  | none =>
      rw [start] at named
      cases named
  | some behind =>
      have text : methodStart.toList ++ behind = did.toList :=
        List.append_eq_of_isPrefixOf?_eq_some start
      rw [start] at named
      simp only at named
      split at named
      · cases named
      · rename_i delimited
        cases named
        simp only [Bool.or_eq_true, List.isEmpty_iff, beq_iff_eq, not_or] at delimited
        have whole : behind.takeWhile (· != ':') ++ behind.dropWhile (· != ':') = behind :=
          List.takeWhile_append_dropWhile
        cases dropped : behind.dropWhile (· != ':') with
        | nil =>
            rw [dropped, List.append_nil] at whole
            exact absurd (congrArg List.length whole) delimited.2
        | cons mark rest =>
            obtain rfl := head_dropWhile dropped
            rw [dropped] at whole
            refine ⟨String.ofList rest, ?_, by simpa using delimited.1, ?_⟩
            · apply String.toList_injective
              have colon : ":".toList = [':'] := rfl
              rw [← text, ← congrArg (methodStart.toList ++ ·) whole]
              simp only [String.toList_append, String.toList_ofList, colon, List.append_assoc,
                List.singleton_append]
            · rw [String.toList_ofList]
              exact not_mem_takeWhile behind

end Identifier
end DidRegistry

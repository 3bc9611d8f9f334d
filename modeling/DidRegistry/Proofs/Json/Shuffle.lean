import DidRegistry.Json.Value
import Mathlib.Data.List.Basic
import Mathlib.Data.List.Nodup
import Mathlib.Data.String.Basic

/-!
The order of members. A document is shuffled by permuting the members of one of its objects, however
deep (`Json.Shuffle`); no part of it ceases to denote a value.

Main statement: shuffled documents that name no member twice are the same free-form value
(`Json.Shuffle.canonical_eq`).
-/

namespace DidRegistry.Json

/-! ### Objects that name no member twice -/

mutual

/-- No object of the document names a member twice. -/
def NoRepeats : Json → Prop
  | .arr items => ItemsNoRepeats items
  | .obj members => (members.map Prod.fst).Nodup ∧ MembersNoRepeats members
  | .null | .bool _ | .num _ | .str _ | .unreadable => True

/-- No object of an item names a member twice. -/
def ItemsNoRepeats : List Json → Prop
  | [] => True
  | item :: rest => item.NoRepeats ∧ ItemsNoRepeats rest

/-- No object of a member names a member twice. -/
def MembersNoRepeats : List (String × Json) → Prop
  | [] => True
  | (_, value) :: rest => value.NoRepeats ∧ MembersNoRepeats rest

end

theorem itemsNoRepeats_iff {items : List Json} :
    ItemsNoRepeats items ↔ ∀ item ∈ items, item.NoRepeats := by
  induction items with
  | nil => simp [ItemsNoRepeats]
  | cons item rest ih => simp [ItemsNoRepeats, ih]

theorem membersNoRepeats_iff {members : List (String × Json)} :
    MembersNoRepeats members ↔ ∀ member ∈ members, member.2.NoRepeats := by
  induction members with
  | nil => simp [MembersNoRepeats]
  | cons member rest ih => simp [MembersNoRepeats, ih]

theorem noRepeats_arr {items : List Json} :
    (arr items).NoRepeats ↔ ∀ item ∈ items, item.NoRepeats := by
  rw [NoRepeats, itemsNoRepeats_iff]

theorem noRepeats_obj {members : List (String × Json)} :
    (obj members).NoRepeats ↔
      (members.map Prod.fst).Nodup ∧ ∀ member ∈ members, member.2.NoRepeats := by
  rw [NoRepeats, membersNoRepeats_iff]

theorem itemsReadable_iff {items : List Json} :
    itemsReadable items = true ↔ ∀ item ∈ items, item.isReadable = true := by
  induction items with
  | nil => simp [itemsReadable]
  | cons item rest ih => simp [itemsReadable, ih]

theorem membersReadable_iff {members : List (String × Json)} :
    membersReadable members = true ↔ ∀ member ∈ members, member.2.isReadable = true := by
  induction members with
  | nil => simp [membersReadable]
  | cons member rest ih => simp [membersReadable, ih]

/-! ### Shuffles -/

/-- Permutes the members of one object. -/
inductive Shuffle : Json → Json → Prop where
  | members {members others : List (String × Json)} (permuted : members.Perm others) :
      Shuffle (.obj members) (.obj others)
  | item {before after : List Json} {item other : Json} (inner : Shuffle item other) :
      Shuffle (.arr (before ++ item :: after)) (.arr (before ++ other :: after))
  | member {before after : List (String × Json)} {key : String} {value other : Json}
      (inner : Shuffle value other) :
      Shuffle (.obj (before ++ (key, value) :: after)) (.obj (before ++ (key, other) :: after))

namespace Shuffle

variable {document other : Json}

/-- Only arrays and objects are shuffled. -/
theorem ne_null (shuffle : Shuffle document other) : document ≠ .null ∧ other ≠ .null := by
  cases shuffle <;> exact ⟨nofun, nofun⟩

/-- Every part still denotes a value. -/
theorem isReadable (shuffle : Shuffle document other) (readable : document.isReadable = true) :
    other.isReadable = true := by
  induction shuffle with
  | members permuted =>
      rw [Json.isReadable, membersReadable_iff] at readable ⊢
      intro member present
      exact readable member (permuted.mem_iff.mpr present)
  | item inner ih =>
      rw [Json.isReadable, itemsReadable_iff] at readable ⊢
      simp only [List.forall_mem_append, List.forall_mem_cons] at readable ⊢
      exact ⟨readable.1, ih readable.2.1, readable.2.2⟩
  | member inner ih =>
      rw [Json.isReadable, membersReadable_iff] at readable ⊢
      simp only [List.forall_mem_append, List.forall_mem_cons] at readable ⊢
      exact ⟨readable.1, ih readable.2.1, readable.2.2⟩

end Shuffle

/-! ### Canonical forms -/

section Insertion

variable {key name : String} {value kept : Json} {rest : List (String × Json)}

theorem insertAbsent_of_before (before : key < name) :
    insertAbsent key value ((name, kept) :: rest) = (key, value) :: (name, kept) :: rest :=
  if_pos before

theorem insertAbsent_of_taken :
    insertAbsent key value ((key, kept) :: rest) = (key, kept) :: rest := by
  rw [insertAbsent, if_neg (lt_irrefl key), if_pos rfl]

theorem insertAbsent_of_after (after : name < key) :
    insertAbsent key value ((name, kept) :: rest) =
      (name, kept) :: insertAbsent key value rest := by
  rw [insertAbsent, if_neg (lt_asymm after), if_neg (ne_of_gt after)]

/-- Members are put in their places in either order, the lesser name being given first. -/
theorem insertAbsent_comm_of_lt {other : String} (less : key < other) (value document : Json)
    (members : List (String × Json)) :
    insertAbsent key value (insertAbsent other document members) =
      insertAbsent other document (insertAbsent key value members) := by
  induction members with
  | nil =>
      change insertAbsent key value [(other, document)] = insertAbsent other document [(key, value)]
      rw [insertAbsent_of_before less, insertAbsent_of_after less]
      rfl
  | cons member rest ih =>
      obtain ⟨name, kept⟩ := member
      rcases lt_trichotomy key name with before | rfl | after
      · rw [insertAbsent_of_before before, insertAbsent_of_after less]
        rcases lt_trichotomy other name with also | rfl | later
        · rw [insertAbsent_of_before also, insertAbsent_of_before less]
        · rw [insertAbsent_of_taken, insertAbsent_of_before before]
        · rw [insertAbsent_of_after later, insertAbsent_of_before before]
      · rw [insertAbsent_of_taken, insertAbsent_of_after less, insertAbsent_of_taken]
      · have later := lt_trans after less
        rw [insertAbsent_of_after later, insertAbsent_of_after after, insertAbsent_of_after after,
          insertAbsent_of_after later, ih]

/-- Members of different names are put in their places in any order. -/
theorem insertAbsent_comm {other : String} (distinct : key ≠ other) (value document : Json)
    (members : List (String × Json)) :
    insertAbsent key value (insertAbsent other document members) =
      insertAbsent other document (insertAbsent key value members) := by
  rcases lt_or_gt_of_ne distinct with less | greater
  · exact insertAbsent_comm_of_lt less value document members
  · exact (insertAbsent_comm_of_lt greater document value members).symm

end Insertion

theorem canonicalMembers_perm {members others : List (String × Json)}
    (permuted : members.Perm others) (once : (members.map Prod.fst).Nodup) :
    canonicalMembers members = canonicalMembers others := by
  induction permuted with
  | nil => rfl
  | cons member permuted ih =>
      obtain ⟨key, value⟩ := member
      rw [canonicalMembers, canonicalMembers, ih once.of_cons]
  | swap first second rest =>
      obtain ⟨key, value⟩ := first
      obtain ⟨other, document⟩ := second
      have distinct : other ≠ key := by
        rintro rfl
        simp at once
      simp only [canonicalMembers]
      exact insertAbsent_comm distinct _ _ _
  | trans first second ih also =>
      rw [ih once, also ((first.map Prod.fst).nodup_iff.mp once)]

theorem canonicalItems_replace {item other : Json} (same : item.canonical = other.canonical)
    (before after : List Json) :
    canonicalItems (before ++ item :: after) = canonicalItems (before ++ other :: after) := by
  induction before with
  | nil => simp only [List.nil_append, canonicalItems, same]
  | cons first rest ih => simp only [List.cons_append, canonicalItems, ih]

theorem canonicalMembers_replace {value other : Json} (same : value.canonical = other.canonical)
    (key : String) (before after : List (String × Json)) :
    canonicalMembers (before ++ (key, value) :: after) =
      canonicalMembers (before ++ (key, other) :: after) := by
  induction before with
  | nil => simp only [List.nil_append, canonicalMembers, same]
  | cons first rest ih =>
      obtain ⟨name, document⟩ := first
      simp only [List.cons_append, canonicalMembers, ih]

/-- A shuffled document is the same in canonical form. -/
theorem Shuffle.canonical_eq {document other : Json} (shuffle : Shuffle document other)
    (once : document.NoRepeats) : document.canonical = other.canonical := by
  induction shuffle with
  | members permuted =>
      simp only [canonical, canonicalMembers_perm permuted (noRepeats_obj.mp once).1]
  | item inner ih =>
      have inside := noRepeats_arr.mp once _ (List.mem_append_right _ (List.mem_cons_self ..))
      simp only [canonical, canonicalItems_replace (ih inside)]
  | member inner ih =>
      have inside := (noRepeats_obj.mp once).2 _ (List.mem_append_right _ (List.mem_cons_self ..))
      simp only [canonical, canonicalMembers_replace (ih inside)]

end DidRegistry.Json

import DidRegistry.Proofs.Json.Record
import DidRegistry.Proofs.Json.Shuffle
import Mathlib.Data.List.Forall2
import Mathlib.Data.Option.Basic

/-!
Documents that mean the same however they are written. A decoder keeps a relation of documents if
whatever it reads from one it reads from the other (`Decoder.Keeps`); a record keeps what its fields
keep (`Record.Keeps`), whatever the order of its members and whatever stands among them that is no
field.

Main statement: a decoder of records keeps rewordings: shuffles of the document, members that are no
fields, and rewordings of the fields themselves (`Record.Keeps.reworded`).
-/

namespace DidRegistry

/-- Whatever is read from a document is read from all that are related to it. -/
def Decoder.Keeps {α : Type} (decoder : Decoder α) (same : Json → Json → Prop) : Prop :=
  ∀ document other value, same document other → decoder document = .ok value →
    decoder other = .ok value

/-! ### Lists -/

section Lists

variable {α : Type} {picks : α → Bool} {members others : List α}

/-- Where at most one is picked, it is found in any order. -/
theorem find?_perm (permuted : members.Perm others) (once : members.countP picks ≤ 1) :
    members.find? picks = others.find? picks := by
  rw [← List.head?_filter, ← List.head?_filter]
  rw [List.countP_eq_length_filter] at once
  have same := permuted.filter picks
  generalize members.filter picks = found at once same
  match found with
  | [] => rw [List.nil_perm.mp same]
  | [one] => rw [List.singleton_perm.mp same]
  | _ :: _ :: _ => simp at once

/-- Where at most one is picked, those that are picked are the same. -/
theorem eq_of_mem_of_countP_le_one {one other : α} (once : members.countP picks ≤ 1)
    (present : one ∈ members) (also : other ∈ members) (picked : picks one = true)
    (again : picks other = true) : one = other := by
  have first := List.mem_filter.mpr ⟨present, picked⟩
  have second := List.mem_filter.mpr ⟨also, again⟩
  rw [List.countP_eq_length_filter] at once
  generalize members.filter picks = found at once first second
  match found with
  | [] => cases first
  | [_] => rw [List.mem_singleton.mp first, List.mem_singleton.mp second]
  | _ :: _ :: _ => simp at once

/-- One item in the midst of others. -/
theorem forall₂_replace {related : α → α → Prop} (refl : ∀ item, related item item) {item other : α}
    (replaced : related item other) (before after : List α) :
    List.Forall₂ related (before ++ item :: after) (before ++ other :: after) := by
  induction before with
  | nil => exact .cons replaced (List.forall₂_same.mpr fun item _ => refl item)
  | cons first rest ih => exact .cons (refl first) ih

end Lists

/-! ### Records -/

/-- Members that stand for each other bring a field the same way. -/
theorem FieldRule.related_of_alike {rule : FieldRule} {same : Json → Json → Prop}
    {members others : List (String × Json)}
    (checks : ∀ document other, same document other → rule.check document = .ok () →
      rule.check other = .ok ())
    (passes : ∀ member ∈ members, rule.picks member = true → rule.check member.2 = .ok ())
    (alike : List.Forall₂ (fun member other => rule.picks member = rule.picks other ∧
      (rule.picks member = true → same member.2 other.2)) members others) :
    others.countP rule.picks = members.countP rule.picks ∧
      (∀ other ∈ others, rule.picks other = true → rule.check other.2 = .ok ()) ∧
      Option.Rel (fun member other => same member.2 other.2)
        (members.find? rule.picks) (others.find? rule.picks) := by
  induction alike with
  | nil => exact ⟨rfl, nofun, .none⟩
  | @cons member other rest later first alike ih =>
      obtain ⟨counted, checked, found⟩ :=
        ih fun member present => passes member (List.mem_cons_of_mem _ present)
      obtain ⟨kept, inner⟩ := first
      by_cases picked : rule.picks member = true
      · have again := kept.symm.trans picked
        refine ⟨?_, ?_, ?_⟩
        · rw [List.countP_cons_of_pos again, List.countP_cons_of_pos picked, counted]
        · rw [List.forall_mem_cons]
          exact ⟨fun _ => checks _ _ (inner picked)
            (passes member (List.mem_cons_self ..) picked), checked⟩
        · rw [List.find?_cons_of_pos picked, List.find?_cons_of_pos again]
          exact .some (inner picked)
      · have again := kept ▸ picked
        refine ⟨?_, ?_, ?_⟩
        · rw [List.countP_cons_of_neg again, List.countP_cons_of_neg picked, counted]
        · rw [List.forall_mem_cons]
          exact ⟨fun also => absurd also again, checked⟩
        · rw [List.find?_cons_of_neg picked, List.find?_cons_of_neg again]
          exact found

namespace Record

variable {α β : Type}

/-- What is read of a record does not change with the documents of its fields: `same` relates, for
the name of each field, documents that stand for each other. -/
structure Keeps (record : Record α) (same : String → Json → Json → Prop) : Prop where
  checks : ∀ rule ∈ record.rules, ∀ document other, same rule.name document other →
    rule.check document = .ok () → rule.check other = .ok ()
  ofMembers : ∀ members others value,
    (∀ rule ∈ record.rules, Option.Rel (fun member other => same rule.name member.2 other.2)
      (members.find? rule.picks) (others.find? rule.picks)) →
    record.ofMembers members = .ok value → record.ofMembers others = .ok value
  ofItems : ∀ items others value rest,
    List.Forall₂ (fun item other => ∀ name, same name item other) items others →
    record.ofItems items = .ok (value, rest) → ∃ left, record.ofItems others = .ok (value, left) ∧
      List.Forall₂ (fun item other => ∀ name, same name item other) rest left

namespace Keeps

variable {same : String → Json → Json → Prop}

theorem map {record : Record α} (keeps : record.Keeps same) (build : α → β) :
    (build <$> record).Keeps same where
  checks := keeps.checks
  ofMembers members others value alike read := by
    rw [ofMembers_map] at read ⊢
    obtain ⟨present, found, rfl⟩ := exists_of_map_eq_ok read
    rw [keeps.ofMembers members others present alike found]
    rfl
  ofItems items others value rest alike read := by
    obtain ⟨⟨present, behind⟩, found, last⟩ := exists_of_bind_eq_ok read
    cases last
    obtain ⟨left, again, alikeLeft⟩ := keeps.ofItems items others present _ alike found
    refine ⟨left, ?_, alikeLeft⟩
    change (record.ofItems others).bind _ = _
    rw [again]
    rfl

theorem seq {first : Record (α → β)} {second : Record α} (keeps : first.Keeps same)
    (also : second.Keeps same) : (first <*> second).Keeps same where
  checks rule among := by
    rcases List.mem_append.mp among with one | other
    · exact keeps.checks rule one
    · exact also.checks rule other
  ofMembers members others value alike read := by
    rw [ofMembers_seq] at read ⊢
    obtain ⟨build, before, field⟩ := exists_of_bind_eq_ok read
    obtain ⟨present, found, rfl⟩ := exists_of_map_eq_ok field
    rw [keeps.ofMembers members others build
      (fun rule among => alike rule (List.mem_append_left _ among)) before]
    change (second.ofMembers others).map build = _
    rw [also.ofMembers members others present
      (fun rule among => alike rule (List.mem_append_right _ among)) found]
    rfl
  ofItems items others value rest alike read := by
    obtain ⟨⟨build, behind⟩, before, field⟩ := exists_of_bind_eq_ok read
    obtain ⟨⟨present, last⟩, found, done⟩ := exists_of_bind_eq_ok field
    cases done
    obtain ⟨middle, again, alikeMiddle⟩ := keeps.ofItems items others build behind alike before
    obtain ⟨left, later, alikeLeft⟩ := also.ofItems behind middle present _ alikeMiddle found
    refine ⟨left, ?_, alikeLeft⟩
    change (first.ofItems others).bind _ = _
    rw [again]
    change (second.ofItems middle).bind _ = _
    rw [later]
    rfl

/-- A field keeps what its decoder keeps. -/
theorem field {name : String} {alternative : Option String} {decoder : Decoder α}
    {noMember noItem : Except DecodeError α} (keeps : decoder.Keeps (same name)) :
    (Record.field name alternative decoder noMember noItem).Keeps same where
  checks rule among document other alike checked := by
    cases List.mem_singleton.mp among
    obtain ⟨value, read, -⟩ := exists_of_map_eq_ok checked
    change (decoder other).map _ = _
    rw [keeps document other value alike read]
    rfl
  ofMembers members others value alike read := by
    have related := alike _ rule_mem
    rw [ofMembers_field] at read ⊢
    generalize members.find? (rule name alternative decoder).picks = found at related read
    generalize others.find? (rule name alternative decoder).picks = other at related
    cases related with
    | none => exact read
    | some inner => exact keeps _ _ _ inner read
  ofItems items others value rest alike read := by
    cases alike with
    | nil =>
        obtain ⟨present, missing, last⟩ := exists_of_map_eq_ok read
        cases last
        exact ⟨[], read, .nil⟩
    | cons first later =>
        obtain ⟨present, found, last⟩ := exists_of_map_eq_ok read
        cases last
        refine ⟨_, ?_, later⟩
        change (decoder _).map _ = _
        rw [keeps _ _ _ (first name) found]
        rfl

variable {record : Record α} {members others : List (String × Json)} {value : α}

/-- Items that stand for each other make the same record. -/
theorem of_items {items others : List Json} (keeps : record.Keeps same)
    (alike : List.Forall₂ (fun item other => ∀ name, same name item other) items others)
    (read : record.decoder (.arr items) = .ok value) : record.decoder (.arr others) = .ok value := by
  obtain ⟨⟨present, rest⟩, taken, last⟩ := exists_of_bind_eq_ok read
  obtain ⟨left, again, alikeLeft⟩ := keeps.ofItems items others present rest alike taken
  dsimp only at last
  split at last
  · rename_i empty
    cases last
    rw [List.isEmpty_iff] at empty
    cases empty
    cases alikeLeft
    change (record.ofItems others).bind _ = _
    rw [again]
    rfl
  · cases last

/-- Members in another order make the same record. -/
theorem of_perm (keeps : record.Keeps same) (refl : ∀ name document, same name document document)
    (distinct : record.Distinct) (permuted : members.Perm others)
    (read : record.decoder (.obj members) = .ok value) :
    record.decoder (.obj others) = .ok value := by
  obtain ⟨fits, taken⟩ := (decoder_obj_eq_ok_iff distinct).mp read
  refine (decoder_obj_eq_ok_iff distinct).mpr ⟨fits.perm permuted, ?_⟩
  refine keeps.ofMembers members others value ?_ taken
  intro rule among
  rw [← find?_perm permuted (fits.once rule among)]
  cases members.find? rule.picks with
  | none => exact .none
  | some member => exact .some (refl _ _)

/-- A member that is no field makes no difference. -/
theorem of_extended (keeps : record.Keeps same)
    (refl : ∀ name document, same name document document) (distinct : record.Distinct)
    {member : String × Json} {before after : List (String × Json)}
    (unknown : ∀ rule ∈ record.rules, rule.picks member ≠ true)
    (read : record.decoder (.obj (before ++ after)) = .ok value) :
    record.decoder (.obj (before ++ member :: after)) = .ok value := by
  refine keeps.of_perm refl distinct List.perm_middle.symm ?_
  obtain ⟨fits, taken⟩ := (decoder_obj_eq_ok_iff distinct).mp read
  refine (decoder_obj_eq_ok_iff distinct).mpr
    ⟨(FieldRule.fits_cons_of_unknown unknown).mpr fits, ?_⟩
  refine keeps.ofMembers _ _ value ?_ taken
  intro rule among
  rw [List.find?_cons_of_neg (unknown rule among)]
  cases (before ++ after).find? rule.picks with
  | none => exact .none
  | some member => exact .some (refl _ _)

/-- Members that are the same fields, with documents that stand for each other, make the same
record. -/
theorem of_members (keeps : record.Keeps same) (distinct : record.Distinct)
    (alike : List.Forall₂ (fun member other => ∀ rule ∈ record.rules,
      rule.picks member = rule.picks other ∧
        (rule.picks member = true → same rule.name member.2 other.2)) members others)
    (read : record.decoder (.obj members) = .ok value) :
    record.decoder (.obj others) = .ok value := by
  obtain ⟨fits, taken⟩ := (decoder_obj_eq_ok_iff distinct).mp read
  have related := fun rule among => FieldRule.related_of_alike (keeps.checks rule among)
    (fits.passes rule among) (alike.imp fun _ _ inner => inner rule among)
  refine (decoder_obj_eq_ok_iff distinct).mpr ⟨⟨?_, ?_⟩, ?_⟩
  · intro rule among
    exact (related rule among).2.1
  · intro rule among
    rw [(related rule among).1]
    exact fits.once rule among
  · exact keeps.ofMembers members others value (fun rule among => (related rule among).2.2) taken

end Keeps
end Record

/-! ### Shuffles and rewordings -/

namespace Json

/-- Shuffles of documents that name no member twice. -/
def Shuffled (document other : Json) : Prop := document.NoRepeats ∧ Shuffle document other

/-- Rewordings of a document for a record: it is shuffled, a member of an unknown name is put among
its members, or a member is reworded as `inner` says for its name. -/
inductive Reworded (known : List String) (inner : String → Json → Json → Prop) :
    Json → Json → Prop where
  | shuffled {document other : Json} (shuffle : Shuffle document other) :
      Reworded known inner document other
  | extended {before after : List (String × Json)} {key : String} {value : Json}
      (unknown : key ∉ known) (readable : value.isReadable = true) :
      Reworded known inner (.obj (before ++ after)) (.obj (before ++ (key, value) :: after))
  | within {before after : List (String × Json)} {key : String} {value other : Json}
      (reworded : inner key value other) :
      Reworded known inner (.obj (before ++ (key, value) :: after))
        (.obj (before ++ (key, other) :: after))

/-- One item of an array is reworded. -/
inductive AtItem (inner : Json → Json → Prop) : Json → Json → Prop where
  | item {before after : List Json} {item other : Json} (reworded : inner item other) :
      AtItem inner (.arr (before ++ item :: after)) (.arr (before ++ other :: after))

/-- Documents of a field that stand for each other: the same, shuffled, or reworded. -/
def Alike (inner : Json → Json → Prop) (document other : Json) : Prop :=
  document = other ∨ document.NoRepeats ∧ (Shuffle document other ∨ inner document other)

theorem NoRepeats.of_item {before after : List Json} {item : Json}
    (once : (arr (before ++ item :: after)).NoRepeats) : item.NoRepeats :=
  noRepeats_arr.mp once item (List.mem_append_right _ (List.mem_cons_self ..))

theorem NoRepeats.of_member {before after : List (String × Json)} {key : String} {value : Json}
    (once : (obj (before ++ (key, value) :: after)).NoRepeats) : value.NoRepeats :=
  (noRepeats_obj.mp once).2 (key, value) (List.mem_append_right _ (List.mem_cons_self ..))

namespace Reworded

variable {known : List String} {inner : String → Json → Json → Prop} {document other : Json}

theorem ne_null (reworded : Reworded known inner document other) :
    document ≠ .null ∧ other ≠ .null := by
  cases reworded with
  | shuffled shuffle => exact shuffle.ne_null
  | extended => exact ⟨nofun, nofun⟩
  | within => exact ⟨nofun, nofun⟩

/-- Every part still denotes a value. -/
theorem isReadable
    (inside : ∀ key value other, inner key value other → value.isReadable = true →
      other.isReadable = true)
    (reworded : Reworded known inner document other) (readable : document.isReadable = true) :
    other.isReadable = true := by
  cases reworded with
  | shuffled shuffle => exact shuffle.isReadable readable
  | extended unknown added =>
      rw [Json.isReadable, membersReadable_iff] at readable ⊢
      simp only [List.forall_mem_append, List.forall_mem_cons] at readable ⊢
      exact ⟨readable.1, added, readable.2⟩
  | within reworded =>
      rw [Json.isReadable, membersReadable_iff] at readable ⊢
      simp only [List.forall_mem_append, List.forall_mem_cons] at readable ⊢
      exact ⟨readable.1, inside _ _ _ reworded readable.2.1, readable.2.2⟩

end Reworded

theorem AtItem.isReadable {inner : Json → Json → Prop} {document other : Json}
    (inside : ∀ item other, inner item other → item.isReadable = true → other.isReadable = true)
    (reworded : AtItem inner document other) (readable : document.isReadable = true) :
    other.isReadable = true := by
  obtain ⟨reworded⟩ := reworded
  rw [Json.isReadable, itemsReadable_iff] at readable ⊢
  simp only [List.forall_mem_append, List.forall_mem_cons] at readable ⊢
  exact ⟨readable.1, inside _ _ reworded readable.2.1, readable.2.2⟩

end Json

/-! ### Decoders -/

namespace Decoder

variable {α : Type} {decoder : Decoder α} {same inner : Json → Json → Prop}

/-- A decoder that reads neither arrays nor objects keeps shuffles. -/
theorem keeps_shuffled_of_scalar (items : ∀ items value, decoder (.arr items) ≠ .ok value)
    (members : ∀ members value, decoder (.obj members) ≠ .ok value) :
    decoder.Keeps Json.Shuffled := by
  rintro document other value ⟨-, shuffle⟩ read
  cases shuffle with
  | members => exact absurd read (members _ _)
  | item => exact absurd read (items _ _)
  | member => exact absurd read (members _ _)

theorem text_keeps : text.Keeps Json.Shuffled :=
  keeps_shuffled_of_scalar (fun _ _ => nofun) fun _ _ => nofun

/-- A free-form value is the same in any order. -/
theorem value_keeps : value.Keeps Json.Shuffled := by
  rintro document other present ⟨once, shuffle⟩ read
  unfold value Value.ofJson? at read ⊢
  by_cases readable : document.isReadable = true
  · rw [dif_pos readable] at read
    rw [dif_pos (shuffle.isReadable readable)]
    cases read
    simp only [shuffle.canonical_eq once]
  · rw [dif_neg readable] at read
    cases read

theorem Keeps.nullable (keeps : decoder.Keeps same)
    (present : ∀ document other, same document other → document ≠ .null ∧ other ≠ .null) :
    decoder.nullable.Keeps same := by
  have other_than_null {document : Json} (other : document ≠ .null) :
      decoder.nullable document = (decoder document).map some := by
    cases document with
    | null => exact absurd rfl other
    | _ => rfl
  intro document other value related read
  obtain ⟨first, second⟩ := present document other related
  rw [other_than_null first] at read
  obtain ⟨found, taken, rfl⟩ := exists_of_map_eq_ok read
  rw [other_than_null second, keeps document other found related taken]
  rfl

theorem Keeps.nullable_shuffled (keeps : decoder.Keeps Json.Shuffled) :
    decoder.nullable.Keeps Json.Shuffled :=
  keeps.nullable fun _ _ shuffled => shuffled.2.ne_null

theorem Keeps.items (keeps : decoder.Keeps same) {before after : List Json} {item other : Json}
    (related : same item other) {values : List α}
    (read : Decoder.items decoder (before ++ item :: after) = .ok values) :
    Decoder.items decoder (before ++ other :: after) = .ok values := by
  induction before generalizing values with
  | nil =>
      obtain ⟨first, taken, later⟩ := exists_of_bind_eq_ok read
      change (decoder other).bind _ = _
      rw [keeps item other first related taken]
      exact later
  | cons front rest ih =>
      obtain ⟨first, taken, later⟩ := exists_of_bind_eq_ok read
      obtain ⟨others, found, last⟩ := exists_of_bind_eq_ok later
      change (decoder front).bind _ = _
      rw [taken]
      change (Decoder.items decoder (rest ++ other :: after)).bind _ = _
      rw [ih found]
      exact last

theorem Keeps.list_atItem (keeps : decoder.Keeps fun item other => item.NoRepeats ∧ inner item other) :
    decoder.list.Keeps fun document other => document.NoRepeats ∧ Json.AtItem inner document other := by
  rintro _ _ values ⟨once, ⟨reworded⟩⟩ read
  exact keeps.items ⟨once.of_item, reworded⟩ read

theorem Keeps.list_shuffled (keeps : decoder.Keeps Json.Shuffled) :
    decoder.list.Keeps Json.Shuffled := by
  rintro document other values ⟨once, shuffle⟩ read
  cases shuffle with
  | members => cases read
  | item shuffle => exact keeps.items ⟨once.of_item, shuffle⟩ read
  | member => cases read

theorem Keeps.alike (shuffles : decoder.Keeps Json.Shuffled)
    (rewordings : decoder.Keeps fun document other => document.NoRepeats ∧ inner document other) :
    decoder.Keeps (Json.Alike inner) := by
  rintro document other value (rfl | ⟨once, shuffle | reworded⟩) read
  · exact read
  · exact shuffles document other value ⟨once, shuffle⟩ read
  · exact rewordings document other value ⟨once, reworded⟩ read

/-- A field that is never reworded has its documents shuffled at most. -/
theorem Keeps.alike_false (shuffles : decoder.Keeps Json.Shuffled) :
    decoder.Keeps (Json.Alike fun _ _ => False) :=
  shuffles.alike fun _ _ _ none => none.2.elim

end Decoder

namespace Record.Keeps

variable {α : Type} {record : Record α} {known : List String}
variable {inner : String → Json → Json → Prop}

/-- A decoder of records keeps shuffles. -/
theorem shuffled (keeps : record.Keeps fun name => Json.Alike (inner name))
    (distinct : record.Distinct) : record.decoder.Keeps Json.Shuffled := by
  rintro document other value ⟨once, shuffle⟩ read
  cases shuffle with
  | members permuted => exact keeps.of_perm (fun _ _ => Or.inl rfl) distinct permuted read
  | item shuffle =>
      refine keeps.of_items (forall₂_replace (fun _ _ => Or.inl rfl) ?_ _ _) read
      exact fun _ => Or.inr ⟨once.of_item, Or.inl shuffle⟩
  | member shuffle =>
      refine keeps.of_members distinct
        (forall₂_replace (fun _ _ _ => ⟨rfl, fun _ => Or.inl rfl⟩) ?_ _ _) read
      exact fun _ _ => ⟨rfl, fun _ => Or.inr ⟨once.of_member, Or.inl shuffle⟩⟩

/-- A decoder of records keeps rewordings, if all its names are known, and a member is reworded as
the field that it is. -/
theorem reworded (keeps : record.Keeps fun name => Json.Alike (inner name))
    (distinct : record.Distinct)
    (knows : record.rules.flatMap FieldRule.names ⊆ known)
    (named : ∀ rule ∈ record.rules, ∀ key ∈ rule.names, inner key = inner rule.name) :
    record.decoder.Keeps fun document other =>
      document.NoRepeats ∧ Json.Reworded known inner document other := by
  rintro document other value ⟨once, reworded⟩ read
  cases reworded with
  | shuffled shuffle => exact keeps.shuffled distinct document other value ⟨once, shuffle⟩ read
  | extended unknown =>
      refine keeps.of_extended (fun _ _ => Or.inl rfl) distinct ?_ read
      intro rule among picked
      exact unknown (knows (List.mem_flatMap.mpr ⟨rule, among, FieldRule.answersTo_iff.mp picked⟩))
  | within reworded =>
      refine keeps.of_members distinct
        (forall₂_replace (fun _ _ _ => ⟨rfl, fun _ => Or.inl rfl⟩) ?_ _ _) read
      intro rule among
      refine ⟨rfl, fun picked => Or.inr ⟨once.of_member, Or.inr ?_⟩⟩
      rw [← named rule among _ (FieldRule.answersTo_iff.mp picked)]
      exact reworded

end Record.Keeps
end DidRegistry

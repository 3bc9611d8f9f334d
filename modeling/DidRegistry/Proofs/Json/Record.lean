import DidRegistry.Proofs.Json.Decoding
import Mathlib.Data.List.Count
import Mathlib.Data.List.Nodup

/-!
What a reader of records makes of members, whatever their order. Fields whose names are apart are
looked at one by one: members keep the rules exactly if each passes the test of its field and no
field comes twice (`FieldRule.checkMembers_eq_ok_iff`), and that does not depend on their order.

Main statements: a record that is written field by field is read back from its members
(`Record.Writes.decoder_eq`).
-/

namespace DidRegistry

theorem Json.membersReadable_append (members others : List (String × Json)) :
    membersReadable (members ++ others) = (membersReadable members && membersReadable others) := by
  induction members with
  | nil => rfl
  | cons member rest ih =>
      rw [List.cons_append, membersReadable, membersReadable, ih, Bool.and_assoc]

namespace FieldRule

/-! ### Rules whose names are apart -/

/-- The names that a field answers to. -/
def names (rule : FieldRule) : List String := rule.name :: rule.alternative.toList

theorem answersTo_iff {rule : FieldRule} {key : String} :
    rule.answersTo key = true ↔ key ∈ rule.names := by
  obtain ⟨name, alternative, check⟩ := rule
  cases alternative <;> simp [answersTo, names]

/-- No two fields answer to one name. -/
def Distinct (rules : List FieldRule) : Prop := (rules.flatMap names).Nodup

instance (rules : List FieldRule) : Decidable (Distinct rules) :=
  inferInstanceAs (Decidable (List.Nodup _))

/-- Fields of one kind answer to no name of the other. -/
def Apart (rules others : List FieldRule) : Prop :=
  ∀ rule ∈ rules, ∀ other ∈ others, ∀ key, rule.answersTo key = true →
    other.answersTo key ≠ true

theorem Apart.symm {rules others : List FieldRule} (apart : Apart rules others) :
    Apart others rules :=
  fun rule among other also key named again => apart other also rule among key again named

theorem distinct_append_iff {rules others : List FieldRule} :
    Distinct (rules ++ others) ↔ Distinct rules ∧ Distinct others ∧ Apart rules others := by
  simp only [Distinct, Apart, List.flatMap_append, List.nodup_append', ne_eq, answersTo_iff]
  refine and_congr_right fun _ => and_congr_right fun _ => ?_
  constructor
  · intro apart rule among other also key named again
    exact apart (List.mem_flatMap.mpr ⟨rule, among, named⟩)
      (List.mem_flatMap.mpr ⟨other, also, again⟩)
  · intro apart key named again
    obtain ⟨rule, among, named⟩ := List.mem_flatMap.mp named
    obtain ⟨other, also, again⟩ := List.mem_flatMap.mp again
    exact apart rule among other also key named again

/-- The field that answers to a name is found by it. -/
theorem Distinct.find?_eq {rules : List FieldRule} (distinct : Distinct rules) {rule : FieldRule}
    {key : String} (among : rule ∈ rules) (answers : rule.answersTo key = true) :
    rules.find? (fun rule => rule.answersTo key) = some rule := by
  induction rules with
  | nil => cases among
  | cons first rest ih =>
      rw [← List.singleton_append] at distinct
      obtain ⟨-, others, apart⟩ := distinct_append_iff.mp distinct
      rw [List.find?_cons]
      rcases List.mem_cons.mp among with rfl | later
      · rw [answers]
      · have other : first.answersTo key = false := by
          rw [← Bool.not_eq_true]
          intro also
          exact apart first (List.mem_singleton_self _) rule later key also answers
        rw [other]
        exact ih others later

/-- Fields that answer to one name are one. -/
theorem Distinct.eq {rules : List FieldRule} (distinct : Distinct rules) {rule other : FieldRule}
    {key : String} (among : rule ∈ rules) (also : other ∈ rules)
    (answers : rule.answersTo key = true) (again : other.answersTo key = true) : other = rule := by
  have found := distinct.find?_eq also again
  rw [distinct.find?_eq among answers] at found
  exact (Option.some.inj found).symm

theorem answersTo_name (rule : FieldRule) : rule.answersTo rule.name = true :=
  answersTo_iff.mpr (List.mem_cons_self ..)

/-! ### Members that keep the rules -/

/-- Whether a member is the field. -/
def picks (rule : FieldRule) (member : String × Json) : Bool := rule.answersTo member.1

/-- Members keep the rules: each passes the test of its field, and no field comes twice. -/
structure Fits (rules : List FieldRule) (members : List (String × Json)) : Prop where
  passes : ∀ rule ∈ rules, ∀ member ∈ members, rule.picks member = true →
    rule.check member.2 = .ok ()
  once : ∀ rule ∈ rules, members.countP rule.picks ≤ 1

/-- No field is among the members. -/
def Foreign (rules : List FieldRule) (members : List (String × Json)) : Prop :=
  ∀ rule ∈ rules, ∀ member ∈ members, rule.picks member ≠ true

variable {rules : List FieldRule} {members others : List (String × Json)}

theorem Foreign.countP_eq (foreign : Foreign rules members) {rule : FieldRule}
    (among : rule ∈ rules) : members.countP rule.picks = 0 :=
  List.countP_eq_zero.mpr (foreign rule among)

theorem Foreign.find?_eq (foreign : Foreign rules members) {rule : FieldRule}
    (among : rule ∈ rules) : members.find? rule.picks = none :=
  List.find?_eq_none.mpr (foreign rule among)

theorem Foreign.append (foreign : Foreign rules members) (also : Foreign rules others) :
    Foreign rules (members ++ others) := by
  intro rule among member present
  rcases List.mem_append.mp present with before | after
  · exact foreign rule among member before
  · exact also rule among member after

/-- Fields and members of two kinds, side by side. -/
theorem Fits.append {moreRules : List FieldRule} (fits : Fits rules members)
    (also : Fits moreRules others) (foreign : Foreign rules others)
    (alsoForeign : Foreign moreRules members) : Fits (rules ++ moreRules) (members ++ others) := by
  constructor
  · intro rule among member present picked
    rcases List.mem_append.mp among with one | other
    · rcases List.mem_append.mp present with before | after
      · exact fits.passes rule one member before picked
      · exact absurd picked (foreign rule one member after)
    · rcases List.mem_append.mp present with before | after
      · exact absurd picked (alsoForeign rule other member before)
      · exact also.passes rule other member after picked
  · intro rule among
    rw [List.countP_append]
    rcases List.mem_append.mp among with one | other
    · rw [foreign.countP_eq one]
      exact fits.once rule one
    · rw [alsoForeign.countP_eq other, Nat.zero_add]
      exact also.once rule other

theorem Fits.perm (permuted : members.Perm others) (fits : Fits rules members) :
    Fits rules others where
  passes rule among member present picked :=
    fits.passes rule among member (permuted.mem_iff.mpr present) picked
  once rule among := permuted.countP_eq rule.picks ▸ fits.once rule among

/-- A member that is no field changes nothing. -/
theorem fits_cons_of_unknown {member : String × Json}
    (unknown : ∀ rule ∈ rules, rule.picks member ≠ true) :
    Fits rules (member :: members) ↔ Fits rules members := by
  constructor
  · intro fits
    constructor
    · intro rule among other present picked
      exact fits.passes rule among other (List.mem_cons_of_mem _ present) picked
    · intro rule among
      rw [← List.countP_cons_of_neg (unknown rule among)]
      exact fits.once rule among
  · intro fits
    constructor
    · intro rule among other present picked
      rcases List.mem_cons.mp present with rfl | later
      · exact absurd picked (unknown rule among)
      · exact fits.passes rule among other later picked
    · intro rule among
      rw [List.countP_cons_of_neg (unknown rule among)]
      exact fits.once rule among

/-- A member that is a field passes the field's test, and the field does not come again. -/
theorem fits_cons_of_known (distinct : Distinct rules) {rule : FieldRule}
    {member : String × Json} (among : rule ∈ rules) (picked : rule.picks member = true) :
    Fits rules (member :: members) ↔
      rule.check member.2 = .ok () ∧ Fits rules members ∧ members.countP rule.picks = 0 := by
  constructor
  · intro fits
    have once := fits.once rule among
    rw [List.countP_cons_of_pos picked] at once
    refine ⟨fits.passes rule among member (List.mem_cons_self ..) picked, ⟨?_, ?_⟩, by omega⟩
    · intro other also present later
      exact fits.passes other also present (List.mem_cons_of_mem _ later)
    · intro other also
      exact Nat.le_trans (List.sublist_cons_self ..).countP_le (fits.once other also)
  · rintro ⟨passes, fits, absent⟩
    constructor
    · intro other also present later again
      rcases List.mem_cons.mp later with rfl | rest
      · rw [distinct.eq among also picked again]
        exact passes
      · exact fits.passes other also present rest again
    · intro other also
      by_cases again : other.picks member = true
      · rw [distinct.eq among also picked again, List.countP_cons_of_pos picked]
        omega
      · rw [List.countP_cons_of_neg again]
        exact fits.once other also

/-- No field that has come before is among the members. -/
def Unseen (rules : List FieldRule) (seen : List String) (members : List (String × Json)) : Prop :=
  ∀ rule ∈ rules, rule.name ∈ seen → members.countP rule.picks = 0

theorem unseen_cons_of_unknown {seen : List String} {member : String × Json}
    (unknown : ∀ rule ∈ rules, rule.picks member ≠ true) :
    Unseen rules seen (member :: members) ↔ Unseen rules seen members := by
  refine forall₃_congr fun rule among _ => ?_
  rw [List.countP_cons_of_neg (unknown rule among)]

theorem unseen_cons_of_known (distinct : Distinct rules) {seen : List String} {rule : FieldRule}
    {member : String × Json} (among : rule ∈ rules) (picked : rule.picks member = true) :
    Unseen rules seen (member :: members) ↔ rule.name ∉ seen ∧ Unseen rules seen members := by
  constructor
  · intro unseen
    constructor
    · intro before
      have none := unseen rule among before
      rw [List.countP_cons_of_pos picked] at none
      omega
    · intro other also before
      have none := unseen other also before
      exact Nat.eq_zero_of_le_zero (none ▸ (List.sublist_cons_self ..).countP_le)
  · rintro ⟨first, unseen⟩ other also before
    rw [List.countP_cons_of_neg, unseen other also before]
    intro again
    rw [distinct.eq among also picked again] at before
    exact first before

/-- The field that has just come is one of those that have come before. -/
theorem unseen_cons_seen_iff (distinct : Distinct rules) {seen : List String} {rule : FieldRule}
    (among : rule ∈ rules) :
    Unseen rules (rule.name :: seen) members ↔
      members.countP rule.picks = 0 ∧ Unseen rules seen members := by
  constructor
  · intro unseen
    refine ⟨unseen rule among (List.mem_cons_self ..), ?_⟩
    intro other also before
    exact unseen other also (List.mem_cons_of_mem _ before)
  · rintro ⟨absent, unseen⟩ other also named
    rcases List.mem_cons.mp named with same | before
    · rw [distinct.eq among also rule.answersTo_name (same ▸ other.answersTo_name)]
      exact absent
    · exact unseen other also before

/-- Members pass in their order exactly if they keep the rules and bring no field that has come
before. -/
theorem checkMembers_eq_ok_iff (distinct : Distinct rules) (seen : List String) :
    checkMembers rules seen members = .ok () ↔
      Fits rules members ∧ Unseen rules seen members := by
  -- The fields seen before grow with every field, so the induction is for any of them.
  induction members generalizing seen with
  | nil =>
      refine iff_of_true rfl ⟨⟨?_, fun _ _ => Nat.zero_le _⟩, fun _ _ _ => rfl⟩
      intro rule among member present
      cases present
  | cons member rest ih =>
      obtain ⟨key, value⟩ := member
      unfold checkMembers
      cases found : rules.find? (fun rule => rule.answersTo key) with
      | none =>
          have unknown : ∀ rule ∈ rules, rule.picks (key, value) ≠ true :=
            fun rule among => List.find?_eq_none.mp found rule among
          dsimp only
          rw [ih, fits_cons_of_unknown unknown, unseen_cons_of_unknown unknown]
      | some rule =>
          have among := List.mem_of_find?_eq_some found
          have picked : rule.picks (key, value) = true := by
            have answers := List.find?_some found
            exact answers
          dsimp only
          rw [fits_cons_of_known distinct among picked,
            unseen_cons_of_known distinct among picked]
          by_cases again : rule.name ∈ seen
          · rw [if_pos (List.contains_iff_mem.mpr again)]
            exact iff_of_false (fun passed => by cases passed) fun kept => kept.2.1 again
          · rw [if_neg (mt List.contains_iff_mem.mp again)]
            cases passes : rule.check value with
            | error problem =>
                refine iff_of_false (fun passed => by cases passed) ?_
                rintro ⟨⟨refused, -⟩, -⟩
                cases refused
            | ok passed =>
                change checkMembers rules (rule.name :: seen) rest = .ok () ↔ _
                rw [ih, unseen_cons_seen_iff distinct among]
                constructor
                · rintro ⟨fits, absent, unseen⟩
                  exact ⟨⟨rfl, fits, absent⟩, again, unseen⟩
                · rintro ⟨⟨-, fits, absent⟩, -, unseen⟩
                  exact ⟨fits, absent, unseen⟩

end FieldRule

namespace Record

variable {α β : Type}

/-- The fields of a record answer to names that are apart. -/
def Distinct (record : Record α) : Prop := FieldRule.Distinct record.rules

instance (record : Record α) : Decidable record.Distinct :=
  inferInstanceAs (Decidable (FieldRule.Distinct _))

/-- A record is read from members that keep its rules. -/
theorem decoder_obj_eq_ok_iff {record : Record α} (distinct : record.Distinct)
    {members : List (String × Json)} {value : α} :
    record.decoder (.obj members) = .ok value ↔
      FieldRule.Fits record.rules members ∧ record.ofMembers members = .ok value := by
  have kept : FieldRule.checkMembers record.rules [] members = .ok () ↔ _ :=
    FieldRule.checkMembers_eq_ok_iff distinct []
  constructor
  · intro read
    obtain ⟨⟨⟩, checked, taken⟩ := exists_of_bind_eq_ok read
    exact ⟨(kept.mp checked).1, taken⟩
  · rintro ⟨fits, taken⟩
    have checked := kept.mpr ⟨fits, nofun⟩
    change (FieldRule.checkMembers record.rules [] members).bind _ = _
    rw [checked]
    exact taken

def rule (name : String) (alternative : Option String) (decoder : Decoder α) : FieldRule :=
  ⟨name, alternative, fun document => (decoder document).map fun _ => ()⟩

/-- A field has its rule. -/
theorem rule_mem {name : String} {alternative : Option String} {decoder : Decoder α}
    {noMember noItem : Except DecodeError α} :
    rule name alternative decoder ∈ (field name alternative decoder noMember noItem).rules :=
  List.mem_singleton_self _

/-- A field is read from the member that it picks. -/
theorem ofMembers_field {name : String} {alternative : Option String} {decoder : Decoder α}
    {noMember noItem : Except DecodeError α} (members : List (String × Json)) :
    (field name alternative decoder noMember noItem).ofMembers members =
      (members.find? (rule name alternative decoder).picks).elim noMember
        fun member => decoder member.2 := by
  have picked : (rule name alternative decoder).picks = fun member =>
      FieldRule.answersTo ⟨name, alternative, fun _ => .ok ()⟩ member.1 := rfl
  unfold field
  rw [picked]
  dsimp only
  generalize members.find? _ = found
  cases found <;> rfl

/-! ### Written records -/

/-- The members are a value's, if the names of the fields are apart: each is a field and denotes a
value, they keep the rules, and the value is read from them wherever they stand among members that
are no fields. -/
structure Writes (record : Record α) (members : List (String × Json)) (value : α) : Prop where
  readable : Json.membersReadable members = true
  own : ∀ member ∈ members, ∃ rule ∈ record.rules, rule.picks member = true
  fits : record.Distinct → FieldRule.Fits record.rules members
  reads : record.Distinct → ∀ before after, FieldRule.Foreign record.rules before →
    FieldRule.Foreign record.rules after →
    record.ofMembers (before ++ members ++ after) = .ok value

namespace Writes

variable {members others : List (String × Json)}

/-- Members of a value are no fields of another kind. -/
theorem foreign {record : Record α} {value : α} {rules : List FieldRule}
    (writes : record.Writes members value) (apart : FieldRule.Apart record.rules rules) :
    FieldRule.Foreign rules members := by
  intro other also member present picked
  obtain ⟨rule, among, own⟩ := writes.own member present
  exact apart rule among other also member.1 own picked

theorem map {record : Record α} {value : α} (writes : record.Writes members value)
    (build : α → β) : (build <$> record).Writes members (build value) where
  readable := writes.readable
  own := writes.own
  fits := writes.fits
  reads distinct before after none later := by
    rw [ofMembers_map, writes.reads distinct before after none later]
    rfl

theorem seq {first : Record (α → β)} {second : Record α} {build : α → β} {value : α}
    (writes : first.Writes members build) (also : second.Writes others value) :
    (first <*> second).Writes (members ++ others) (build value) where
  readable := by
    rw [Json.membersReadable_append, writes.readable, also.readable]
    rfl
  own member present := by
    rcases List.mem_append.mp present with before | after
    · obtain ⟨rule, among, picked⟩ := writes.own member before
      exact ⟨rule, List.mem_append_left _ among, picked⟩
    · obtain ⟨rule, among, picked⟩ := also.own member after
      exact ⟨rule, List.mem_append_right _ among, picked⟩
  fits distinct := by
    obtain ⟨one, other, apart⟩ := FieldRule.distinct_append_iff.mp distinct
    exact (writes.fits one).append (also.fits other) (also.foreign apart.symm)
      (writes.foreign apart)
  reads distinct before after none later := by
    obtain ⟨one, other, apart⟩ := FieldRule.distinct_append_iff.mp distinct
    have noneOfFirst {list : List (String × Json)}
        (foreign : FieldRule.Foreign (first <*> second).rules list) :
        FieldRule.Foreign first.rules list :=
      fun rule among => foreign rule (List.mem_append_left _ among)
    have noneOfSecond {list : List (String × Json)}
        (foreign : FieldRule.Foreign (first <*> second).rules list) :
        FieldRule.Foreign second.rules list :=
      fun rule among => foreign rule (List.mem_append_right _ among)
    have built : first.ofMembers (before ++ (members ++ others) ++ after) = .ok build := by
      rw [← List.append_assoc, List.append_assoc _ others]
      exact writes.reads one _ _ (noneOfFirst none)
        ((also.foreign apart.symm).append (noneOfFirst later))
    have taken : second.ofMembers (before ++ (members ++ others) ++ after) = .ok value := by
      rw [← List.append_assoc]
      exact also.reads other _ _ ((noneOfSecond none).append (writes.foreign apart))
        (noneOfSecond later)
    rw [ofMembers_seq, built]
    change (second.ofMembers _).map build = _
    rw [taken]
    rfl

variable {name : String} {alternative : Option String} {decoder : Decoder α}
  {noMember noItem : Except DecodeError α} {value : α}

/-- A field that is written. -/
theorem field {document : Json} (read : decoder document = .ok value)
    (readable : document.isReadable = true) :
    (Record.field name alternative decoder noMember noItem).Writes [(name, document)] value where
  readable := by simp [Json.membersReadable, readable]
  own member present := by
    rw [List.mem_singleton.mp present]
    exact ⟨_, rule_mem, FieldRule.answersTo_name _⟩
  fits _ := by
    constructor
    · intro rule among member present _
      rw [List.mem_singleton.mp among, List.mem_singleton.mp present]
      change (decoder document).map _ = _
      rw [read]
      rfl
    · intro rule among
      exact List.countP_le_length
  reads _ before after none later := by
    have picked : (rule name alternative decoder).picks (name, document) = true :=
      FieldRule.answersTo_name (rule name alternative decoder)
    rw [ofMembers_field, List.append_assoc, List.find?_append, none.find?_eq rule_mem,
      List.singleton_append, List.find?_cons_of_pos picked]
    exact read

/-- A field that is left out. -/
theorem absent (missing : noMember = .ok value) :
    (Record.field name alternative decoder noMember noItem).Writes [] value where
  readable := rfl
  own member present := by cases present
  fits _ := ⟨nofun, fun _ _ => Nat.zero_le _⟩
  reads _ before after none later := by
    rw [ofMembers_field, List.append_nil, (none.append later).find?_eq rule_mem]
    exact missing

/-- A field that is left out for nothing, and written otherwise. -/
theorem member {item : Decoder α} {encode : α → Json}
    {noItem : Except DecodeError (Option α)} {present : Option α}
    (reads : ∀ value, present = some value → item.nullable (encode value) = .ok (some value))
    (readable : ∀ value, (encode value).isReadable = true) :
    (Record.field name alternative item.nullable (.ok none) noItem).Writes
      (Json.member name encode present) present := by
  cases present with
  | none => exact .absent rfl
  | some value => exact .field (reads value rfl) (readable value)

/-- A record is read back from the members that it is written as. -/
theorem decoder_eq {record : Record α} (writes : record.Writes members value)
    (distinct : record.Distinct) : record.decoder (.obj members) = .ok value := by
  have nothing : FieldRule.Foreign record.rules [] := nofun
  have read := writes.reads distinct [] [] nothing nothing
  rw [List.nil_append, List.append_nil] at read
  exact (decoder_obj_eq_ok_iff distinct).mpr ⟨writes.fits distinct, read⟩

end Writes
end Record
end DidRegistry

import DidRegistry.Json.Writer
import DidRegistry.Proofs.Json.Rewording
import DidRegistry.Proofs.Json.WireForms
import Mathlib.Logic.Relation

/-!
Reports on jobs mean the same however they are written. A report is reworded step by step: the
members of any object change places, a member that the protocol does not know is put into the
report, its state, its resource or a signing request, or the state goes by its other name.

Main statement: rewordings of a text that is read as a report are read as the same report, and a
report whose state comes under both names is read as none (`JobResponse.reworded_reads`).
-/

namespace DidRegistry

open Json (Alike AtItem Shuffle)

/-! ### Signing requests and resources -/

namespace SigningRequest

def Reworded : Json → Json → Prop :=
  Json.Reworded ["kid", "serializedPayload"] fun _ _ _ => False

theorem record_keeps : record.Keeps fun _ => Alike fun _ _ => False :=
  .seq (.map (.field Decoder.text_keeps.alike_false) _) (.field Decoder.text_keeps.alike_false)

theorem keeps : record.decoder.Keeps fun document other =>
    document.NoRepeats ∧ Reworded document other :=
  record_keeps.reworded (by decide) (by decide) fun _ _ _ _ => rfl

end SigningRequest

namespace ResourceRef

def Reworded : Json → Json → Prop :=
  Json.Reworded ["id", "name", "type", "version"] fun _ _ _ => False

theorem record_keeps : record.Keeps fun _ => Alike fun _ _ => False :=
  have text := Decoder.text_keeps.nullable_shuffled.alike_false
  .seq (.seq (.seq (.map (.field text) _) (.field text)) (.field text)) (.field text)

theorem keeps : record.decoder.Keeps fun document other =>
    document.NoRepeats ∧ Reworded document other :=
  record_keeps.reworded (by decide) (by decide) fun _ _ _ _ => rfl

end ResourceRef

/-! ### States -/

namespace JobState

/-- The names that the protocol knows of members of a state, whatever its case. -/
def known : List String :=
  ["state", "signingRequest", "description", "did", "didDocument", "didUrl", "resourceId",
    "resource", "reason"]

/-- How the members of a state are reworded. -/
def inner : String → Json → Json → Prop
  | "signingRequest" => AtItem SigningRequest.Reworded
  | "resource" => ResourceRef.Reworded
  | _ => fun _ _ => False

def Reworded : Json → Json → Prop := Json.Reworded known inner

theorem isReadable_of_inner {key : String} {value other : Json} (reworded : inner key value other)
    (readable : value.isReadable = true) : other.isReadable = true := by
  unfold inner at reworded
  split at reworded
  · refine reworded.isReadable (fun _ _ request => ?_) readable
    exact Json.Reworded.isReadable (fun _ _ _ => False.elim) request
  · exact Json.Reworded.isReadable (fun _ _ _ => False.elim) reworded readable
  · exact reworded.elim

theorem Case.record_keeps (named : Case) : named.record.Keeps fun name => Alike (inner name) := by
  have text : Decoder.text.nullable.Keeps (Alike fun _ _ => False) :=
    Decoder.text_keeps.nullable_shuffled.alike_false
  cases named with
  | action =>
      refine .seq (.map (.field ?_) _) (.field text)
      exact (SigningRequest.record_keeps.shuffled (by decide)).list_shuffled.alike
        SigningRequest.keeps.list_atItem
  | finished =>
      refine .map (.seq (.seq (.seq (.seq (.map (.field text) _) (.field ?_)) (.field text))
        (.field text)) (.field ?_)) _
      · exact Decoder.value_keeps.nullable_shuffled.alike_false
      · refine ((ResourceRef.record_keeps.shuffled (by decide)).nullable_shuffled).alike ?_
        exact ResourceRef.keeps.nullable fun _ _ reworded => Json.Reworded.ne_null reworded.2
  | error => exact .map (.field text) _

theorem Case.names_eq (named : Case) : ∀ rule ∈ named.record.rules, rule.names = [rule.name] := by
  cases named <;> decide

theorem Case.names_subset (named : Case) :
    named.record.rules.flatMap FieldRule.names ⊆ known := by
  cases named <;> decide

/-- The fields of a case are read the same after any rewording. -/
theorem Case.keeps (named : Case) : named.record.decoder.Keeps fun document other =>
    document.NoRepeats ∧ Reworded document other := by
  refine named.record_keeps.reworded named.distinct named.names_subset ?_
  intro rule among key answers
  rw [named.names_eq rule among] at answers
  rw [List.mem_singleton.mp answers]

/-- So they are if they are read only where every part denotes a value. -/
theorem Case.keeps_readable (named : Case) :
    Decoder.Keeps (fun fields =>
      if fields.isReadable then named.record.decoder fields else .error .malformed)
      fun document other => document.NoRepeats ∧ Reworded document other := by
  rintro document other state ⟨once, reworded⟩ read
  dsimp only at read ⊢
  split at read
  · rename_i readable
    rw [if_pos (Json.Reworded.isReadable (fun _ _ _ => isReadable_of_inner) reworded readable)]
    exact named.keeps _ _ _ ⟨once, reworded⟩ read
  · cases read

/-! The case of a state stands among its members. What is done to the others is done to the fields of
the case. -/

section Members

variable {members others before after : List (String × Json)} {key : String} {value other : Json}
variable {state : JobState}

/-- The members that name the case. -/
def tags (members : List (String × Json)) : List (String × Json) :=
  members.filter (·.1 == "state")

theorem filter_eq_tags : members.filter (·.1 == "state") = tags members := rfl

def untagged (members : List (String × Json)) : List (String × Json) :=
  members.filter (·.1 != "state")

theorem tags_insert (apart : key ≠ "state") :
    tags (before ++ (key, value) :: after) = tags (before ++ after) := by
  simp [tags, apart]

theorem untagged_insert (apart : key ≠ "state") :
    untagged (before ++ (key, value) :: after) =
      untagged before ++ (key, value) :: untagged after := by
  simp [untagged, apart]

theorem tags_of_caseOf {named : Case} (tagged : caseOf members = .ok named) :
    ∃ name, tags members = [("state", .str name)] := by
  unfold caseOf at tagged
  rw [filter_eq_tags] at tagged
  have states : ∀ member ∈ tags members, member.1 = "state" := by
    intro member present
    have kept := List.of_mem_filter present
    exact beq_iff_eq.mp kept
  generalize tags members = found at tagged states
  rcases found with _ | ⟨⟨key, name⟩, _ | ⟨second, rest⟩⟩
  · cases tagged
  · obtain rfl : key = "state" := states _ (List.mem_singleton_self _)
    cases name with
    | str name => exact ⟨name, rfl⟩
    | _ => cases tagged
  · obtain ⟨_, -, later⟩ := exists_of_bind_eq_ok tagged
    cases later

/-- Members that name the case alike and whose other members are rewordings make the same state. -/
theorem decoder_of_untagged (tagged : tags members = tags others)
    (once : (Json.obj members).NoRepeats)
    (reworded : Reworded (.obj (untagged members)) (.obj (untagged others)))
    (read : decoder (.obj members) = .ok state) : decoder (.obj others) = .ok state := by
  obtain ⟨named, found, rest⟩ := exists_of_bind_eq_ok read
  have again : caseOf others = .ok named := by
    unfold caseOf at found ⊢
    rw [filter_eq_tags, ← tagged]
    exact found
  change (caseOf others).bind _ = _
  rw [again]
  refine named.keeps_readable (.obj (untagged members)) (.obj (untagged others)) state
    ⟨?_, reworded⟩ rest
  rw [Json.noRepeats_obj] at once ⊢
  exact ⟨once.1.sublist (List.filter_sublist.map _),
    fun member present => once.2 member (List.mem_of_mem_filter present)⟩

/-- A member beside the case may be reworded wherever it stands. -/
theorem decoder_of_replaced (apart : key ≠ "state")
    (once : (Json.obj (before ++ (key, value) :: after)).NoRepeats)
    (reworded : ∀ front back,
      Reworded (.obj (front ++ (key, value) :: back)) (.obj (front ++ (key, other) :: back)))
    (read : decoder (.obj (before ++ (key, value) :: after)) = .ok state) :
    decoder (.obj (before ++ (key, other) :: after)) = .ok state := by
  refine decoder_of_untagged ?_ once ?_ read
  · rw [tags_insert apart, tags_insert apart]
  · rw [untagged_insert apart, untagged_insert apart]
    exact reworded _ _

/-- The member that names the case is a string: it is neither shuffled nor reworded. -/
theorem apart_of_not_text
    (read : decoder (.obj (before ++ (key, value) :: after)) = .ok state)
    (text : ∀ name, value ≠ .str name) : key ≠ "state" := by
  rintro rfl
  obtain ⟨named, found, -⟩ := exists_of_bind_eq_ok read
  obtain ⟨name, alone⟩ := tags_of_caseOf found
  have among : ("state", value) ∈ tags (before ++ ("state", value) :: after) := by
    simp [tags]
  rw [alone, List.mem_singleton] at among
  cases among
  exact text name rfl

end Members

/-- Behind the case in front, an item of an array may be shuffled. -/
theorem decoder_of_items {name item other : Json} {front after : List Json} {state : JobState}
    (once : (Json.arr (name :: (front ++ item :: after))).NoRepeats) (shuffle : Shuffle item other)
    (read : decoder (.arr (name :: (front ++ item :: after))) = .ok state) :
    decoder (.arr (name :: (front ++ other :: after))) = .ok state := by
  obtain ⟨named, found, rest⟩ := exists_of_bind_eq_ok read
  change (Case.decoder name).bind _ = _
  rw [found]
  refine named.keeps_readable (.arr (front ++ item :: after)) (.arr (front ++ other :: after)) state
    ⟨?_, .shuffled (.item shuffle)⟩ rest
  rw [Json.noRepeats_arr] at once ⊢
  exact fun item present => once item (List.mem_cons_of_mem _ present)

/-- A state is read the same after any rewording. -/
theorem keeps : decoder.Keeps fun document other =>
    document.NoRepeats ∧ Reworded document other := by
  rintro document other state ⟨once, reworded⟩ read
  cases reworded with
  | shuffled shuffle =>
      cases shuffle with
      | @members members others permuted =>
          refine decoder_of_untagged ?_ once (.shuffled (.members (permuted.filter _))) read
          -- The case is named once, and one member has no other order.
          obtain ⟨named, found, -⟩ := exists_of_bind_eq_ok read
          obtain ⟨name, alone⟩ := tags_of_caseOf found
          have same : (tags members).Perm (tags others) := permuted.filter _
          rw [alone] at same ⊢
          exact List.singleton_perm.mp same
      | @item before after item other shuffle =>
          cases before with
          | nil =>
              -- The case in front is a string, in which there is nothing to shuffle.
              obtain ⟨named, found, -⟩ := exists_of_bind_eq_ok read
              cases shuffle <;> cases found
          | cons name front =>
              exact decoder_of_items once shuffle read
      | member shuffle =>
          have apart := apart_of_not_text read fun name same => by cases same ▸ shuffle
          exact decoder_of_replaced apart once (fun _ _ => .shuffled (.member shuffle)) read
  | @extended before after key value unknown readable =>
      have apart : key ≠ "state" := by
        rintro rfl
        exact unknown (List.mem_cons_self ..)
      refine decoder_of_untagged (tags_insert apart).symm once ?_ read
      rw [untagged_insert apart]
      have split : untagged (before ++ after) = untagged before ++ untagged after :=
        List.filter_append ..
      rw [split]
      exact .extended unknown readable
  | @within before after key value other reworded =>
      have apart : key ≠ "state" := by
        rintro rfl
        exact reworded
      exact decoder_of_replaced apart once (fun _ _ => .within reworded) read

end JobState

/-! ### Reports -/

namespace JobResponse

/-- The names that the state of a report goes by. -/
def stateNames : List String := ["didState", "didUrlState"]

/-- How the members of a report are reworded. -/
def inner (key : String) : Json → Json → Prop :=
  if key ∈ stateNames then JobState.Reworded else fun _ _ => False

/-- Rewordings of a report: those of a record, and the other name for its state. -/
inductive Reworded : Json → Json → Prop where
  | asRecord {document other : Json}
      (reworded : Json.Reworded ("jobId" :: stateNames) inner document other) :
      Reworded document other
  | respelled {before after : List (String × Json)} {name other : String} {state : Json}
      (spelled : name ∈ stateNames) (respelled : other ∈ stateNames) :
      Reworded (.obj (before ++ (name, state) :: after)) (.obj (before ++ (other, state) :: after))

/-- Rewordings one after the other, none of them of a document that names a member twice. -/
def Rewordings : Json → Json → Prop :=
  Relation.ReflTransGen fun document other => document.NoRepeats ∧ Reworded document other

theorem record_keeps : record.Keeps fun name => Alike (inner name) :=
  .seq (.map (.field Decoder.text_keeps.nullable_shuffled.alike_false) _)
    (.field (Decoder.Keeps.alike
      (fun _ _ _ shuffled => JobState.keeps _ _ _ ⟨shuffled.1, .shuffled shuffled.2⟩)
      JobState.keeps))

theorem distinct : record.Distinct := by decide

theorem inner_eq_of_names : ∀ rule ∈ record.rules, ∀ key ∈ rule.names,
    inner key = inner rule.name := by
  have together : ∀ rule ∈ record.rules, ∀ key ∈ rule.names,
      (key ∈ stateNames ↔ rule.name ∈ stateNames) := by decide
  intro rule among key answers
  simp only [inner, together rule among key answers]

/-- Both names of the state are those of one field. -/
theorem answersTo_of_stateNames : ∀ rule ∈ record.rules, ∀ name ∈ stateNames,
    ∀ other ∈ stateNames, rule.answersTo name = rule.answersTo other := by
  decide

/-- A report is read the same after any rewording. -/
theorem keeps : record.decoder.Keeps fun document other =>
    document.NoRepeats ∧ Reworded document other := by
  rintro document other response ⟨once, reworded⟩ read
  cases reworded with
  | asRecord reworded =>
      refine record_keeps.reworded distinct ?_ inner_eq_of_names _ _ _ ⟨once, reworded⟩ read
      decide
  | respelled spelled respelled =>
      refine record_keeps.of_members distinct
        (forall₂_replace (fun _ _ _ => ⟨rfl, fun _ => Or.inl rfl⟩) ?_ _ _) read
      intro rule among
      exact ⟨answersTo_of_stateNames rule among _ spelled _ respelled, fun _ => Or.inl rfl⟩

theorem Reworded.isReadable {document other : Json} (reworded : Reworded document other)
    (readable : document.isReadable = true) : other.isReadable = true := by
  cases reworded with
  | asRecord reworded =>
      refine Json.Reworded.isReadable (fun key _ _ inside => ?_) reworded readable
      unfold inner at inside
      split at inside
      · exact Json.Reworded.isReadable (fun _ _ _ => JobState.isReadable_of_inner) inside
      · exact inside.elim
  | respelled =>
      rw [Json.isReadable, Json.membersReadable_iff] at readable ⊢
      simp only [List.forall_mem_append, List.forall_mem_cons] at readable ⊢
      exact readable

variable {document other : Json}

/-- However often a report is reworded, it is read the same. -/
theorem Rewordings.decoder_eq_ok (rewordings : Rewordings document other) {response : JobResponse}
    (read : record.decoder document = .ok response) : record.decoder other = .ok response := by
  induction rewordings with
  | refl => exact read
  | tail _ step ih => exact keeps _ _ response step ih

theorem Rewordings.isReadable (rewordings : Rewordings document other)
    (readable : document.isReadable = true) : other.isReadable = true := by
  induction rewordings with
  | refl => exact readable
  | tail _ step ih => exact step.2.isReadable ih

/-- A report whose state comes under both names is not read. -/
theorem decoder_ne_ok_of_both {members : List (String × Json)} {state again : Json}
    (one : ("didState", state) ∈ members) (both : ("didUrlState", again) ∈ members)
    (response : JobResponse) : record.decoder (.obj members) ≠ .ok response := by
  intro read
  obtain ⟨fits, -⟩ := (Record.decoder_obj_eq_ok_iff distinct).mp read
  have same := eq_of_mem_of_countP_le_one (fits.once _ (List.mem_append_right _ Record.rule_mem))
    one both rfl rfl
  have names : "didState" = "didUrlState" := congrArg Prod.fst same
  exact absurd names (by decide)

/-- Rewordings of a text that is read as a report are read as the same report. Rewordings leave
nothing out: they let members change places, add members that nobody asks for, and give the state
its other name, as often as one likes and in every object that belongs to a report. A report whose
state comes under both names is refused. All this holds of texts that come as characters and of
those that come as octets. -/
theorem reworded_reads :
    (∀ text reworded document other response, Json.ofText? text = some document →
      Json.ofText? reworded = some other → Rewordings document other →
      record.decoder.ofText text = .ok response → record.decoder.ofText reworded = .ok response) ∧
    (∀ bytes reworded document other response, Json.ofBytes? bytes = some document →
      Json.ofBytes? reworded = some other → Rewordings document other →
      record.decoder.ofBytes bytes = .ok response →
      record.decoder.ofBytes reworded = .ok response) ∧
    (∀ text members state again, Json.ofText? text = some (.obj members) →
      ("didState", state) ∈ members → ("didUrlState", again) ∈ members →
      ∃ problem, record.decoder.ofText text = .error problem) ∧
    ∀ bytes members state again, Json.ofBytes? bytes = some (.obj members) →
      ("didState", state) ∈ members → ("didUrlState", again) ∈ members →
      ∃ problem, record.decoder.ofBytes bytes = .error problem := by
  refine ⟨?_, ?_, ?_, ?_⟩
  · intro text reworded document other response written rewritten rewordings read
    obtain ⟨readable, whole⟩ := (Decoder.ofText_eq_ok_iff written).mp read
    exact (Decoder.ofText_eq_ok_iff rewritten).mpr
      ⟨rewordings.isReadable readable, rewordings.decoder_eq_ok whole⟩
  · intro bytes reworded document other response written rewritten rewordings read
    exact (Decoder.ofBytes_eq_ok_iff rewritten).mpr
      (rewordings.decoder_eq_ok ((Decoder.ofBytes_eq_ok_iff written).mp read))
  · intro text members state again written one both
    exact exists_error_of_ne_ok fun response read => decoder_ne_ok_of_both one both response
      ((Decoder.ofText_eq_ok_iff written).mp read).2
  · intro bytes members state again written one both
    exact exists_error_of_ne_ok fun response read => decoder_ne_ok_of_both one both response
      ((Decoder.ofBytes_eq_ok_iff written).mp read)

def finished : Json :=
  .obj [("jobId", .str "j"), ("didState", .obj [("state", .str "finished"), ("did", .str "d")])]

/-- The report with the case behind the DID, the state under its other name, and a count of rounds
that the protocol does not know. -/
def finishedReworded : Json :=
  .obj [("jobId", .str "j"), ("didUrlState", .obj [("did", .str "d"), ("state", .str "finished")]),
    ("rounds", .int 1)]

theorem rewordings_finished : Rewordings finished finishedReworded := by
  have moved : Reworded finished (.obj [("jobId", .str "j"),
      ("didState", .obj [("did", .str "d"), ("state", .str "finished")])]) :=
    .asRecord (.shuffled (@Shuffle.member [("jobId", .str "j")] [] "didState" _ _
      (.members (.swap _ _ _))))
  have respelled : Reworded (.obj [("jobId", .str "j"),
      ("didState", .obj [("did", .str "d"), ("state", .str "finished")])])
      (.obj [("jobId", .str "j"),
        ("didUrlState", .obj [("did", .str "d"), ("state", .str "finished")])]) :=
    @Reworded.respelled [("jobId", .str "j")] [] "didState" "didUrlState" _
      (by decide) (by decide)
  have extended : Reworded (.obj [("jobId", .str "j"),
      ("didUrlState", .obj [("did", .str "d"), ("state", .str "finished")])])
      finishedReworded :=
    .asRecord (@Json.Reworded.extended _ _ [("jobId", .str "j"), ("didUrlState", _)] [] "rounds"
      (.int 1) (by decide) (by decide))
  refine ((Relation.ReflTransGen.single ⟨?_, moved⟩).tail ⟨?_, respelled⟩).tail ⟨?_, extended⟩
  all_goals simp [finished, Json.NoRepeats, Json.MembersNoRepeats]

/-- A report that gives its state under both names. -/
def finishedTwice : Json :=
  .obj [("didState", .obj [("state", .str "finished")]),
    ("didUrlState", .obj [("state", .str "finished")])]

/-- The report is read the same from both texts, and not from one that gives its state twice. -/
theorem reworded_reads_finished :
    record.decoder.ofText finished.render =
      .ok ⟨some "j", .finished ⟨some "d", none, none, none, none⟩⟩ ∧
    record.decoder.ofText finishedReworded.render =
      .ok ⟨some "j", .finished ⟨some "d", none, none, none, none⟩⟩ ∧
    ∃ problem, record.decoder.ofText finishedTwice.render = .error problem := by
  have written : Json.ofText? finished.render = some finished := by decide +kernel
  have rewritten : Json.ofText? finishedReworded.render = some finishedReworded := by
    decide +kernel
  have both : Json.ofText? finishedTwice.render = some finishedTwice := by decide +kernel
  have read : record.decoder.ofText finished.render =
      .ok ⟨some "j", .finished ⟨some "d", none, none, none, none⟩⟩ := by decide +kernel
  refine ⟨read, reworded_reads.1 _ _ _ _ _ written rewritten rewordings_finished read, ?_⟩
  exact reworded_reads.2.2.1 _ _ _ _ both (.head _) (.tail _ (.head _))

end JobResponse
end DidRegistry

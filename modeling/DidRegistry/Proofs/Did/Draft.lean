import DidRegistry.Proofs.Did.Lifecycle

/-!
Drafts of DID documents. A registrar drafts a document in two shapes, bare and wrapped
(`Did.Holds`), and the reading of both is `Draft.ofBody?_eq_some_iff`. A creation that does not come
as far as a draft has ended in one of the ways of `Did.Undrafted`.
-/

namespace DidRegistry.Did

variable {services : Services} {options : CreateOptions}

/-- The registrar answers with status 200, in a body that reads as this value. -/
def Answers (delivery : Delivery) (body : Value) : Prop :=
  ∃ reply, delivery = .replied reply ∧ reply.status = 200 ∧ Value.ofBytes? reply.body = some body

/-- The draft in an answer: the member `didDoc` of an object that has one, and the whole answer
otherwise. -/
inductive Holds (body : Value) : Value → Prop where
  | wrapped {members : List (String × Json)} {document : Value} (object : body.json = .obj members)
      (found : members.lookup "didDoc" = some document.json) : Holds body document
  | bare (without : ∀ members, body.json = .obj members → members.lookup "didDoc" = none) :
      Holds body body

/-- The document is an object that names the DID in its member `id`. -/
def NamesDid (document : Value) (did : String) : Prop :=
  ∃ members, document.json = .obj members ∧ members.lookup "id" = some (.str did)

/-- The registrar answers with a draft. -/
def Drafts (delivery : Delivery) (draft : Draft) : Prop :=
  ∃ body, Answers delivery body ∧ Holds body draft.document ∧
    NamesDid draft.document draft.did

/-- There is exactly one draft in an answer. -/
theorem holds_iff {body document : Value} :
    Holds body document ↔ (body.member? "didDoc").getD body = document := by
  have same := body.json_member? "didDoc"
  constructor
  · intro holds
    cases holds with
    | wrapped object found =>
        rw [object] at same
        obtain ⟨member, present, equal⟩ := Option.map_eq_some_iff.mp (same.trans found)
        rw [present]
        exact Value.json_injective equal
    | bare without =>
        have absent : body.json.member? "didDoc" = none := by
          cases object : body.json with
          | obj members => exact without members object
          | _ => rfl
        rw [Option.map_eq_none_iff.mp (same.trans absent)]
        rfl
  · rintro rfl
    cases present : body.member? "didDoc" with
    | some member =>
        rw [present] at same
        cases object : body.json with
        | obj members =>
            rw [object] at same
            exact .wrapped object same.symm
        | _ =>
            rw [object] at same
            cases same
    | none =>
        refine .bare ?_
        intro members object
        rw [present, object] at same
        exact same.symm

theorem namesDid_iff {document : Value} {did : String} :
    NamesDid document did ↔ (document.json.member? "id" >>= Json.text?) = some did := by
  constructor
  · rintro ⟨members, object, found⟩
    rw [object, Json.member?, found]
    rfl
  · intro found
    obtain ⟨id, present, text⟩ := Option.bind_eq_some_iff.mp found
    cases id with
    | str did =>
        cases text
        cases object : document.json with
        | obj members =>
            rw [object] at present
            exact ⟨members, object, present⟩
        | _ =>
            rw [object] at present
            cases present
    | _ => cases text

/-- A draft is read off an answer exactly if the answer holds it and it names its DID. -/
theorem Draft.ofBody?_eq_some_iff {body : Value} {draft : Draft} :
    Draft.ofBody? body = some draft ↔
      Holds body draft.document ∧ NamesDid draft.document draft.did := by
  obtain ⟨document, did⟩ := draft
  simp only [ofBody?, Option.map_eq_some_iff, mk.injEq, holds_iff, namesDid_iff]
  constructor
  · rintro ⟨_, named, same, rfl⟩
    rw [same] at named
    exact ⟨same, named⟩
  · rintro ⟨same, named⟩
    rw [same]
    exact ⟨did, named, rfl, rfl⟩

theorem drafted_eq_ok_iff {url : Url} {delivery : Delivery} {draft : Draft} :
    drafted url delivery = .ok draft ↔ Drafts delivery draft := by
  constructor
  · intro brought
    obtain ⟨reply, body, rfl, accepted, read, found⟩ := drafted_eq_ok brought
    exact ⟨body, ⟨reply, rfl, accepted, read⟩, Draft.ofBody?_eq_some_iff.mp found⟩
  · rintro ⟨body, ⟨reply, rfl, accepted, read⟩, holds⟩
    have found := Draft.ofBody?_eq_some_iff.mpr holds
    simp only [drafted, Delivery.read, Registrar.readDraft, accepted, read, found, ne_eq,
      not_true_eq_false, if_false]

/-- Without a draft, the error says whether the registrar has answered at all. -/
theorem drafted_eq_error {url : Url} {delivery : Delivery} {error : Error}
    (failed : drafted url delivery = .error error) :
    error = .documentConstruction ↔ ∃ body, Answers delivery body := by
  cases delivery with
  | dropped =>
      cases failed
      simp [Answers]
  | refused =>
      cases failed
      simp [Answers]
  | replied reply =>
      simp only [drafted, Delivery.read, Registrar.readDraft] at failed
      by_cases accepted : reply.status = 200
      · rw [if_neg (fun refused => refused accepted)] at failed
        cases read : Value.ofBytes? reply.body with
        | none =>
            rw [read] at failed
            cases failed
            simp [Answers, read]
        | some body =>
            cases found : Draft.ofBody? body with
            | none =>
                simp only [read, found] at failed
                cases failed
                simp [Answers, read, accepted]
            | some draft =>
                simp only [read, found] at failed
                cases failed
      · rw [if_pos accepted] at failed
        cases failed
        simp [Answers, accepted]

/-- What a creation exchanges that ends before it has a draft, and the error that it ends with. -/
inductive Undrafted (services : Services) (options : CreateOptions) :
    List Exchange → Error → Prop where
  /-- A seed is given, and the settings allow none. -/
  | seeded (given : options.seed.isSome = true)
      (strict : services.settings.allowInsecureSeed = false) :
      Undrafted services options [] .keyPolicy
  /-- The wallet makes no key. -/
  | keyless {reason : String}
      (allowed : ¬ (options.seed.isSome = true ∧ services.settings.allowInsecureSeed = false)) :
      Undrafted services options [⟨.createKey options.seed, .error reason⟩] (.wallet reason)
  /-- The registrar is asked for a draft, and its answer is none. -/
  | draftless {url : Url} {verkey : Bytes} {delivery : Delivery} {error : Error}
      (allowed : ¬ (options.seed.isSome = true ∧ services.settings.allowInsecureSeed = false))
      (place : Registrar.endpointUrl services.registrar "did-document" = .ok url)
      (none : ¬ ∃ draft, Drafts delivery draft)
      (reason : error = .documentConstruction ↔ ∃ body, Answers delivery body) :
      Undrafted services options
        [⟨.createKey options.seed, .ok verkey⟩,
          ⟨.fetch (creationDraft services options url verkey), delivery⟩]
        error

end DidRegistry.Did

import DidRegistry.Json.Basic

/-!
Free-form values: JSON documents in canonical form, so that equal values are equal trees. Parts of
the protocol that carry content they do not look into (documents of DIDs, resource contents,
resource metadata) carry these.

Main statement: a value is what its own document reads as (`Value.ofJson?_json`).
-/

namespace DidRegistry

/-- A JSON document in canonical form. -/
structure Value where
  json : Json
  canonical : json.IsCanonical
  deriving DecidableEq, Repr

/-- The members of a JSON object in canonical form. -/
structure Metadata where
  members : List (String × Json)
  canonical : Json.MembersCanonical members
  deriving DecidableEq, Repr

namespace Json

theorem mem_of_lookup {key : String} {value : Json} {members : List (String × Json)}
    (found : members.lookup key = some value) : (key, value) ∈ members := by
  induction members with
  | nil => simp at found
  | cons member rest ih =>
    obtain ⟨other, kept⟩ := member
    by_cases same : key = other
    · subst same
      simp only [List.lookup_cons_self, Option.some.injEq] at found
      simp [found]
    · rw [List.lookup_cons, beq_eq_false_iff_ne.2 same] at found
      exact List.mem_cons_of_mem _ (ih found)

theorem IsCanonical.of_member? {document value : Json} {key : String} (h : document.IsCanonical)
    (found : document.member? key = some value) : value.IsCanonical := by
  cases document with
  | obj members =>
    simp only [IsCanonical] at h
    exact IsCanonical.of_mem h (mem_of_lookup found)
  | _ => simp [member?] at found

end Json

namespace Value

/-- Reads a document as a value, if every part of it denotes one. -/
def ofJson? (document : Json) : Option Value :=
  if readable : document.isReadable = true then
    some ⟨document.canonical, Json.canonical_isCanonical readable⟩
  else none

/-- A value is what its own document reads as. -/
@[simp] theorem ofJson?_json (value : Value) : ofJson? value.json = some value := by
  obtain ⟨json, canonical⟩ := value
  simp [ofJson?, canonical.isReadable, Json.canonical_eq_self canonical]

def null : Value := ⟨.null, trivial⟩

instance : Inhabited Value := ⟨null⟩

def text (value : String) : Value := ⟨.str value, trivial⟩

def int (value : Int) : Value := ⟨.int value, trivial⟩

theorem itemsCanonical_map (items : List Value) : Json.ItemsCanonical (items.map Value.json) := by
  induction items with
  | nil => trivial
  | cons item rest ih => exact ⟨item.canonical, ih⟩

def array (items : List Value) : Value :=
  ⟨.arr (items.map Value.json), by simpa [Json.IsCanonical] using itemsCanonical_map items⟩

/-- The members of an object in ascending order. Of members with one key the last remains. -/
def sortedMembers : List (String × Value) → List (String × Json)
  | [] => []
  | (key, value) :: rest => Json.insertAbsent key value.json (sortedMembers rest)

theorem membersCanonical_sortedMembers (members : List (String × Value)) :
    Json.MembersCanonical (sortedMembers members) := by
  induction members with
  | nil => trivial
  | cons member rest ih => exact Json.membersCanonical_insertAbsent member.2.canonical ih

def object (members : List (String × Value)) : Value :=
  ⟨.obj (sortedMembers members),
    by simpa [Json.IsCanonical] using membersCanonical_sortedMembers members⟩

/-- Values are told apart by their documents. -/
theorem json_injective : Function.Injective json := by
  rintro ⟨json, _⟩ ⟨_, _⟩ rfl
  rfl

/-- The value of a member, if this is an object that has it. -/
def member? (key : String) (value : Value) : Option Value :=
  match found : value.json.member? key with
  | some member => some ⟨member, value.canonical.of_member? found⟩
  | none => none

/-- The document of a member is the member of the document. -/
theorem json_member? (value : Value) (key : String) :
    (value.member? key).map json = value.json.member? key := by
  unfold member?
  split
  · rename_i found
    exact found.symm
  · rename_i absent
    exact absent.symm

end Value

namespace Metadata

def empty : Metadata := ⟨[], trivial⟩

instance : Inhabited Metadata := ⟨empty⟩

/-- The members of a value that is an object. -/
def ofValue? : Value → Option Metadata
  | ⟨.obj members, canonical⟩ => some ⟨members, by simpa [Json.IsCanonical] using canonical⟩
  | _ => none

def json (metadata : Metadata) : Json := .obj metadata.members

def value (metadata : Metadata) : Value :=
  ⟨metadata.json, by simpa [json, Json.IsCanonical] using metadata.canonical⟩

@[simp] theorem ofValue?_value (metadata : Metadata) :
    ofValue? metadata.value = some metadata := rfl

/-- The text of a member that is a string. -/
def text? (key : String) (metadata : Metadata) : Option String :=
  metadata.json.member? key >>= Json.text?

end Metadata
end DidRegistry

import DidRegistry.Json.Double

/-!
JSON documents as trees. An object keeps its members in the order in which they were written, with
repetitions, because readers of records are sensitive to both; `canonical` forgets order and
repetition, and is what free-form values are compared and published in.

Main statements: a readable document has a canonical form (`canonical_isCanonical`), and a canonical
document is its own canonical form (`canonical_eq_self`).
-/

namespace DidRegistry

/-- A number as a reader of JSON keeps it. Whole numbers of the signed or unsigned 64-bit range are
kept exactly; every other number is a double, whose sign stands apart so that zero can be
negative. -/
inductive Number where
  | whole (value : Int)
  | double (negative : Bool) (magnitude : Double)
  deriving DecidableEq, Repr

/-- A JSON document. `unreadable` stands for text that follows the grammar but denotes no value:
a string with half a surrogate pair, a number beyond the range of doubles, an object with a key of
the first kind, or an array or object nested too deeply. -/
inductive Json where
  | null
  | bool (value : Bool)
  | num (value : Number)
  | str (value : String)
  | arr (items : List Json)
  | obj (members : List (String × Json))
  | unreadable
  deriving Repr

namespace Json

def int (value : Int) : Json := .num (.whole value)

instance : Inhabited Json := ⟨.null⟩

mutual

/-- Decides equality of documents. -/
def decEq : (a b : Json) → Decidable (a = b)
  | .null, .null => isTrue rfl
  | .bool a, .bool b => if h : a = b then isTrue (by rw [h]) else isFalse (by simp [h])
  | .num a, .num b => if h : a = b then isTrue (by rw [h]) else isFalse (by simp [h])
  | .str a, .str b => if h : a = b then isTrue (by rw [h]) else isFalse (by simp [h])
  | .arr a, .arr b => match decEqItems a b with
    | isTrue h => isTrue (by rw [h])
    | isFalse h => isFalse (by simp [h])
  | .obj a, .obj b => match decEqMembers a b with
    | isTrue h => isTrue (by rw [h])
    | isFalse h => isFalse (by simp [h])
  | .unreadable, .unreadable => isTrue rfl
  | .null, .bool _ | .null, .num _ | .null, .str _ | .null, .arr _ | .null, .obj _
  | .null, .unreadable | .bool _, .null | .bool _, .num _ | .bool _, .str _ | .bool _, .arr _
  | .bool _, .obj _ | .bool _, .unreadable | .num _, .null | .num _, .bool _ | .num _, .str _
  | .num _, .arr _ | .num _, .obj _ | .num _, .unreadable | .str _, .null | .str _, .bool _
  | .str _, .num _ | .str _, .arr _ | .str _, .obj _ | .str _, .unreadable | .arr _, .null
  | .arr _, .bool _ | .arr _, .num _ | .arr _, .str _ | .arr _, .obj _ | .arr _, .unreadable
  | .obj _, .null | .obj _, .bool _ | .obj _, .num _ | .obj _, .str _ | .obj _, .arr _
  | .obj _, .unreadable | .unreadable, .null | .unreadable, .bool _ | .unreadable, .num _
  | .unreadable, .str _ | .unreadable, .arr _ | .unreadable, .obj _ => isFalse (by simp)

def decEqItems : (a b : List Json) → Decidable (a = b)
  | [], [] => isTrue rfl
  | [], _ :: _ => isFalse (by simp)
  | _ :: _, [] => isFalse (by simp)
  | a :: as, b :: bs => match decEq a b, decEqItems as bs with
    | isTrue h, isTrue hs => isTrue (by rw [h, hs])
    | isFalse h, _ => isFalse (by simp [h])
    | _, isFalse hs => isFalse (by simp [hs])

def decEqMembers : (a b : List (String × Json)) → Decidable (a = b)
  | [], [] => isTrue rfl
  | [], _ :: _ => isFalse (by simp)
  | _ :: _, [] => isFalse (by simp)
  | (k, a) :: as, (l, b) :: bs =>
    if hk : k = l then
      match decEq a b, decEqMembers as bs with
      | isTrue h, isTrue hs => isTrue (by rw [hk, h, hs])
      | isFalse h, _ => isFalse (by simp [h])
      | _, isFalse hs => isFalse (by simp [hs])
    else isFalse (by simp [hk])

end

instance : DecidableEq Json := decEq

/-- The value of a member of an object; of members with one key, the first. -/
def member? (key : String) : Json → Option Json
  | .obj members => members.lookup key
  | _ => none

def text? : Json → Option String
  | .str value => some value
  | _ => none

/-! ### Readable documents -/

mutual

/-- Whether every part of the document denotes a value. -/
def isReadable : Json → Bool
  | .arr items => itemsReadable items
  | .obj members => membersReadable members
  | .unreadable => false
  | .null | .bool _ | .num _ | .str _ => true

/-- Whether every item of an array denotes a value. -/
def itemsReadable : List Json → Bool
  | [] => true
  | item :: rest => item.isReadable && itemsReadable rest

/-- Whether every member of an object denotes a value. -/
def membersReadable : List (String × Json) → Bool
  | [] => true
  | (_, value) :: rest => value.isReadable && membersReadable rest

end

/-! ### Canonical documents -/

mutual

/-- A readable document whose objects name each key once, in ascending order. -/
def IsCanonical : Json → Prop
  | .arr items => ItemsCanonical items
  | .obj members => MembersCanonical members
  | .unreadable => False
  | .null | .bool _ | .num _ | .str _ => True

/-- Every item is canonical. -/
def ItemsCanonical : List Json → Prop
  | [] => True
  | item :: rest => item.IsCanonical ∧ ItemsCanonical rest

/-- Keys ascend and every value is canonical. -/
def MembersCanonical : List (String × Json) → Prop
  | [] => True
  | (key, value) :: rest =>
    (∀ other ∈ rest, key < other.1) ∧ value.IsCanonical ∧ MembersCanonical rest

end

/-- Puts a member in its place among ascending keys, unless its key is taken. -/
def insertAbsent (key : String) (value : Json) : List (String × Json) → List (String × Json)
  | [] => [(key, value)]
  | (other, kept) :: rest =>
    if key < other then (key, value) :: (other, kept) :: rest
    else if key = other then (other, kept) :: rest
    else (other, kept) :: insertAbsent key value rest

mutual

/-- The document with the members of every object in ascending order of keys; of members with one
key the last remains. -/
def canonical : Json → Json
  | .arr items => .arr (canonicalItems items)
  | .obj members => .obj (canonicalMembers members)
  | .null => .null
  | .bool value => .bool value
  | .num value => .num value
  | .str value => .str value
  | .unreadable => .unreadable

/-- The items of an array, each in canonical form. -/
def canonicalItems : List Json → List Json
  | [] => []
  | item :: rest => item.canonical :: canonicalItems rest

/-- The members of an object in canonical form. A member yields to any later one of its key. -/
def canonicalMembers : List (String × Json) → List (String × Json)
  | [] => []
  | (key, value) :: rest => insertAbsent key value.canonical (canonicalMembers rest)

end

theorem lt_of_mem_insertAbsent {bound key : String} {value : Json} {members : List (String × Json)}
    (first : bound < key) (later : ∀ other ∈ members, bound < other.1) :
    ∀ other ∈ insertAbsent key value members, bound < other.1 := by
  induction members with
  | nil => simpa [insertAbsent] using first
  | cons member rest ih =>
    simp only [List.mem_cons, forall_eq_or_imp] at later
    simp only [insertAbsent]
    split
    · simp only [List.mem_cons, forall_eq_or_imp]
      exact ⟨first, later.1, later.2⟩
    · split
      · simp only [List.mem_cons, forall_eq_or_imp]
        exact later
      · simp only [List.mem_cons, forall_eq_or_imp]
        exact ⟨later.1, ih later.2⟩

/-- Inserting a canonical value keeps the members canonical. -/
theorem membersCanonical_insertAbsent {key : String} {value : Json}
    {members : List (String × Json)} (valueCanonical : value.IsCanonical)
    (membersCanonical : MembersCanonical members) :
    MembersCanonical (insertAbsent key value members) := by
  induction members with
  | nil => exact ⟨by simp, valueCanonical, trivial⟩
  | cons member rest ih =>
    obtain ⟨other, kept⟩ := member
    obtain ⟨ascending, keptCanonical, restCanonical⟩ := membersCanonical
    simp only [insertAbsent]
    split
    · rename_i before
      refine ⟨?_, valueCanonical, ascending, keptCanonical, restCanonical⟩
      simp only [List.mem_cons, forall_eq_or_imp]
      exact ⟨before, fun later inRest => String.lt_trans before (ascending later inRest)⟩
    · split
      · exact ⟨ascending, keptCanonical, restCanonical⟩
      · rename_i notBefore distinct
        have after : other < key := Std.lt_of_le_of_ne notBefore (Ne.symm distinct)
        exact ⟨lt_of_mem_insertAbsent after ascending, keptCanonical, ih restCanonical⟩

mutual

/-- A readable document has a canonical form. -/
theorem canonical_isCanonical : {document : Json} → document.isReadable = true →
    document.canonical.IsCanonical
  | .arr items, readable => by
    simp only [canonical, IsCanonical]
    exact itemsCanonical_of_readable (by simpa [isReadable] using readable)
  | .obj members, readable => by
    simp only [canonical, IsCanonical]
    exact membersCanonical_of_readable (by simpa [isReadable] using readable)
  | .unreadable, readable => by simp [isReadable] at readable
  | .null, _ | .bool _, _ | .num _, _ | .str _, _ => by simp [canonical, IsCanonical]

theorem itemsCanonical_of_readable : {items : List Json} → itemsReadable items = true →
    ItemsCanonical (canonicalItems items)
  | [], _ => by simp [canonicalItems, ItemsCanonical]
  | item :: rest, readable => by
    simp only [itemsReadable, Bool.and_eq_true] at readable
    simp only [canonicalItems, ItemsCanonical]
    exact ⟨canonical_isCanonical readable.1, itemsCanonical_of_readable readable.2⟩

theorem membersCanonical_of_readable : {members : List (String × Json)} →
    membersReadable members = true → MembersCanonical (canonicalMembers members)
  | [], _ => by simp [canonicalMembers, MembersCanonical]
  | (key, value) :: rest, readable => by
    simp only [membersReadable, Bool.and_eq_true] at readable
    simp only [canonicalMembers]
    exact membersCanonical_insertAbsent (canonical_isCanonical readable.1)
      (membersCanonical_of_readable readable.2)

end

mutual

/-- Every part of a canonical document denotes a value. -/
theorem IsCanonical.isReadable : {document : Json} → document.IsCanonical →
    document.isReadable = true
  | .arr items, h => by
    simp only [Json.isReadable]
    exact itemsReadable_of_canonical (by simpa [IsCanonical] using h)
  | .obj members, h => by
    simp only [Json.isReadable]
    exact membersReadable_of_canonical (by simpa [IsCanonical] using h)
  | .unreadable, h => by simp [IsCanonical] at h
  | .null, _ | .bool _, _ | .num _, _ | .str _, _ => by simp [Json.isReadable]

theorem itemsReadable_of_canonical : {items : List Json} → ItemsCanonical items →
    itemsReadable items = true
  | [], _ => by simp [itemsReadable]
  | item :: rest, h => by
    simp only [ItemsCanonical] at h
    simp only [itemsReadable, Bool.and_eq_true]
    exact ⟨h.1.isReadable, itemsReadable_of_canonical h.2⟩

theorem membersReadable_of_canonical : {members : List (String × Json)} →
    MembersCanonical members → membersReadable members = true
  | [], _ => by simp [membersReadable]
  | (_, value) :: rest, h => by
    simp only [MembersCanonical] at h
    simp only [membersReadable, Bool.and_eq_true]
    exact ⟨h.2.1.isReadable, membersReadable_of_canonical h.2.2⟩

end

theorem insertAbsent_of_lt {key : String} {value : Json} {members : List (String × Json)}
    (ascending : ∀ other ∈ members, key < other.1) :
    insertAbsent key value members = (key, value) :: members := by
  cases members with
  | nil => rfl
  | cons member rest => simp [insertAbsent, ascending member (by simp)]

mutual

/-- A canonical document is its own canonical form. -/
theorem canonical_eq_self : {document : Json} → document.IsCanonical →
    document.canonical = document
  | .arr items, h => by
    simp only [canonical]
    rw [canonicalItems_eq_self (by simpa [IsCanonical] using h)]
  | .obj members, h => by
    simp only [canonical]
    rw [canonicalMembers_eq_self (by simpa [IsCanonical] using h)]
  | .null, _ | .bool _, _ | .num _, _ | .str _, _ | .unreadable, _ => by simp [canonical]

theorem canonicalItems_eq_self : {items : List Json} → ItemsCanonical items →
    canonicalItems items = items
  | [], _ => by simp [canonicalItems]
  | item :: rest, h => by
    simp only [ItemsCanonical] at h
    simp only [canonicalItems]
    rw [canonical_eq_self h.1, canonicalItems_eq_self h.2]

theorem canonicalMembers_eq_self : {members : List (String × Json)} →
    MembersCanonical members → canonicalMembers members = members
  | [], _ => by simp [canonicalMembers]
  | (key, value) :: rest, h => by
    simp only [MembersCanonical] at h
    simp only [canonicalMembers]
    rw [canonical_eq_self h.2.1, canonicalMembers_eq_self h.2.2, insertAbsent_of_lt h.1]

end

/-- The members of a canonical object have canonical values. -/
theorem IsCanonical.of_mem {members : List (String × Json)} (h : MembersCanonical members)
    {member : String × Json} (inMembers : member ∈ members) : member.2.IsCanonical := by
  induction members with
  | nil => simp at inMembers
  | cons first rest ih =>
    simp only [MembersCanonical] at h
    rcases List.mem_cons.1 inMembers with rfl | inRest
    · exact h.2.1
    · exact ih h.2.2 inRest

end Json
end DidRegistry

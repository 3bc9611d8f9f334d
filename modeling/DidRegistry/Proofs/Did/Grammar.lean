import DidRegistry.Proofs.Did.Composition
import DidRegistry.Proofs.Url.DomainName

/-!
The grammar of supported identifiers. An address (`Identifier.Address`) is a DID with its network,
perhaps with a resource under it and perhaps with a query; the supported identifiers are the texts
of addresses (`Identifier.isSupported_iff`). None of the marks between the parts is written inside
of them, except in queries, which are last.

Main statement: how the other operations on identifiers read the text of an address
(`Identifier.supported_addresses`). They find its network and its DID, unless a query ends in a
slash: then the text is not taken apart (`Identifier.slashed_query_not_split`).
-/

namespace DidRegistry.Identifier

/-! ### The grammar -/

def IsLetterOrDigit (c : Char) : Prop :=
  ('A' ≤ c ∧ c ≤ 'Z') ∨ ('a' ≤ c ∧ c ≤ 'z') ∨ ('0' ≤ c ∧ c ≤ '9')

def IsHexadecimal (c : Char) : Prop :=
  ('0' ≤ c ∧ c ≤ '9') ∨ ('a' ≤ c ∧ c ≤ 'f') ∨ ('A' ≤ c ∧ c ≤ 'F')

/-- Groups of hexadecimal digits with hyphens between them. -/
def IsUuid (text : String) : Prop :=
  ∃ groups : List String, groups.map String.length = [8, 4, 4, 4, 12] ∧
    (∀ group ∈ groups, ∀ c ∈ group.toList, IsHexadecimal c) ∧ text = "-".intercalate groups

/-- What names a DID on its network. -/
def IsSpecific (text : String) : Prop :=
  (text.length = 21 ∨ text.length = 22) ∧ (∀ c ∈ text.toList, IsLetterOrDigit c) ∨ IsUuid text

/-- A DID with its network, perhaps with the ID of a resource and perhaps with a query. -/
structure Address where
  /-- The network that the DID is kept on. -/
  network : String
  /-- What names the DID on its network. -/
  specific : String
  /-- The ID of a resource under the DID. -/
  resource : Option String
  /-- What follows the question mark. -/
  query : Option String
  network_kept : network = "testnet" ∨ network = "mainnet"
  isSpecific : IsSpecific specific
  isUuid : ∀ uuid, resource = some uuid → IsUuid uuid
  oneLine : ∀ text, query = some text → text ≠ "" ∧ '\n' ∉ text.toList

namespace Address

def did (address : Address) : String := "did:cheqd:" ++ address.network ++ ":" ++ address.specific

/-- How the ID of a resource is written behind a DID. -/
def pathText : Option String → String
  | none => ""
  | some uuid => "/resources/" ++ uuid

/-- How a query is written behind a path. -/
def queryText : Option String → String
  | none => ""
  | some text => "?" ++ text

def text (address : Address) : String :=
  address.did ++ pathText address.resource ++ queryText address.query

end Address

/-! ### Characters -/

theorem isAlphanum_iff_isLetterOrDigit {c : Char} : c.isAlphanum = true ↔ IsLetterOrDigit c :=
  isAlphanum_iff

theorem isHexDigit_iff {c : Char} : isHexDigit c = true ↔ IsHexadecimal c := by
  simp [isHexDigit, IsHexadecimal, Char.isDigit, or_assoc]
  exact Iff.rfl

theorem isAlphanum_of_isHexDigit {c : Char} (digit : isHexDigit c = true) :
    c.isAlphanum = true := by
  rcases isHexDigit_iff.mp digit with figure | lower | upper
  · exact isAlphanum_iff_isLetterOrDigit.mpr (Or.inr (Or.inr figure))
  · have range : 97 ≤ c.toNat ∧ c.toNat ≤ 102 := lower
    exact isAlphanum_iff.mpr (by omega)
  · have range : 65 ≤ c.toNat ∧ c.toNat ≤ 70 := upper
    exact isAlphanum_iff.mpr (by omega)

theorem mem_of_isNetwork {name : List Char} (valid : isNetwork name = true) {c : Char}
    (member : c ∈ name) : c.isAlphanum = true := by
  rw [isNetwork, Bool.or_eq_true, beq_iff_eq, beq_iff_eq] at valid
  have letters : ∀ network ∈ ["testnet".toList, "mainnet".toList],
      network.all Char.isAlphanum = true := by decide
  rcases valid with rfl | rfl
  · exact List.all_eq_true.mp (letters _ (by simp)) c member
  · exact List.all_eq_true.mp (letters _ (by simp)) c member

theorem mem_of_isUuid {text : List Char} (valid : isUuid text = true) {c : Char}
    (member : c ∈ text) : c.isAlphanum = true ∨ c = '-' := by
  rw [isUuid, Bool.and_eq_true] at valid
  have allowed := List.all_eq_true.mp valid.2 c member
  rw [Bool.or_eq_true, beq_iff_eq] at allowed
  exact allowed.imp_left isAlphanum_of_isHexDigit

/-- What names a DID on its network is written in letters, figures and hyphens. -/
theorem mem_of_isMethodSpecificId {text : List Char} (valid : isMethodSpecificId text = true)
    {c : Char} (member : c ∈ text) : c.isAlphanum = true ∨ c = '-' := by
  rw [isMethodSpecificId, Bool.or_eq_true, Bool.and_eq_true] at valid
  rcases valid with ⟨-, alphanum⟩ | uuid
  · exact Or.inl (List.all_eq_true.mp alphanum c member)
  · exact mem_of_isUuid uuid member

/-- A network and a name on it are written in letters, figures, hyphens and colons. -/
theorem mem_of_named {name specific : List Char} (network : isNetwork name = true)
    (valid : isMethodSpecificId specific = true) {c : Char} (member : c ∈ name ++ ':' :: specific) :
    c.isAlphanum = true ∨ c = '-' ∨ c = ':' := by
  rcases List.mem_append.mp member with among | member
  · exact Or.inl (mem_of_isNetwork network among)
  · rcases List.mem_cons.mp member with colon | among
    · exact Or.inr (Or.inr colon)
    · exact (mem_of_isMethodSpecificId valid among).imp_right Or.inl

/-! ### Parts -/

theorem toList_intercalate_hyphen (groups : List String) :
    ("-".intercalate groups).toList = Split.joined '-' (groups.map String.toList) := by
  rw [String.toList_intercalate, Split.joined_eq_intercalate]
  rfl

/-- The groups are what is between the hyphens. -/
theorem IsUuid.of_isUuid {text : String} (valid : isUuid text.toList = true) : IsUuid text := by
  rw [isUuid, Bool.and_eq_true, beq_iff_eq, List.all_eq_true] at valid
  obtain ⟨lengths, allowed⟩ := valid
  refine ⟨(Split.pieces (· == '-') text.toList).map String.ofList, ?_, ?_, ?_⟩
  · rw [← lengths, List.map_map]
    exact List.map_congr_left fun piece _ => String.length_ofList
  · intro group among c member
    obtain ⟨piece, cut, rfl⟩ := List.mem_map.mp among
    rw [String.toList_ofList] at member
    obtain ⟨within, apart⟩ := Split.mem_of_mem_pieces cut member
    have digit := allowed c within
    rw [apart, Bool.or_false] at digit
    exact isHexDigit_iff.mp digit
  · apply String.toList_injective
    rw [toList_intercalate_hyphen, List.map_map]
    simpa using (Split.joined_pieces '-' text.toList).symm

/-- No group has a hyphen, so that the groups are found again. -/
theorem IsUuid.isUuid_eq {text : String} (uuid : IsUuid text) : isUuid text.toList = true := by
  obtain ⟨groups, lengths, digits, rfl⟩ := uuid
  have whole : ∀ piece ∈ groups.map String.toList, '-' ∉ piece := by
    intro piece among hyphen
    obtain ⟨group, member, rfl⟩ := List.mem_map.mp among
    exact absurd (isHexDigit_iff.mpr (digits group member '-' hyphen)) (by decide)
  have nonempty : groups.map String.toList ≠ [] := by
    intro empty
    rw [List.map_eq_nil_iff.mp empty] at lengths
    cases lengths
  rw [isUuid, toList_intercalate_hyphen, Split.pieces_joined nonempty whole, Bool.and_eq_true,
    beq_iff_eq, List.all_eq_true]
  refine ⟨?_, ?_⟩
  · rw [← lengths, List.map_map]
    exact List.map_congr_left fun group _ => String.length_toList
  · intro c member
    rcases Split.mem_joined member with rfl | ⟨piece, among, within⟩
    · rfl
    · obtain ⟨group, member, rfl⟩ := List.mem_map.mp among
      rw [isHexDigit_iff.mpr (digits group member c within), Bool.true_or]

theorem isUuid_iff {text : String} : isUuid text.toList = true ↔ IsUuid text :=
  ⟨IsUuid.of_isUuid, IsUuid.isUuid_eq⟩

theorem isMethodSpecificId_iff {text : String} :
    isMethodSpecificId text.toList = true ↔ IsSpecific text := by
  rw [isMethodSpecificId, IsSpecific, Bool.or_eq_true, Bool.and_eq_true, Bool.or_eq_true,
    beq_iff_eq, beq_iff_eq, List.all_eq_true, isUuid_iff, String.length_toList]
  simp only [isAlphanum_iff_isLetterOrDigit]

theorem isNetwork_iff {name : String} :
    isNetwork name.toList = true ↔ name = "testnet" ∨ name = "mainnet" := by
  rw [isNetwork, Bool.or_eq_true, beq_iff_eq, beq_iff_eq, String.toList_inj, String.toList_inj]

theorem isResourcePath_iff {path : List Char} : isResourcePath path = true ↔
    ∃ resource, path = (Address.pathText resource).toList ∧
      ∀ uuid, resource = some uuid → IsUuid uuid := by
  rw [isResourcePath, Bool.or_eq_true, List.isEmpty_iff, Bool.and_eq_true,
    List.isPrefixOf_iff_prefix]
  constructor
  · rintro (rfl | ⟨⟨uuid, rfl⟩, valid⟩)
    · exact ⟨none, rfl, nofun⟩
    · refine ⟨some (String.ofList uuid), ?_, ?_⟩
      · simp [Address.pathText, resourcesPath]
      · rintro _ ⟨⟩
        rw [← isUuid_iff, String.toList_ofList]
        rwa [← String.length_toList, List.drop_left] at valid
  · rintro ⟨none | uuid, rfl, valid⟩
    · exact Or.inl rfl
    · have text : (Address.pathText (some uuid)).toList = resourcesPath.toList ++ uuid.toList := by
        simp [Address.pathText, resourcesPath]
      rw [text, ← String.length_toList, List.drop_left]
      exact Or.inr ⟨⟨_, rfl⟩, isUuid_iff.mpr (valid uuid rfl)⟩

theorem head_of_isResourcePath {path : List Char} (valid : isResourcePath path = true) (c : Char)
    (begins : path.head? = some c) : c = '/' := by
  obtain ⟨none | uuid, rfl, -⟩ := isResourcePath_iff.mp valid
  · cases begins
  · have slash : (Address.pathText (some uuid)).toList.head? = some '/' := by
      simp [Address.pathText]
    exact Option.some.inj (begins.symm.trans slash)

/-- No path has a question mark. -/
theorem not_mem_of_isResourcePath {path : List Char} (valid : isResourcePath path = true) :
    '?' ∉ path := by
  obtain ⟨none | uuid, rfl, uuids⟩ := isResourcePath_iff.mp valid
  · exact List.not_mem_nil
  · intro member
    have among : '?' ∈ uuid.toList := by
      simpa [Address.pathText] using member
    exact absurd (mem_of_isUuid (uuids uuid rfl).isUuid_eq among) (by decide)

theorem isQuery_iff {query : List Char} : isQuery query = true ↔
    ∃ asked, query = (Address.queryText asked).toList ∧
      ∀ text, asked = some text → text ≠ "" ∧ '\n' ∉ text.toList := by
  constructor
  · intro valid
    match query, valid with
    | [], _ => exact ⟨none, rfl, nofun⟩
    | mark :: rest, valid =>
        simp only [isQuery, Bool.and_eq_true, beq_iff_eq, Bool.not_eq_true',
          List.isEmpty_eq_false_iff, List.all_eq_true, bne_iff_ne] at valid
        obtain ⟨⟨rfl, nonempty⟩, line⟩ := valid
        refine ⟨some (String.ofList rest), by simp [Address.queryText], ?_⟩
        rintro _ ⟨⟩
        refine ⟨by simpa using nonempty, ?_⟩
        rw [String.toList_ofList]
        exact fun member => line _ member rfl
  · rintro ⟨none | text, rfl, valid⟩
    · rfl
    · obtain ⟨nonempty, line⟩ := valid text rfl
      have written : (Address.queryText (some text)).toList = '?' :: text.toList := by
        simp [Address.queryText]
      have broken : ∀ c ∈ text.toList, c ≠ '\n' := fun c member same => line (same ▸ member)
      rw [written]
      simpa [isQuery, nonempty] using broken

theorem head_of_isQuery {query : List Char} (valid : isQuery query = true) (c : Char)
    (begins : query.head? = some c) : c = '?' := by
  obtain ⟨none | text, rfl, -⟩ := isQuery_iff.mp valid
  · cases begins
  · have mark : (Address.queryText (some text)).toList.head? = some '?' := by
      simp [Address.queryText]
    exact Option.some.inj (begins.symm.trans mark)

/-! ### Supported identifiers -/

/-- A supported identifier has a network and a name, and perhaps a path and a query. -/
theorem exists_parts_of_isSupported {id : String} (supported : isSupported id = true) :
    ∃ name specific path query,
      id.toList = methodStart.toList ++ (name ++ ':' :: specific ++ path ++ query) ∧
      isNetwork name = true ∧ isMethodSpecificId specific = true ∧ isResourcePath path = true ∧
      isQuery query = true := by
  unfold isSupported at supported
  cases begins : methodStart.toList.isPrefixOf? id.toList with
  | none =>
      rw [begins] at supported
      cases supported
  | some rest =>
      have whole : methodStart.toList ++ rest = id.toList :=
        List.append_eq_of_isPrefixOf?_eq_some begins
      have asked := List.takeWhile_append_dropWhile (p := (· != '?')) (l := rest)
      have pathed := List.takeWhile_append_dropWhile (p := (· != '/'))
        (l := rest.takeWhile (· != '?'))
      have named := List.takeWhile_append_dropWhile (p := (· != ':'))
        (l := (rest.takeWhile (· != '?')).takeWhile (· != '/'))
      simp only [begins, List.span_eq_takeWhile_dropWhile] at supported
      cases behind : ((rest.takeWhile (· != '?')).takeWhile (· != '/')).dropWhile (· != ':') with
      | nil =>
          rw [behind] at supported
          cases supported
      | cons mark specific =>
          obtain rfl := head_dropWhile behind
          simp only [behind, Bool.and_eq_true] at supported
          rw [behind] at named
          obtain ⟨⟨⟨network, valid⟩, resource⟩, query⟩ := supported
          exact ⟨_, specific, _, _, by rw [named, pathed, asked, whole], network, valid, resource,
            query⟩

/-- The parts of an identifier are found again: no mark between them is written in those before. -/
theorem isSupported_of_parts {id : String} {name specific path query : List Char}
    (whole : id.toList = methodStart.toList ++ (name ++ ':' :: specific ++ path ++ query))
    (network : isNetwork name = true) (valid : isMethodSpecificId specific = true)
    (resource : isResourcePath path = true) (asked : isQuery query = true) :
    isSupported id = true := by
  have begins : methodStart.toList.isPrefixOf? id.toList =
      some (name ++ ':' :: specific ++ path ++ query) :=
    List.isPrefixOf?_eq_some_iff_append_eq.mpr whole.symm
  have delimited : ':' ∉ name := by
    intro member
    exact absurd (mem_of_isNetwork network member) (by decide)
  have slashless : '/' ∉ name ++ ':' :: specific := by
    intro member
    exact absurd (mem_of_named network valid member) (by decide)
  have unasked : '?' ∉ name ++ ':' :: specific ++ path := by
    intro member
    rcases List.mem_append.mp member with among | among
    · exact absurd (mem_of_named network valid among) (by decide)
    · exact not_mem_of_isResourcePath resource among
  have named := cut_append name (':' :: specific) delimited (by simp)
  have pathed := cut_append (name ++ ':' :: specific) path slashless
    (head_of_isResourcePath resource)
  have cut := cut_append (name ++ ':' :: specific ++ path) query unasked (head_of_isQuery asked)
  unfold isSupported
  simp only [begins, cut, pathed, List.span_eq_takeWhile_dropWhile, named, network, valid,
    resource, asked, Bool.and_self]

namespace Address

theorem toList_text (address : Address) : address.text.toList =
    methodStart.toList ++ (address.network.toList ++ ':' :: address.specific.toList ++
      (pathText address.resource).toList ++ (queryText address.query).toList) := by
  simp [text, did, methodStart]

theorem isNetwork_eq (address : Address) : isNetwork address.network.toList = true :=
  isNetwork_iff.mpr address.network_kept

theorem isMethodSpecificId_eq (address : Address) :
    isMethodSpecificId address.specific.toList = true :=
  isMethodSpecificId_iff.mpr address.isSpecific

end Address

/-- The supported identifiers are the texts of addresses. -/
theorem isSupported_iff {id : String} :
    isSupported id = true ↔ ∃ address : Address, address.text = id := by
  constructor
  · intro supported
    obtain ⟨name, specific, path, query, whole, network, valid, published, asked⟩ :=
      exists_parts_of_isSupported supported
    obtain ⟨resource, rfl, uuids⟩ := isResourcePath_iff.mp published
    obtain ⟨query, rfl, lines⟩ := isQuery_iff.mp asked
    refine ⟨⟨String.ofList name, String.ofList specific, resource, query, isNetwork_iff.mp ?_,
      isMethodSpecificId_iff.mp ?_, uuids, lines⟩, ?_⟩
    · rwa [String.toList_ofList]
    · rwa [String.toList_ofList]
    · apply String.toList_injective
      simp only [Address.toList_text, String.toList_ofList, whole]
  · rintro ⟨address, rfl⟩
    exact isSupported_of_parts address.toList_text address.isNetwork_eq
      address.isMethodSpecificId_eq (isResourcePath_iff.mpr ⟨_, rfl, address.isUuid⟩)
      (isQuery_iff.mpr ⟨_, rfl, address.oneLine⟩)

/-! ### Reading addresses -/

/-- What is behind the last slash is empty if that slash is the end. -/
theorem resourcePart_append_eq_empty_iff (front : String) {back : String} (nonempty : back ≠ "") :
    resourcePart (front ++ back) = "" ↔ ∃ rest, back = rest ++ "/" := by
  obtain ⟨start, last, written⟩ : ∃ start last, back.toList = start ++ [last] := by
    rcases List.eq_nil_or_concat' back.toList with empty | ends
    · exact absurd (String.toList_eq_nil_iff.mp empty) nonempty
    · exact ends
  have turned : (front ++ back).toList.reverse = last :: (front.toList ++ start).reverse := by
    simp [written]
  have ends : (∃ rest, back = rest ++ "/") ↔ last = '/' := by
    constructor
    · rintro ⟨rest, rfl⟩
      have same : rest.toList ++ ['/'] = start ++ [last] := by simpa using written
      simpa using (List.append_inj' same rfl).2.symm
    · rintro rfl
      exact ⟨String.ofList start, String.toList_injective (by simp [written])⟩
  rw [ends, resourcePart, turned, List.takeWhile_cons]
  by_cases same : last = '/'
  · simp [same]
  · simp [same]

namespace Address

variable {address : Address} {uuid : String}

theorem not_mem_did (address : Address) : '/' ∉ address.did.toList := by
  have whole : address.did.toList =
      methodStart.toList ++ (address.network.toList ++ ':' :: address.specific.toList) := by
    simp [did, methodStart]
  rw [whole, List.mem_append, not_or]
  refine ⟨by decide, ?_⟩
  intro member
  exact absurd (mem_of_named address.isNetwork_eq address.isMethodSpecificId_eq member) (by decide)

theorem did_ne_empty (address : Address) : address.did ≠ "" := by
  simp [did]

theorem network_text (address : Address) :
    Identifier.network address.text = .ok address.network := by
  have whole : address.text = methodStart ++ address.network ++ ":" ++
      (address.specific ++ pathText address.resource ++ queryText address.query) := by
    simp only [text, did, methodStart, String.append_assoc]
  have letters : ∀ c ∈ address.network.toList, c.isAlphanum = true := fun c =>
    mem_of_isNetwork address.isNetwork_eq
  rw [whole]
  apply network_append
  · intro member
    exact absurd (letters ':' member) (by decide)
  · rcases address.network_kept with same | same
    · simp [same]
    · simp [same]

/-- The first slash of an address is the one behind its DID. -/
theorem text_of_resource (published : address.resource = some uuid) : address.text =
    address.did ++ "/" ++ ("resources" ++ "/" ++ (uuid ++ queryText address.query)) := by
  apply String.toList_injective
  simp [text, published, pathText]

theorem split_text (published : address.resource = some uuid) :
    split address.text =
      if resourcePart (uuid ++ queryText address.query) = "" then
        .error (.invalidIdentifier address.text)
      else .ok (address.did, resourcePart (uuid ++ queryText address.query)) := by
  have issuer := issuerPart_of_not_mem address.not_mem_did
  rw [text_of_resource published, split_append, resourcePart_append, issuer]
  simp only [address.did_ne_empty, false_or]

theorem not_mem_resource (published : address.resource = some uuid) : '/' ∉ uuid.toList := by
  intro member
  exact absurd (mem_of_isUuid (address.isUuid uuid published).isUuid_eq member) (by decide)

theorem resource_ne_empty (published : address.resource = some uuid) : uuid ≠ "" := by
  rintro rfl
  exact absurd (address.isUuid "" published).isUuid_eq (by decide)

/-- Without a query, a DID and a resource are taken apart and put together again. -/
theorem split_unasked (published : address.resource = some uuid) (unasked : address.query = none) :
    split address.text = .ok (address.did, uuid) ∧ compose address.did uuid = address.text := by
  have behind : resourcePart (uuid ++ queryText address.query) = uuid := by
    rw [unasked, queryText, String.append_empty,
      resourcePart_of_not_mem (not_mem_resource published)]
  refine ⟨?_, ?_⟩
  · rw [split_text published, behind, if_neg (resource_ne_empty published)]
  · rw [text_of_resource published, unasked, queryText, String.append_empty, compose_eq]

/-- Nothing is behind the last slash of an address if a query ends in it. -/
theorem resourcePart_eq_empty_iff (published : address.resource = some uuid) :
    resourcePart (uuid ++ queryText address.query) = "" ↔
      ∃ front, address.query = some (front ++ "/") := by
  cases asked : address.query with
  | none =>
      rw [queryText, String.append_empty, resourcePart_of_not_mem (not_mem_resource published)]
      simp [resource_ne_empty published]
  | some query =>
      have nonempty := (address.oneLine query asked).1
      rw [queryText, ← String.append_assoc, resourcePart_append_eq_empty_iff _ nonempty]
      simp

end Address

/-- The supported identifiers are the texts of addresses. Their networks are read from them. An
address with a resource is taken apart into its DID and what is behind its last slash, unless a
query ends in a slash; without a query, the DID and the UUID are put together again. -/
theorem supported_addresses :
    (∀ id, isSupported id = true ↔ ∃ address : Address, address.text = id) ∧
    ∀ address : Address, network address.text = .ok address.network ∧
      ∀ uuid, address.resource = some uuid →
        ((∀ front, address.query ≠ some (front ++ "/")) →
          ∃ resource, split address.text = .ok (address.did, resource)) ∧
        (∀ front, address.query = some (front ++ "/") →
          split address.text = .error (.invalidIdentifier address.text)) ∧
        (address.query = none →
          split address.text = .ok (address.did, uuid) ∧
            compose address.did uuid = address.text) := by
  refine ⟨fun _ => isSupported_iff, ?_⟩
  intro address
  refine ⟨address.network_text, ?_⟩
  intro uuid published
  have slashed := Address.resourcePart_eq_empty_iff published
  refine ⟨?_, ?_, Address.split_unasked published⟩
  · intro unslashed
    have named : resourcePart (uuid ++ Address.queryText address.query) ≠ "" := by
      intro empty
      obtain ⟨front, asked⟩ := slashed.mp empty
      exact unslashed front asked
    exact ⟨_, by rw [Address.split_text published, if_neg named]⟩
  · intro front asked
    rw [Address.split_text published, if_pos (slashed.mpr ⟨front, asked⟩)]

def published : Address where
  network := "testnet"
  specific := "zF7rhDBfUt9d1gJPjx7s1J"
  resource := some "e788d345-dd0c-427a-a74b-27faf1e608cd"
  query := none
  network_kept := Or.inl rfl
  isSpecific := isMethodSpecificId_iff.mp (by decide +kernel)
  isUuid := by
    rintro _ ⟨⟩
    exact isUuid_iff.mp (by decide +kernel)
  oneLine := nofun

def Address.asking (address : Address) (query : String)
    (oneLine : query ≠ "" ∧ '\n' ∉ query.toList) : Address :=
  { address with
    query := some query
    oneLine := by
      rintro _ ⟨⟩
      exact oneLine }

/-- The address of a resource: without a query, with a slash inside of the query, and with a slash
at the end of it. -/
theorem supported_addresses_published :
    let inside := published.asking "a/b" (by decide)
    let behind := published.asking "a/" (by decide)
    (isSupported published.text = true ∧ network published.text = .ok "testnet" ∧
      split published.text = .ok (published.did, "e788d345-dd0c-427a-a74b-27faf1e608cd") ∧
      compose published.did "e788d345-dd0c-427a-a74b-27faf1e608cd" = published.text) ∧
    (∃ resource, split inside.text = .ok (published.did, resource)) ∧
    split behind.text = .error (.invalidIdentifier behind.text) := by
  intro inside behind
  obtain ⟨accepted, read⟩ := supported_addresses
  obtain ⟨network, parts⟩ := read published
  obtain ⟨apart, whole⟩ := (parts _ rfl).2.2 rfl
  refine ⟨⟨(accepted _).mpr ⟨published, rfl⟩, network, apart, whole⟩, ?_, ?_⟩
  · refine ((read inside).2 _ rfl).1 ?_
    intro front same
    have ends : "a/b".toList = front.toList ++ ['/'] := by
      rw [Option.some.inj same, String.toList_append]
      rfl
    have last := congrArg List.getLast? ends
    rw [List.getLast?_concat] at last
    exact absurd last (by decide)
  · exact ((read behind).2 _ rfl).2.1 "a" rfl

/-- Not every address with a resource is taken apart: a query may end in a slash. -/
theorem slashed_query_not_split :
    ¬ ∀ (address : Address) (uuid : String), address.resource = some uuid →
      ∃ resource, split address.text = .ok (address.did, resource) := by
  intro apart
  have ends : (published.asking "a/" (by decide)).query = some ("a" ++ "/") := rfl
  have kept : (published.asking "a/" (by decide)).resource =
      some "e788d345-dd0c-427a-a74b-27faf1e608cd" := rfl
  obtain ⟨resource, cut⟩ := apart _ _ kept
  rw [Address.split_text kept, if_pos ((Address.resourcePart_eq_empty_iff kept).mpr ⟨"a", ends⟩)]
    at cut
  cases cut

end DidRegistry.Identifier

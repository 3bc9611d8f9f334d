import DidRegistry.Proofs.Did.Identifier

/-!
Which texts can be taken apart as identifiers, and which can be put together again. Taking apart
succeeds for texts that are cut by slashes into an issuer, a middle and a resource ID
(`Identifier.IsCut`), and it forgets the middle. So the two operations undo each other on issuers
and resource IDs without slashes, and on the identifiers whose middle is the one that putting
together writes.

Main statement: `Identifier.composition_laws`. It also has the rule for networks: they are read from
the beginning of a DID, whatever follows.
-/

namespace DidRegistry.Identifier

variable {id issuer middle resource did name : String}

/-! ### Cuts -/

/-- A text is cut by its first and its last slash: into an issuer and a resource ID, neither of them
empty, and a middle, which ends in the last slash unless the two are one. -/
structure IsCut (id issuer middle resource : String) : Prop where
  whole : id = issuer ++ "/" ++ middle ++ resource
  ended : middle = "" ∨ ∃ front, middle = front ++ "/"
  issuer_ne_empty : issuer ≠ ""
  resource_ne_empty : resource ≠ ""
  not_mem_issuer : '/' ∉ issuer.toList
  not_mem_resource : '/' ∉ resource.toList

theorem IsCut.split_eq (cut : IsCut id issuer middle resource) :
    split id = .ok (issuer, resource) := by
  have first := issuerPart_of_not_mem cut.not_mem_issuer
  have last := resourcePart_of_not_mem cut.not_mem_resource
  have parts : ¬ (issuer = "" ∨ resource = "") :=
    not_or.mpr ⟨cut.issuer_ne_empty, cut.resource_ne_empty⟩
  rcases cut.ended with same | ⟨front, same⟩
  · rw [cut.whole, same, String.append_empty, split_append, first, last, if_neg parts]
  · have text : issuer ++ "/" ++ (front ++ "/") ++ resource =
        issuer ++ "/" ++ (front ++ "/" ++ resource) := by
      simp only [String.append_assoc]
    rw [cut.whole, same, text, split_append, resourcePart_append, first, last, if_neg parts]

/-- In front of the resource ID there is nothing, or a slash. -/
theorem exists_append_resourcePart (text : String) :
    ∃ middle, text = middle ++ resourcePart text ∧
      (middle = "" ∨ ∃ front, middle = front ++ "/") := by
  by_cases present : '/' ∈ text.toList
  · obtain ⟨front, parts⟩ := exists_eq_append_resourcePart present
    refine ⟨String.ofList front ++ "/", ?_, Or.inr ⟨_, rfl⟩⟩
    apply String.toList_injective
    rw [parts]
    simp
  · refine ⟨"", ?_, Or.inl rfl⟩
    rw [resourcePart_of_not_mem present, String.empty_append]

theorem exists_isCut (parts : split id = .ok (issuer, resource)) :
    ∃ middle, IsCut id issuer middle resource := by
  have present : '/' ∈ id.toList := by
    by_contra absent
    rw [split_of_not_mem absent] at parts
    cases parts
  obtain ⟨before, behind, text, unslashed⟩ := List.eq_append_cons_of_mem present
  have whole : id = String.ofList before ++ "/" ++ String.ofList behind := by
    apply String.toList_injective
    rw [text]
    simp
  have first : issuerPart (String.ofList before) = String.ofList before :=
    issuerPart_of_not_mem (by rwa [String.toList_ofList])
  rw [whole, split_append, first] at parts
  split at parts
  · cases parts
  · rename_i named
    cases parts
    obtain ⟨middle, tail, ended⟩ := exists_append_resourcePart (String.ofList behind)
    refine ⟨middle, ?_, ended, fun empty => named (Or.inl empty),
      fun empty => named (Or.inr empty), by rwa [String.toList_ofList], not_mem_resourcePart _⟩
    calc id = String.ofList before ++ "/" ++ String.ofList behind := whole
      _ = String.ofList before ++ "/" ++ (middle ++ resourcePart (String.ofList behind)) := by
        rw [← tail]
      _ = String.ofList before ++ "/" ++ middle ++ resourcePart (String.ofList behind) :=
        String.append_assoc.symm

theorem split_eq_ok_iff :
    split id = .ok (issuer, resource) ↔ ∃ middle, IsCut id issuer middle resource :=
  ⟨exists_isCut, fun ⟨_, cut⟩ => cut.split_eq⟩

/-! ### Putting together -/

theorem split_compose_eq_ok_iff : split (compose issuer resource) = .ok (issuer, resource) ↔
    issuer ≠ "" ∧ resource ≠ "" ∧ '/' ∉ issuer.toList ∧ '/' ∉ resource.toList := by
  constructor
  · intro parts
    obtain ⟨_, cut⟩ := exists_isCut parts
    exact ⟨cut.issuer_ne_empty, cut.resource_ne_empty, cut.not_mem_issuer, cut.not_mem_resource⟩
  · rintro ⟨named, ends, issuerWhole, resourceWhole⟩
    exact split_compose_of_not_mem named ends issuerWhole resourceWhole

/-- Putting together writes one middle, and no other. -/
theorem IsCut.compose_eq_iff (cut : IsCut id issuer middle resource) :
    compose issuer resource = id ↔ middle = "resources/" := by
  rw [cut.whole, compose_eq, ← String.toList_inj, ← String.toList_inj]
  simp only [String.toList_append, List.append_assoc, List.append_cancel_left_eq]
  rw [← List.append_assoc, List.append_cancel_right_eq, eq_comm]
  rfl

/-! ### Networks -/

theorem network_append (delimited : ':' ∉ name.toList) (nonempty : name ≠ "") (rest : String) :
    network (methodStart ++ name ++ ":" ++ rest) = .ok name := by
  have text : (methodStart ++ name ++ ":" ++ rest).toList =
      methodStart.toList ++ (name.toList ++ ':' :: rest.toList) := by
    simp
  have named := (cut_append name.toList (':' :: rest.toList) delimited (by simp)).1
  have begins : methodStart.toList.isPrefixOf? (methodStart ++ name ++ ":" ++ rest).toList =
      some (name.toList ++ ':' :: rest.toList) :=
    List.isPrefixOf?_eq_some_iff_append_eq.mpr text.symm
  unfold network
  simp only [begins, named]
  rw [if_neg (by simp [nonempty]), String.ofList_toList]

theorem network_eq_ok_iff : network did = .ok name ↔
    ∃ rest, did = methodStart ++ name ++ ":" ++ rest ∧ name ≠ "" ∧ ':' ∉ name.toList := by
  refine ⟨exists_of_network, ?_⟩
  rintro ⟨rest, rfl, nonempty, delimited⟩
  exact network_append delimited nonempty rest

/-- What follows the network does not matter. -/
theorem network_append_suffix (named : network did = .ok name) (suffix : String) :
    network (did ++ suffix) = .ok name := by
  obtain ⟨rest, rfl, nonempty, delimited⟩ := exists_of_network named
  rw [String.append_assoc]
  exact network_append delimited nonempty (rest ++ suffix)

/-! ### The laws -/

/-- A text is taken apart exactly if it is cut into an issuer, a middle and a resource ID. What is
put together is taken apart into the same two exactly if neither is empty or has a slash; what has
been taken apart is put together again exactly if the middle is that of a resource's identifier. The
network of a DID is the text without colons, and not empty, between the method and a colon; it is
that of every continuation of the DID, and so of the identifiers of its resources. -/
theorem composition_laws :
    (∀ id issuer resource,
      split id = .ok (issuer, resource) ↔ ∃ middle, IsCut id issuer middle resource) ∧
    (∀ issuer resource, split (compose issuer resource) = .ok (issuer, resource) ↔
      issuer ≠ "" ∧ resource ≠ "" ∧ '/' ∉ issuer.toList ∧ '/' ∉ resource.toList) ∧
    (∀ id issuer middle resource, IsCut id issuer middle resource →
      (compose issuer resource = id ↔ middle = "resources/")) ∧
    (∀ did name, network did = .ok name ↔
      ∃ rest, did = "did:cheqd:" ++ name ++ ":" ++ rest ∧ name ≠ "" ∧ ':' ∉ name.toList) ∧
    (∀ did name, network did = .ok name →
      (∀ suffix, network (did ++ suffix) = .ok name) ∧
        ∀ resource, network (compose did resource) = .ok name) := by
  refine ⟨fun _ _ _ => split_eq_ok_iff, fun _ _ => split_compose_eq_ok_iff,
    fun _ _ _ _ => IsCut.compose_eq_iff, fun _ _ => network_eq_ok_iff, ?_⟩
  intro did name named
  refine ⟨network_append_suffix named, ?_⟩
  intro resource
  rw [compose_eq, String.append_assoc]
  exact network_append_suffix named _

/-- Two slashes in a row are the middle of an identifier that is not put together again; a resource
ID with a colon leaves the network as it is. -/
theorem composition_laws_doubled :
    split "a//b" = .ok ("a", "b") ∧ compose "a" "b" ≠ "a//b" ∧
      network "did:cheqd:testnet:a" = .ok "testnet" ∧
      network (compose "did:cheqd:testnet:a" "b:c") = .ok "testnet" := by
  obtain ⟨cuts, -, composed, -, continued⟩ := composition_laws
  have cut : IsCut "a//b" "a" "/" "b" :=
    ⟨rfl, Or.inr ⟨"", rfl⟩, by decide, by decide, by decide, by decide⟩
  have named : network "did:cheqd:testnet:a" = .ok "testnet" := by decide +kernel
  refine ⟨(cuts _ _ _).mpr ⟨"/", cut⟩, ?_, named, (continued _ _ named).2 "b:c"⟩
  rw [ne_eq, composed _ _ _ _ cut]
  decide

end DidRegistry.Identifier

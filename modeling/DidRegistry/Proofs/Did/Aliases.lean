import DidRegistry.Proofs.Did.Guard
import DidRegistry.Proofs.Url.Beneath

/-!
Whether the DID that is looked at is the DID that is changed. The resolver is asked about a DID by
the path and the query that its text leaves behind the base URL, and the change names the text
itself. So two DIDs are looked at by one request exactly if they leave the same behind the base URL
(`Did.Change.told_apart`): DIDs in plain text never do, but a DID and the same DID with a fragment do
(`Did.Change.alias_by_fragment`).
-/

namespace DidRegistry

/-- A resolver whose base URL has neither query nor fragment is asked about an identifier beneath the
path of this URL, if it is asked at all. -/
theorem Resolver.identifierUrl_beneath {settings : Settings} {services : Services}
    (usable : Services.ofSettings settings = .ok services)
    (web : services.resolver.isWeb = true) (query : services.resolver.query = none)
    (fragment : services.resolver.fragment = none) :
    ∃ (above : List String) (authority : Except UrlError Authority),
      services.resolver.path = .segments (above ++ [""]) ∧
      ∀ id url, identifierUrl services.resolver id = .ok url ↔
        ∃ shown, authority = .ok shown ∧
          url = Url.beneath services.resolver.scheme shown above id := by
  have read := Settings.parse_of_baseUrl (Services.resolver_of_settings usable)
  obtain ⟨above, text, path, continues⟩ :=
    Url.parse_beneath read web query fragment (Settings.slashEnded_toList _)
  refine ⟨above, (Url.parseAuthority services.resolver.scheme true false text).map Prod.fst,
    path, ?_⟩
  intro id url
  rw [identifierUrl, continues id]
  cases Url.parseAuthority services.resolver.scheme true false text with
  | error problem => simp [Except.map]
  | ok found => simp [Except.map, eq_comm]

namespace Did.Change

variable {settings : Settings} {services : Services} {did : String}

/-- A change asks about its DID once, and about nothing else. -/
theorem inquiries_eq {change : Change} {exchanges : List Exchange} {url : Url}
    {result : Except Error DidResult}
    (usable : Services.ofSettings settings = .ok services)
    (registrarWeb : services.registrar.isWeb = true)
    (found : Resolver.identifierUrl services.resolver did = .ok url) (web : url.isWeb = true)
    (trace : (change.program services did).Traces exchanges result) :
    inquiries exchanges = [Resolver.inquiry url Resolver.resolutionForm] := by
  obtain ⟨delivery, rest, rfl, ends, guards⟩ :=
    begins_with_inquiry usable registrarWeb found web trace
  have others : inquiries rest = [] := by
    rcases ends with rfl | ⟨reply, rfl⟩
    · rfl
    · exact (guards reply rfl).once
  exact congrArg (_ :: ·) others

/-- A change that is submitted has asked about its DID beneath the path of the base URL. -/
theorem inquiries_of_submits {σ : Type} {change : Change} {surroundings : Surroundings σ}
    {state : σ} {above : List String} {authority : Except UrlError Authority}
    (usable : Services.ofSettings settings = .ok services)
    (registrarWeb : services.registrar.isWeb = true)
    (resolverWeb : services.resolver.isWeb = true)
    (identified : ∀ id url, Resolver.identifierUrl services.resolver id = .ok url ↔
      ∃ shown, authority = .ok shown ∧
        url = Url.beneath services.resolver.scheme shown above id)
    (submits : Submits ((change.program services did).run surroundings state).exchanges) :
    ∃ shown, authority = .ok shown ∧
      inquiries ((change.program services did).run surroundings state).exchanges =
        [Resolver.inquiry (Url.beneath services.resolver.scheme shown above did)
          Resolver.resolutionForm] := by
  have trace := Program.run_traces surroundings (change.program services did) state
  cases found : Resolver.identifierUrl services.resolver did with
  | error error =>
      obtain ⟨exchange, member, -⟩ := submits
      rw [(traces_of_unidentified found trace).1] at member
      cases member
  | ok url =>
      obtain ⟨shown, read, rfl⟩ := (identified did url).mp found
      exact ⟨shown, read, inquiries_eq usable registrarWeb found resolverWeb trace⟩

/-- Of two changes that are submitted, each has asked about its DID once. They have asked by the same
request exactly if their DIDs leave the same behind the base URL, which plain texts that are unequal
do not. -/
theorem told_apart {σ τ : Type} (usable : Services.ofSettings settings = .ok services)
    (registrarWeb : services.registrar.isWeb = true)
    (resolverWeb : services.resolver.isWeb = true)
    (query : services.resolver.query = none) (fragment : services.resolver.fragment = none)
    (did other : String) (change changeOther : Change)
    (surroundings : Surroundings σ) (state : σ)
    (surroundingsOther : Surroundings τ) (stateOther : τ)
    (submits : Submits ((change.program services did).run surroundings state).exchanges)
    (submitsOther : Submits
      ((changeOther.program services other).run surroundingsOther stateOther).exchanges) :
    ∃ above url urlOther, services.resolver.path = .segments (above ++ [""]) ∧
      inquiries ((change.program services did).run surroundings state).exchanges =
        [Resolver.inquiry url Resolver.resolutionForm] ∧
      inquiries ((changeOther.program services other).run surroundingsOther stateOther).exchanges =
        [Resolver.inquiry urlOther Resolver.resolutionForm] ∧
      (url.requested = urlOther.requested ↔ Url.seen above did = Url.seen above other) ∧
      (did ≠ other → Url.Plain did → Url.Plain other → url.requested ≠ urlOther.requested) := by
  obtain ⟨above, authority, path, identified⟩ :=
    Resolver.identifierUrl_beneath usable resolverWeb query fragment
  obtain ⟨shown, read, inquired⟩ :=
    inquiries_of_submits usable registrarWeb resolverWeb identified submits
  obtain ⟨_, again, inquiredOther⟩ :=
    inquiries_of_submits usable registrarWeb resolverWeb identified submitsOther
  cases read.symm.trans again
  refine ⟨above, _, _, path, inquired, inquiredOther, Url.requested_beneath_eq_iff, ?_⟩
  intro distinct plain plainOther same
  exact distinct (Url.seen_injective plain plainOther (Url.requested_beneath_eq_iff.mp same))

/-! ### Changes of active DIDs -/

/-- A change of a DID that is reported as active is submitted. -/
theorem submits_of_active {change : Change} {url : Url}
    (found : Resolver.identifierUrl Services.standard.resolver did = .ok url)
    (web : url.isWeb = true) :
    Submits ((change.program .standard did).run (.resolving active) ()).exchanges := by
  have trace := Program.run_traces (.resolving active) (change.program .standard did) ()
  obtain ⟨delivery, rest, made, -, guards⟩ :=
    begins_with_inquiry Services.ofSettings_standard rfl found web trace
  have first : (⟨.fetch (Resolver.inquiry url Resolver.resolutionForm), delivery⟩ : Exchange) ∈
      ((change.program .standard did).run (.resolving active) ()).exchanges := by
    rw [made]
    exact List.mem_cons_self ..
  cases eq_reply_of_resolving first rfl
  obtain ⟨exchange, member, sent⟩ := (guards active rfl).submits.mpr allows_active
  exact ⟨exchange, made ▸ List.mem_cons_of_mem _ member, sent⟩

theorem inquiries_of_active {change : Change} {url : Url}
    (found : Resolver.identifierUrl Services.standard.resolver did = .ok url)
    (web : url.isWeb = true) :
    inquiries ((change.program .standard did).run (.resolving active) ()).exchanges =
      [Resolver.inquiry url Resolver.resolutionForm] :=
  inquiries_eq Services.ofSettings_standard rfl found web (Program.run_traces _ _ _)

/-- Where the resolver of the standard settings is asked about an identifier. -/
def asked (segment : String) (fragment : Option String) : Url where
  scheme := "http"
  authority := some ⟨"", none, .name "localhost", some 8080⟩
  path := .segments ["1.0", "identifiers", segment]
  query := none
  fragment

theorem identifierUrl_first : Resolver.identifierUrl Services.standard.resolver
    "did:cheqd:testnet:a" = .ok (asked "did:cheqd:testnet:a" none) := by
  decide +kernel

theorem identifierUrl_second : Resolver.identifierUrl Services.standard.resolver
    "did:cheqd:testnet:b" = .ok (asked "did:cheqd:testnet:b" none) := by
  decide +kernel

theorem identifierUrl_fragment : Resolver.identifierUrl Services.standard.resolver
    "did:cheqd:testnet:a#b" = .ok (asked "did:cheqd:testnet:a" (some "b")) := by
  decide +kernel

/-- Two DIDs in plain text, both deactivated, have been looked at by different requests. -/
theorem told_apart_plain :
    Services.ofSettings .standard = .ok .standard ∧ Services.standard.registrar.isWeb = true ∧
      Services.standard.resolver.isWeb = true ∧ Services.standard.resolver.query = none ∧
      Services.standard.resolver.fragment = none ∧
      Submits ((Change.deactivate.program .standard "did:cheqd:testnet:a").run
        (.resolving active) ()).exchanges ∧
      Submits ((Change.deactivate.program .standard "did:cheqd:testnet:b").run
        (.resolving active) ()).exchanges ∧
      ∃ url urlOther,
        inquiries ((Change.deactivate.program .standard "did:cheqd:testnet:a").run
          (.resolving active) ()).exchanges = [Resolver.inquiry url Resolver.resolutionForm] ∧
        inquiries ((Change.deactivate.program .standard "did:cheqd:testnet:b").run
          (.resolving active) ()).exchanges =
            [Resolver.inquiry urlOther Resolver.resolutionForm] ∧
        url.requested ≠ urlOther.requested := by
  have submits : Submits ((Change.deactivate.program .standard "did:cheqd:testnet:a").run
      (.resolving active) ()).exchanges := submits_of_active identifierUrl_first rfl
  have submitsOther : Submits ((Change.deactivate.program .standard "did:cheqd:testnet:b").run
      (.resolving active) ()).exchanges := submits_of_active identifierUrl_second rfl
  refine ⟨Services.ofSettings_standard, rfl, rfl, rfl, rfl, submits, submitsOther, ?_⟩
  have plain : Url.Plain "did:cheqd:testnet:a" := by
    constructor <;> decide +kernel
  have plainOther : Url.Plain "did:cheqd:testnet:b" := by
    constructor <;> decide +kernel
  obtain ⟨above, url, urlOther, -, inquired, inquiredOther, -, apart⟩ :=
    told_apart Services.ofSettings_standard rfl rfl rfl rfl "did:cheqd:testnet:a"
      "did:cheqd:testnet:b" .deactivate .deactivate (.resolving active) () (.resolving active) ()
      submits submitsOther
  exact ⟨url, urlOther, inquired, inquiredOther, apart (by decide) plain plainOther⟩

/-- A fragment is no part of a request: the deactivations of a DID and of the same DID with a
fragment are both submitted, after one and the same request to the resolver. -/
theorem alias_by_fragment :
    Services.ofSettings .standard = .ok .standard ∧ Services.standard.registrar.isWeb = true ∧
      Services.standard.resolver.isWeb = true ∧ Services.standard.resolver.query = none ∧
      Services.standard.resolver.fragment = none ∧
      "did:cheqd:testnet:a" ≠ "did:cheqd:testnet:a#b" ∧
      Submits ((Change.deactivate.program .standard "did:cheqd:testnet:a").run
        (.resolving active) ()).exchanges ∧
      Submits ((Change.deactivate.program .standard "did:cheqd:testnet:a#b").run
        (.resolving active) ()).exchanges ∧
      ∃ url urlOther,
        inquiries ((Change.deactivate.program .standard "did:cheqd:testnet:a").run
          (.resolving active) ()).exchanges = [Resolver.inquiry url Resolver.resolutionForm] ∧
        inquiries ((Change.deactivate.program .standard "did:cheqd:testnet:a#b").run
          (.resolving active) ()).exchanges =
            [Resolver.inquiry urlOther Resolver.resolutionForm] ∧
        url.requested = urlOther.requested := by
  exact ⟨Services.ofSettings_standard, rfl, rfl, rfl, rfl, by decide,
    submits_of_active identifierUrl_first rfl, submits_of_active identifierUrl_fragment rfl, _, _,
    inquiries_of_active identifierUrl_first rfl, inquiries_of_active identifierUrl_fragment rfl,
    rfl⟩

end Did.Change
end DidRegistry

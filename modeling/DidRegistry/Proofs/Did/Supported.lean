import DidRegistry.Proofs.Did.Aliases
import DidRegistry.Proofs.Did.Grammar
import DidRegistry.Proofs.Url.AddedSlash

/-!
DIDs of the supported method as texts of URLs. A DID is one segment of a path (`IsDid.isSegment`):
nothing in it is escaped, resolved or cut off. So it joins beneath the path that the resolver is
configured with, unless the URL of the resolver has a query or a fragment
(`Resolver.identifierUrl_beneath_iff`).
-/

namespace DidRegistry

namespace Identifier

/-- A DID of the supported method: an identifier with neither a resource nor a query. -/
structure IsDid (id : String) : Prop where
  supported : isSupported id = true
  pathless : '/' ∉ id.toList
  unasked : '?' ∉ id.toList

/-- A DID names its network and itself behind the method. -/
theorem IsDid.exists_parts {id : String} (did : IsDid id) : ∃ name specific,
    id.toList = methodStart.toList ++ (name ++ ':' :: specific) ∧ isNetwork name = true ∧
      isMethodSpecificId specific = true := by
  obtain ⟨name, specific, path, query, whole, network, valid, resource, asked⟩ :=
    exists_parts_of_isSupported did.supported
  have pathless := did.pathless
  have unasked := did.unasked
  simp only [whole, List.mem_append, not_or] at pathless unasked
  have nothing : ∀ {mark : Char} {back : List Char}, mark ∉ back →
      (∀ c, back.head? = some c → c = mark) → back = [] := by
    intro mark back absent opens
    cases back with
    | nil => rfl
    | cons c rest => exact absurd (opens c rfl ▸ List.mem_cons_self) absent
  obtain rfl := nothing pathless.2.1.2 (head_of_isResourcePath resource)
  obtain rfl := nothing unasked.2.2 (head_of_isQuery asked)
  exact ⟨name, specific, by simpa using whole, network, valid⟩

/-- A DID is written in letters, figures, hyphens and colons. -/
theorem IsDid.mem {id : String} (did : IsDid id) {c : Char} (member : c ∈ id.toList) :
    c.isAlphanum = true ∨ c = '-' ∨ c = ':' := by
  obtain ⟨name, specific, whole, network, valid⟩ := did.exists_parts
  have start : methodStart.toList.all (fun c => c.isAlphanum || c == ':') = true := by decide
  rw [whole] at member
  rcases List.mem_append.mp member with method | among
  · have named := List.all_eq_true.mp start c method
    rw [Bool.or_eq_true, beq_iff_eq] at named
    exact named.imp_right Or.inr
  · exact mem_of_named network valid among

/-- A DID is longer than dots and what stands for them. -/
theorem IsDid.long {id : String} (did : IsDid id) : 6 < id.length := by
  obtain ⟨name, specific, whole, -⟩ := did.exists_parts
  have start : methodStart.toList.length = 10 := by decide
  rw [← String.length_toList, whole, List.length_append, start]
  omega

theorem IsDid.undotted {id : String} (did : IsDid id) : Url.isDots id = false := by
  have long := did.long
  have dot : id ≠ "." := by
    rintro rfl
    exact absurd long (by decide)
  have others : id.toLower ∉ ["%2e", "..", ".%2e", "%2e.", "%2e%2e"] := by
    intro member
    have short : ∀ text ∈ ["%2e", "..", ".%2e", "%2e.", "%2e%2e"], text.length ≤ 6 := by decide
    have length : (id.map Char.toLower).length ≤ 6 := short _ member
    rw [String.length_map] at length
    omega
  simp only [List.mem_cons, not_or] at others
  simp [Url.isDots, Url.isSingleDot, Url.isDoubleDot, dot, others]

/-- A DID is a segment of a path. -/
theorem IsDid.isSegment {id : String} (did : IsDid id) : Url.IsSegment id := by
  constructor
  · have apart : ∀ mark ∈ Url.delimiters, mark.isAlphanum = false ∧ mark ≠ '-' ∧ mark ≠ ':' := by
      simp [Url.delimiters]
    intro c member delimits
    obtain ⟨other, hyphen, colon⟩ := apart c delimits
    rcases did.mem member with alphanum | same | same
    · rw [other] at alphanum
      cases alphanum
    · exact hyphen same
    · exact colon same
  · intro c member
    rcases did.mem member with alphanum | rfl | rfl
    · exact Url.keptInPath_of_isAlphanum alphanum
    · decide
    · decide
  · exact did.undotted

end Identifier

theorem Resolver.parse_of_identifierUrl {base url : Url} {id : String}
    (found : identifierUrl base id = .ok url) : Url.parse (base.render ++ id) = .ok url := by
  unfold identifierUrl at found
  split at found
  · cases found
    assumption
  · cases found

/-- A DID is beneath the path that the resolver is configured with exactly if the resolver's URL has
neither query nor fragment. A query or a fragment takes the DID in, and the path stays. -/
theorem Resolver.identifierUrl_beneath_iff {settings : Settings} {services : Services}
    (usable : Services.ofSettings settings = .ok services) (web : services.resolver.isWeb = true)
    (ended : services.resolver.query = none → services.resolver.fragment = none →
      Url.EndsPlainly settings.resolverUrl) :
    ∃ configured, Url.parse settings.resolverUrl = .ok configured ∧
      ∀ did url, Identifier.IsDid did → identifierUrl services.resolver did = .ok url →
        (url.path.render = Settings.slashEnded configured.path.render ++ did ↔
          services.resolver.query = none ∧ services.resolver.fragment = none) := by
  have base := Services.resolver_of_settings usable
  obtain ⟨configured, list, same, -, -, whole, -, parts, path⟩ :=
    Settings.exists_configured base web ended
  refine ⟨configured, same, ?_⟩
  intro did url isDid found
  rw [whole]
  by_cases bare : services.resolver.query = none ∧ services.resolver.fragment = none
  · obtain ⟨above, authority, slashed, beneath⟩ := identifierUrl_beneath usable web bare.1 bare.2
    obtain ⟨shown, -, rfl⟩ := (beneath did url).mp found
    rw [if_pos bare, slashed, Path.segments.injEq] at path
    have joined : (Url.beneath services.resolver.scheme shown above did).path =
        .segments (above ++ [did]) := by
      rw [Url.beneath, isDid.isSegment.seen]
    rw [joined, ← Url.render_endSlashed parts, ← path, Path.render_concat, Path.render_concat,
      String.append_empty]
    exact iff_of_true rfl bare
  · refine iff_of_false ?_ bare
    have stays := Url.path_of_parse_append (Settings.parse_of_baseUrl base) web bare
      (parse_of_identifierUrl found)
    rw [stays, path, if_neg bare]
    intro joined
    have lengths := congrArg String.length joined
    have grows : (Path.segments list).render.length ≤
        (Settings.slashEnded (Path.segments list).render).length := by
      unfold Settings.slashEnded
      split
      · exact Nat.le_refl _
      · rw [String.length_append]
        exact Nat.le_add_right ..
    have long := isDid.long
    rw [String.length_append] at lengths
    omega

end DidRegistry

import DidRegistry.Proofs.Json.Decoding
import DidRegistry.Proofs.Url.Authority
import DidRegistry.Proofs.Url.Endpoint
import DidRegistry.Proofs.Url.Query

/-!
What a URL of the web reads as when its text is continued. Scheme and authority stay what they are,
whatever follows (`Url.parse_append`): so a text that can be read can be read with any continuation
(`Url.parse_append_iff`), and only path, query and fragment depend on it. The scheme is kept by every
URL, of the web or not (`Url.scheme_of_parse_append`).
-/

namespace DidRegistry.Url

/-! ### Continuations -/

/-- What stands behind an authority and a slash, with the authority as it is read. -/
def continued (scheme : String) (authority : Authority) (tail : List Char) : Url where
  scheme
  authority := some authority
  path := .segments (segments true (unbroken (Remainder.ofText (endTrimmed tail)).place))
  query := (Remainder.ofText (endTrimmed tail)).query.map (escaped (keptInQuery true))
  fragment := (Remainder.ofText (endTrimmed tail)).fragment.map (escaped keptInFragment)

variable {front back : List Char} {mark : Char}

/-- A cut is made behind a text without the mark. -/
theorem cutAt_append_of_not_mem (absent : mark ∉ front) (back : List Char) :
    cutAt mark (front ++ back) = (front ++ (cutAt mark back).1, (cutAt mark back).2) := by
  have passes : ∀ c ∈ front, (c != mark) = true := by
    intro c member
    exact bne_iff_ne.mpr fun same => absent (same ▸ member)
  unfold cutAt
  rw [List.span_eq_takeWhile_dropWhile, List.span_eq_takeWhile_dropWhile,
    List.takeWhile_append_of_pos passes, List.dropWhile_append_of_pos passes]
  cases List.dropWhile (fun c => c != mark) back <;> rfl

/-- Nothing is cut off a text without the mark. -/
theorem cutAt_of_not_mem {text : List Char} (absent : mark ∉ text) :
    cutAt mark text = (text, none) := by
  have whole := cutAt_append_of_not_mem absent []
  rw [List.append_nil] at whole
  simpa [cutAt] using whole

/-- The place begins with a text in front that neither query nor fragment begins in. -/
theorem Remainder.ofText_append (unmarked : '#' ∉ front) (unasked : '?' ∉ front) (back : List Char) :
    ofText (front ++ back) = { ofText back with place := front ++ (ofText back).place } := by
  simp only [ofText, cutAt_append_of_not_mem unmarked, cutAt_append_of_not_mem unasked]

/-- Without marks, all of a text names the place. -/
theorem Remainder.ofText_of_unmarked {text : List Char} (unmarked : '#' ∉ text)
    (unasked : '?' ∉ text) : ofText text = ⟨text, none, none⟩ := by
  have whole := ofText_append unmarked unasked []
  simpa [ofText, cutAt] using whole

/-- Nothing is lost by a cut. -/
theorem append_of_cutAt (mark : Char) (text : List Char) :
    (cutAt mark text).1 ++ (cutAt mark text).2.elim [] (mark :: ·) = text := by
  by_cases member : mark ∈ text
  · obtain ⟨before, behind, rfl, absent⟩ := List.eq_append_cons_of_mem member
    rw [cutAt_append absent]
    rfl
  · rw [cutAt_of_not_mem member]
    simp

/-- The scheme of a text is read off it, if it is one of HTTP. -/
theorem scheme?_web {scheme : String} (web : scheme = "http" ∨ scheme = "https")
    (rest : List Char) : scheme? (scheme.toList ++ ':' :: rest) = some (scheme.toList, rest) := by
  unfold scheme?
  rcases web with rfl | rfl
  · rw [span_append (by decide)]
    rfl
  · rw [span_append (by decide)]
    rfl

theorem unbroken_append (text other : List Char) :
    unbroken (text ++ other) = unbroken text ++ unbroken other :=
  List.filter_append ..

/-- A text without breaks stays as it is. -/
theorem unbroken_of_undelimited {text : List Char} (undelimited : Undelimited text) :
    unbroken text = text := by
  have breaks : ∀ c, isBreak c = true → c ∈ delimiters := by
    intro c broken
    simp only [isBreak, Bool.or_eq_true, beq_iff_eq] at broken
    rcases broken with (rfl | rfl) | rfl <;> decide
  refine List.filter_eq_self.mpr ?_
  intro c member
  rw [Bool.not_eq_true']
  exact Bool.eq_false_iff.mpr fun broken => undelimited c member (breaks c broken)

/-- No character of a text without delimiters separates segments. -/
theorem isSlash_eq_false {text : List Char} (undelimited : Undelimited text) {c : Char}
    (member : c ∈ text) : isSlash true c = false := by
  have slashes : isSlash true c = true → c ∈ delimiters := by
    intro slash
    simp only [isSlash, Bool.true_and, Bool.or_eq_true, beq_iff_eq] at slash
    rcases slash with rfl | rfl <;> decide
  exact Bool.eq_false_iff.mpr fun slash => undelimited c member (slashes slash)

/-- Slashes in front of an authority do not count. -/
theorem dropWhile_isSlash {authority : List Char} (written : IsWritten authority)
    (path : List Char) :
    (unbroken ('/' :: '/' :: authority ++ '/' :: path)).dropWhile (isSlash true) =
      authority ++ '/' :: unbroken path := by
  obtain ⟨first, rest, rfl⟩ := List.exists_cons_of_ne_nil written.ne_nil
  have slashes : unbroken ['/', '/'] = ['/', '/'] := by decide
  have separates : isSlash true '/' = true := rfl
  have slash : unbroken ('/' :: path) = '/' :: unbroken path := rfl
  have begins : isSlash true first = false :=
    isSlash_eq_false written.undelimited (List.mem_cons_self ..)
  have apart : '/' :: '/' :: (first :: rest) ++ '/' :: path =
      ['/', '/'] ++ ((first :: rest) ++ '/' :: path) := rfl
  rw [apart, unbroken_append, unbroken_append, slashes, slash,
    unbroken_of_undelimited written.undelimited]
  simp [separates, begins]

/-- That nothing follows an authority of the web does not matter. -/
theorem parseAuthority_last (scheme : String) (last other : Bool) (text : List Char) :
    parseAuthority scheme true last text = parseAuthority scheme true other text := by
  unfold parseAuthority
  generalize (cutAtLastSign text).getD ([], text) = cut
  obtain ⟨who, place⟩ := cut
  by_cases empty : who = [] ∧ place = []
  · obtain ⟨rfl, rfl⟩ := empty
    -- Neither who asks nor a host: the URL is refused before or after it is seen what follows.
    have hostless : cutAtPort false [] = ([], []) := rfl
    cases last <;> cases other <;> by_cases blank : text = [] <;> simp [hostless, blank] <;> rfl
  · simp only [empty, ← and_assoc, false_and]

/-- A place of the web is an authority up to the first slash, and a path from there on. -/
theorem parsePlace_append_path (scheme : String) (remainder : Remainder)
    {authority path : List Char} (unslashed : ∀ c ∈ authority, isSlash true c = false)
    (slashed : ∀ c ∈ path.head?, isSlash true c = true) :
    parsePlace scheme true remainder (authority ++ path) =
      (parseAuthority scheme true true authority).map fun found =>
        (some found.1, .segments (rootedSegments true path)) := by
  have passes : ∀ c ∈ authority, (! isSlash true c) = true := by
    intro c member
    rw [unslashed c member]
    rfl
  have cut : (authority ++ path).span (! isSlash true ·) = (authority, path) := by
    rw [List.span_eq_takeWhile_dropWhile, List.takeWhile_append_of_pos passes,
      List.dropWhile_append_of_pos passes]
    cases path with
    | nil => simp
    | cons slash rest => simp [slashed slash rfl]
  unfold parsePlace
  rw [cut]
  simp only
  rw [parseAuthority_last scheme _ true]
  cases read : parseAuthority scheme true true authority with
  | error problem => rfl
  | ok found =>
      obtain ⟨shown, leftover⟩ := found
      have absent : '\\' ∉ authority := fun member => absurd (unslashed _ member) (by decide)
      have none : leftover = [] := leftover_eq_nil read absent
      subst none
      rfl

/-- An authority and a slash are read back, whatever follows them. -/
theorem parsePlace_append {scheme : String} {authority : List Char} {remainder : Remainder}
    (written : IsWritten authority) (path : List Char) :
    parsePlace scheme true remainder (authority ++ '/' :: path) =
      (parseAuthority scheme true false authority).map fun found =>
        (some found.1, .segments (segments true path)) := by
  have unslashed : ∀ c ∈ authority, isSlash true c = false :=
    fun c member => isSlash_eq_false written.undelimited member
  have slashed : ∀ c ∈ ('/' :: path).head?, isSlash true c = true := by
    rintro c ⟨⟩
    rfl
  rw [parsePlace_append_path scheme remainder unslashed slashed, parseAuthority_last scheme true]
  rfl

/-- A URL of HTTP that is written with an authority and a slash keeps this authority, whatever
follows. -/
theorem parse_append {scheme : String} {text : String} {authority tail : List Char}
    (web : scheme = "http" ∨ scheme = "https") (written : IsWritten authority)
    (shown : text.toList = scheme.toList ++ ':' :: '/' :: '/' :: authority ++ '/' :: tail) :
    parse text = (parseAuthority scheme true false authority).map fun found =>
      continued scheme found.1 tail := by
  have trim : trimmed text.toList =
      scheme.toList ++ ':' :: ('/' :: '/' :: authority ++ '/' :: endTrimmed tail) := by
    have begins : 0x20 < 'h'.toNat := by decide
    have visible : 0x20 < '/'.toNat := by decide
    rw [shown]
    rcases web with rfl | rfl
    · exact trimmed_append begins visible
    · exact trimmed_append begins visible
  have ofWeb : kind scheme.toList = .web := by
    rcases web with rfl | rfl <;> decide
  -- Neither query nor fragment begins in the authority, and all of it counts.
  have front : Undelimited authority := written.undelimited
  have unmarked : '#' ∉ '/' :: '/' :: authority ++ ['/'] := by
    have absent : '#' ∉ authority := fun member => front _ member (by decide)
    simp [absent]
  have unasked : '?' ∉ '/' :: '/' :: authority ++ ['/'] := by
    have absent : '?' ∉ authority := fun member => front _ member (by decide)
    simp [absent]
  have remainder : Remainder.ofText ('/' :: '/' :: authority ++ '/' :: endTrimmed tail) =
      { Remainder.ofText (endTrimmed tail) with
        place := '/' :: '/' :: authority ++ '/' :: (Remainder.ofText (endTrimmed tail)).place } := by
    have cut := Remainder.ofText_append unmarked unasked (endTrimmed tail)
    simpa using cut
  unfold parse
  rw [trim, scheme?_web web]
  simp only [remainder, parseByKind, ofWeb, dropWhile_isSlash written, String.ofList_toList,
    parsePlace_append written]
  cases parseAuthority scheme true false authority with
  | error problem => rfl
  | ok found => rfl

/-! ### Schemes that have been read -/

/-- A scheme as it is kept: it begins with a letter, and is in lowercase. -/
structure IsScheme (scheme : List Char) : Prop where
  begins : scheme.head?.any Char.isAlpha = true
  all : ∀ c ∈ scheme, isSchemeChar c = true
  lower : scheme.map Char.toLower = scheme

theorem toNat_lt_of_isSchemeChar {c : Char} (part : isSchemeChar c = true) : c.toNat < 128 := by
  simp only [isSchemeChar, Bool.or_eq_true, beq_iff_eq] at part
  rcases part with ((alphanum | rfl) | rfl) | rfl
  · have range := isAlphanum_iff.mp alphanum
    omega
  all_goals decide

/-- What a scheme is made of stays so in lowercase, and there it is kept. -/
theorem toLower_of_isSchemeChar {c : Char} (part : isSchemeChar c = true) :
    isSchemeChar c.toLower = true ∧ c.toLower.toLower = c.toLower ∧
      c.toLower.isAlpha = c.isAlpha := by
  have all : ∀ code : Fin 128, isSchemeChar (Char.ofNat code) = true →
      isSchemeChar (Char.ofNat code).toLower = true ∧
      (Char.ofNat code).toLower.toLower = (Char.ofNat code).toLower ∧
      (Char.ofNat code).toLower.isAlpha = (Char.ofNat code).isAlpha := by decide
  have lower := all ⟨c.toNat, toNat_lt_of_isSchemeChar part⟩
  rw [Char.ofNat_toNat] at lower
  exact lower part

theorem isScheme_of_scheme? {text scheme rest : List Char}
    (read : scheme? text = some (scheme, rest)) : IsScheme scheme := by
  unfold scheme? at read
  split at read
  · rename_i name _ _ _
    simp only [Option.ite_none_right_eq_some, Bool.and_eq_true, Option.some.injEq,
      Prod.mk.injEq, List.all_eq_true] at read
    obtain ⟨⟨begins, all⟩, rfl, -⟩ := read
    refine ⟨?_, ?_, ?_⟩
    · cases written : unbroken name with
      | nil =>
          rw [written] at begins
          cases begins
      | cons first others =>
          rw [written] at begins all
          exact (toLower_of_isSchemeChar (all first (List.mem_cons_self ..))).2.2.trans begins
    · intro c member
      obtain ⟨origin, among, rfl⟩ := List.mem_map.mp member
      exact (toLower_of_isSchemeChar (all origin among)).1
    · rw [List.map_map]
      exact List.map_congr_left fun c member => (toLower_of_isSchemeChar (all c member)).2.1
  · cases read

/-- A scheme and a colon are read back, whatever follows them. -/
theorem IsScheme.scheme?_append {scheme : List Char} (kept : IsScheme scheme)
    (rest : List Char) : scheme? (scheme ++ ':' :: rest) = some (scheme, rest) := by
  have absent : ':' ∉ scheme := fun member => absurd (kept.all _ member) (by decide)
  have whole : unbroken scheme = scheme := by
    refine List.filter_eq_self.mpr ?_
    intro c member
    rw [Bool.not_eq_true']
    refine Bool.eq_false_iff.mpr fun broken => ?_
    have part := kept.all c member
    simp only [isBreak, Bool.or_eq_true, beq_iff_eq] at broken
    rcases broken with (rfl | rfl) | rfl <;> exact absurd part (by decide)
  unfold scheme?
  rw [span_append absent]
  simp only [whole]
  rw [if_pos, kept.lower]
  rw [Bool.and_eq_true, List.all_eq_true]
  exact ⟨kept.begins, kept.all⟩

theorem IsScheme.trimmed_append {scheme : List Char} (kept : IsScheme scheme)
    (rest : List Char) : trimmed (scheme ++ ':' :: rest) = scheme ++ ':' :: endTrimmed rest := by
  cases scheme with
  | nil => exact absurd kept.begins (by decide)
  | cons first others =>
      have letter : first.isAlpha = true := kept.begins
      have visible : 0x20 < first.toNat := by
        have range := isAlphanum_iff.mp (show first.isAlphanum = true by simp [Char.isAlphanum, letter])
        omega
      exact Url.trimmed_append visible (by decide)

theorem isScheme_of_parse {text : String} {url : Url} (read : parse text = .ok url) :
    IsScheme url.scheme.toList := by
  unfold parse at read
  split at read
  · cases read
  · rename_i scheme rest begins
    simp only [bind, Except.bind] at read
    split at read
    · cases read
    · cases read
      rw [String.toList_ofList]
      exact isScheme_of_scheme? begins

/-- The text of a URL keeps its scheme with any continuation. -/
theorem scheme_of_parse_append {text more : String} {base url : Url}
    (read : parse text = .ok base) (again : parse (base.render ++ more) = .ok url) :
    url.scheme = base.scheme := by
  have kept := isScheme_of_parse read
  have shown : ∃ rest, (base.render ++ more).toList = base.scheme.toList ++ ':' :: rest := by
    simp [render]
  obtain ⟨rest, written⟩ := shown
  unfold parse at again
  rw [written, kept.trimmed_append, kept.scheme?_append] at again
  simp only [bind, Except.bind] at again
  split at again
  · cases again
  · cases again
    exact String.ofList_toList

/-! ### URLs that have been read -/

/-- Resolving dots leaves a segment of a path that has one. -/
theorem resolveDots_ne_nil {ofFile : Bool} {above list : List String} (nonempty : list ≠ []) :
    resolveDots ofFile above list ≠ [] := by
  induction list generalizing above with
  | nil => exact absurd rfl nonempty
  | cons segment rest ih =>
      cases rest with
      | nil =>
          unfold resolveDots
          split
          · simp
          · split <;> simp
      | cons next rest =>
          unfold resolveDots
          split
          · exact ih (List.cons_ne_nil _ _)
          · split
            · exact ih (List.cons_ne_nil _ _)
            · exact ih (List.cons_ne_nil _ _)

theorem segments_ne_nil (ofWeb : Bool) (text : List Char) : segments ofWeb text ≠ [] := by
  refine resolveDots_ne_nil ?_
  rw [pieces, ne_eq, List.map_eq_nil_iff]
  exact Split.pieces_ne_nil _ _

/-- A place of the web has an authority that is written, and a path with a segment. -/
theorem written_of_parsePlace {scheme : String} {remainder : Remainder} {text : List Char}
    {authority : Option Authority} {path : Path}
    (read : parsePlace scheme true remainder text = .ok (authority, path)) :
    ∃ shown first rest, authority = some shown ∧ path = .segments (first :: rest) ∧
      IsWritten shown.render.toList := by
  unfold parsePlace at read
  simp only [bind, Except.bind] at read
  split at read
  · cases read
  rename_i found parsed
  obtain ⟨shown, leftover⟩ := found
  cases read
  have nonempty : ∀ path : List Char, (if leftover = [] then rootedSegments true path
      else segments true (leftover ++ path)) ≠ [] := by
    intro path
    split
    · cases path with
      | nil => exact List.cons_ne_nil _ _
      | cons c rest => exact segments_ne_nil true rest
    · exact segments_ne_nil true _
  obtain ⟨first, rest, list⟩ := List.exists_cons_of_ne_nil (nonempty _)
  exact ⟨shown, first, rest, rfl, congrArg Path.segments list, isWritten_authority parsed⟩

/-- What follows authority and slash in the text of a URL with segments. -/
def tail (first : String) (rest : List String) (url : Url) : String :=
  first ++ Path.render (.segments rest) ++ renderMarked "?" url.query ++
    renderMarked "#" url.fragment

/-- The text of a URL of HTTP with a continuation. -/
theorem toList_render_append {url : Url} {authority : Authority} {first : String}
    {rest : List String} (place : url.authority = some authority)
    (path : url.path = .segments (first :: rest)) (id : String) :
    (url.render ++ id).toList = url.scheme.toList ++ ':' :: '/' :: '/' ::
      authority.render.toList ++ '/' :: ((tail first rest url).toList ++ id.toList) := by
  simp [render, renderAuthority, place, path, Path.render, tail, String.toList_join]

/-- The text of a URL of HTTP that has been read keeps its authority with any continuation, or with
none. -/
theorem parse_render_append {text : String} {url : Url} (read : parse text = .ok url)
    (web : url.isWeb = true) :
    ∃ (authority : List Char) (first : String) (rest : List String),
      url.path = .segments (first :: rest) ∧ ∀ id, parse (url.render ++ id) =
        (parseAuthority url.scheme true false authority).map fun found =>
          continued url.scheme found.1 ((tail first rest url).toList ++ id.toList) := by
  obtain ⟨name, behind, -, parsed, -, -⟩ := place_of_isWeb read web
  obtain ⟨authority, first, rest, shown, path, written⟩ := written_of_parsePlace parsed
  refine ⟨authority.render.toList, first, rest, path, ?_⟩
  intro id
  have scheme : url.scheme = "http" ∨ url.scheme = "https" := by
    simpa [isWeb] using web
  exact parse_append scheme written (toList_render_append shown path id)

/-- The own text of a URL is read as a URL. This is not so if a host is written in more letters than
are read, as long names of other scripts are. -/
def IsReadable (url : Url) : Prop := ∃ again, parse url.render = .ok again

/-- The text of a URL of HTTP is a base for one text that follows it exactly if it is one for every
other, and for none as well. -/
theorem parse_append_iff {text : String} {base : Url} (read : parse text = .ok base)
    (web : base.isWeb = true) (id : String) :
    (∃ url, parse (base.render ++ id) = .ok url) ↔ base.IsReadable := by
  obtain ⟨authority, first, rest, -, continues⟩ := parse_render_append read web
  have same : ∀ id, (∃ url, parse (base.render ++ id) = .ok url) ↔
      ∃ found, parseAuthority base.scheme true false authority = .ok found := by
    intro id
    rw [continues id]
    cases parseAuthority base.scheme true false authority with
    | ok found => exact iff_of_true ⟨_, rfl⟩ ⟨found, rfl⟩
    | error problem => exact iff_of_false (by rintro ⟨_, ⟨⟩⟩) (by rintro ⟨_, ⟨⟩⟩)
  have whole := same ""
  rw [String.append_empty] at whole
  exact (same id).trans whole.symm

/-- Behind a URL of HTTP only URLs of HTTP are read. -/
theorem isWeb_of_parse_append {text more : String} {base url : Url} (read : parse text = .ok base)
    (again : parse (base.render ++ more) = .ok url) : url.isWeb = base.isWeb := by
  rw [isWeb, isWeb, scheme_of_parse_append read again]

end DidRegistry.Url

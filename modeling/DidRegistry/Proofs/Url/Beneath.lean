import DidRegistry.Proofs.Url.Path
import DidRegistry.Settings.Basic

/-!
Texts beneath a path. Where the text of a URL of HTTP ends in a slash, a text that follows it adds
segments to its path, in which dots are resolved, and a query (`Url.parse_beneath`). These are all
that a server sees of the text (`Url.seen`). Texts in which there is nothing to leave out, to resolve
or to read as an escape are told apart by them (`Url.seen_injective`).
-/

namespace DidRegistry

namespace Url

/-! ### Texts that end in a slash -/

variable {text other : List Char}

/-- A text ends as its last part does. -/
theorem last_of_suffix {p : Char → Prop} (ended : ∀ c ∈ text.getLast?, p c)
    (suffix : other <:+ text) : ∀ c ∈ other.getLast?, p c := by
  intro c last
  obtain ⟨front, rfl⟩ := suffix
  refine ended c ?_
  rw [List.getLast?_append, Option.mem_def.mp last]
  rfl

/-- A text that is empty or ends in a slash. -/
def SlashEnded (text : List Char) : Prop := ∀ c ∈ text.getLast?, c = '/'

theorem SlashEnded.suffix (ended : SlashEnded text) (suffix : other <:+ text) :
    SlashEnded other := last_of_suffix ended suffix

theorem SlashEnded.cases (ended : SlashEnded text) : text = [] ∨ ∃ front, text = front ++ ['/'] := by
  rcases List.eq_nil_or_concat text with empty | ⟨front, last, rfl⟩
  · exact Or.inl empty
  · rw [List.concat_eq_append] at ended ⊢
    rw [ended last (by simp)]
    exact Or.inr ⟨front, rfl⟩

theorem SlashEnded.endTrimmed (ended : SlashEnded text) : endTrimmed text = text := by
  refine endTrimmed_of_visible ?_
  intro c last
  rw [ended c last]
  decide

theorem SlashEnded.unbroken (ended : SlashEnded text) : SlashEnded (unbroken text) := by
  rcases ended.cases with rfl | ⟨front, rfl⟩
  · exact ended
  · have slash : Url.unbroken ['/'] = ['/'] := rfl
    rw [unbroken_append, slash]
    intro c last
    simpa using last.symm

/-- A path that ends in a slash has an empty segment at its end. -/
theorem SlashEnded.segments (ended : SlashEnded text) :
    ∃ above, segments true text = above ++ [""] := by
  have slash : isSlash true '/' = true := rfl
  have resolved : ∀ list above : List String, ∃ higher,
      resolveDots false above (list ++ [""]) = higher ++ [""] := by
    intro list
    induction list with
    | nil =>
        intro above
        refine ⟨above.reverse, resolveDots_of_undotted ?_⟩
        intro segment member
        rw [List.mem_singleton.mp member]
        exact IsSegment.empty.undotted
    | cons first rest ih =>
        intro above
        obtain ⟨next, others, more⟩ := List.exists_cons_of_ne_nil
          (List.append_ne_nil_of_right_ne_nil rest (List.cons_ne_nil "" []))
        rw [List.cons_append, more]
        obtain ⟨higher, moved, -⟩ := resolveDots_cons above first next others
        rw [moved, ← more]
        exact ih higher
  rcases ended.cases with rfl | ⟨front, rfl⟩
  · exact resolved [] []
  · rw [Url.segments, pieces, Split.pieces_append slash, List.map_append]
    exact resolved _ []

theorem scheme?_suffix {scheme rest : List Char} (read : scheme? text = some (scheme, rest)) :
    rest <:+ text := by
  unfold scheme? at read
  rw [List.span_eq_takeWhile_dropWhile] at read
  split at read
  · rename_i colon behind cut
    simp only [Option.ite_none_right_eq_some, Option.some.injEq, Prod.mk.injEq] at read
    rw [Prod.mk.injEq] at cut
    rw [← read.2.2]
    exact (List.suffix_cons ..).trans (cut.2 ▸ List.dropWhile_suffix _)
  · cases read

/-- Where neither query nor fragment is cut off, all of a text names the place. -/
theorem Remainder.place_eq (query : (ofText text).query = none)
    (fragment : (ofText text).fragment = none) : (ofText text).place = text := by
  have unmarked : (cutAt '#' text).2 = none := Option.map_eq_none_iff.mp fragment
  have unasked : (cutAt '?' (cutAt '#' text).1).2 = none := Option.map_eq_none_iff.mp query
  have body := append_of_cutAt '#' text
  have place := append_of_cutAt '?' (cutAt '#' text).1
  rw [unmarked, Option.elim_none, List.append_nil] at body
  rw [unasked, Option.elim_none, List.append_nil] at place
  exact place.trans body

/-- A place that ends in a slash has an empty segment at the end of its path. -/
theorem SlashEnded.path {scheme : String} {remainder : Remainder} {authority : Option Authority}
    {path : Path} (ended : SlashEnded text)
    (read : parsePlace scheme true remainder text = .ok (authority, path)) :
    ∃ above, path = .segments (above ++ [""]) ∧ ∀ segment ∈ above, IsSegment segment := by
  unfold parsePlace at read
  rw [List.span_eq_takeWhile_dropWhile] at read
  simp only [bind, Except.bind] at read
  split at read
  · cases read
  rename_i found parsed
  cases read
  have absent : '\\' ∉ text.takeWhile fun c => ! isSlash true c := by
    intro member
    have passes := List.mem_takeWhile_imp member
    cases passes
  rw [if_pos (leftover_eq_nil parsed absent)]
  have suffix := List.dropWhile_suffix (l := text) fun c => ! isSlash true c
  cases behind : text.dropWhile fun c => ! isSlash true c with
  | nil =>
      refine ⟨[], rfl, ?_⟩
      intro segment member
      cases member
  | cons slash rest =>
      rw [behind] at suffix
      obtain ⟨above, list⟩ := (ended.suffix ((List.suffix_cons ..).trans suffix)).segments
      refine ⟨above, congrArg Path.segments list, ?_⟩
      intro segment member
      have among : segment ∈ Url.segments true rest := by
        rw [list]
        exact List.mem_append_left _ member
      exact isSegment_of_mem_segments among

/-- A URL of HTTP that is read from a text with a slash at its end, and has neither query nor
fragment, has an empty segment at the end of its path. -/
theorem path_of_slashEnded {text : String} {url : Url} (read : parse text = .ok url)
    (web : url.isWeb = true) (query : url.query = none) (fragment : url.fragment = none)
    (ended : SlashEnded text.toList) :
    ∃ above, url.path = .segments (above ++ [""]) ∧ ∀ segment ∈ above, IsSegment segment := by
  obtain ⟨scheme, rest, begins, parsed, asked, marked⟩ := place_of_isWeb read web
  have visible : trimmed text.toList <:+ text.toList := by
    have suffix := List.dropWhile_suffix (l := text.toList) fun c => decide (c.toNat ≤ 0x20)
    change endTrimmed (text.toList.dropWhile fun c => decide (c.toNat ≤ 0x20)) <:+ _
    rw [(ended.suffix suffix).endTrimmed]
    exact suffix
  have whole : (Remainder.ofText rest).place = rest :=
    Remainder.place_eq (Option.map_eq_none_iff.mp (asked.symm.trans query))
      (Option.map_eq_none_iff.mp (marked.symm.trans fragment))
  rw [whole] at parsed
  have place := (ended.suffix ((scheme?_suffix begins).trans visible)).unbroken
  exact (place.suffix (List.dropWhile_suffix _)).path parsed

/-! ### What follows a path -/

/-- What a server sees of a text beneath a path: the path that it leads to, and a query. -/
def seen (above : List String) (text : String) : List String × Option String :=
  let behind := Remainder.ofText (endTrimmed text.toList)
  (resolveDots false above.reverse (pieces true (unbroken behind.place)),
    behind.query.map (escaped (keptInQuery true)))

/-- The URL of a text beneath a path. -/
def beneath (scheme : String) (authority : Authority) (above : List String) (text : String) :
    Url where
  scheme
  authority := some authority
  path := .segments (seen above text).1
  query := (seen above text).2
  fragment := (Remainder.ofText (endTrimmed text.toList)).fragment.map (escaped keptInFragment)

/-- What is requested has the query that a server sees. -/
theorem query_requested_beneath (scheme : String) (authority : Authority) (above : List String)
    (text : String) :
    (beneath scheme authority above text).requested.query = (seen above text).2 :=
  rfl

/-- Two texts beneath one path are requested alike if a server sees the same of both. -/
theorem requested_beneath_eq_iff {scheme : String} {authority : Authority} {above : List String}
    {text other : String} :
    (beneath scheme authority above text).requested =
        (beneath scheme authority above other).requested ↔
      seen above text = seen above other := by
  constructor
  · intro same
    simp only [beneath, requested, Url.mk.injEq, Path.segments.injEq] at same
    exact Prod.ext same.2.2.1 same.2.2.2.1
  · intro same
    unfold beneath requested
    rw [same]

/-- Segments as they are written in front of what follows them. -/
def slashed : List String → List Char
  | [] => []
  | segment :: rest => segment.toList ++ '/' :: slashed rest

theorem toList_segments {above rest : List String} {first last : String}
    (path : first :: rest = above ++ [last]) :
    (first ++ Path.render (.segments rest)).toList = slashed above ++ last.toList := by
  induction above generalizing first rest with
  | nil =>
      cases path
      simp [Path.render, slashed]
  | cons segment above ih =>
      rw [List.cons_append, List.cons.injEq] at path
      obtain ⟨rfl, rfl⟩ := path
      obtain ⟨next, others, more⟩ := List.exists_cons_of_ne_nil
        (List.append_ne_nil_of_right_ne_nil above (List.cons_ne_nil last []))
      rw [slashed, List.append_assoc, List.cons_append, ← ih more.symm, more]
      simp [Path.render, String.toList_join]

/-- What follows authority and slash in the text of a URL with an empty segment at the end of its
path, and nothing behind it. -/
theorem toList_tail {url : Url} {above rest : List String} {first : String}
    (path : first :: rest = above ++ [""]) (query : url.query = none)
    (fragment : url.fragment = none) : (tail first rest url).toList = slashed above := by
  have written := toList_segments path
  rw [tail, query, fragment]
  simpa [renderMarked] using written

variable {above : List String}

theorem endTrimmed_slashed_append (above : List String) (text : List Char) :
    Url.endTrimmed (slashed above ++ text) = slashed above ++ Url.endTrimmed text := by
  have visible : 0x20 < '/'.toNat := by decide
  induction above with
  | nil => rfl
  | cons segment above ih =>
      simp only [slashed, List.append_assoc, List.cons_append]
      rw [endTrimmed_append visible, ih]

theorem not_mem_slashed {mark : Char} (segments : ∀ segment ∈ above, IsSegment segment)
    (delimits : mark ∈ delimiters) (other : mark ≠ '/') : mark ∉ slashed above := by
  induction above with
  | nil => exact List.not_mem_nil
  | cons segment above ih =>
      have first := (segments segment (List.mem_cons_self ..)).undelimited
      have others := ih fun next member => segments next (List.mem_cons_of_mem _ member)
      have absent : mark ∉ segment.toList := fun member => first mark member delimits
      simp [slashed, absent, other, others]

theorem unbroken_slashed_append (segments : ∀ segment ∈ above, IsSegment segment)
    (text : List Char) : Url.unbroken (slashed above ++ text) = slashed above ++ Url.unbroken text := by
  have slash : Url.unbroken ['/'] = ['/'] := rfl
  induction above with
  | nil => rfl
  | cons segment above ih =>
      have first := (segments segment (List.mem_cons_self ..)).undelimited
      have others := ih fun next member => segments next (List.mem_cons_of_mem _ member)
      have apart : slashed (segment :: above) ++ text =
          segment.toList ++ (['/'] ++ (slashed above ++ text)) := by
        simp [slashed]
      rw [apart, unbroken_append, unbroken_append, unbroken_of_undelimited first, slash, others]
      simp [slashed]

/-- A segment is a piece of a path. -/
theorem IsSegment.pieces {segment : String} (whole : IsSegment segment) :
    pieces true segment.toList = [segment] := by
  have unseparated : ∀ c ∈ segment.toList, isSlash true c = false := fun c member =>
    isSlash_eq_false whole.undelimited member
  rw [Url.pieces, Split.pieces_of_unseparated unseparated, List.map_singleton, escaped,
    Percent.encode_of_kept whole.kept, String.ofList_toList]

theorem pieces_slashed_append (segments : ∀ segment ∈ above, IsSegment segment)
    (text : List Char) : pieces true (slashed above ++ text) = above ++ pieces true text := by
  have slash : isSlash true '/' = true := rfl
  induction above with
  | nil => rfl
  | cons segment above ih =>
      have first := (segments segment (List.mem_cons_self ..)).pieces
      have others := ih fun next member => segments next (List.mem_cons_of_mem _ member)
      rw [pieces] at first others ⊢
      simp only [slashed, List.append_assoc, List.cons_append]
      rw [Split.pieces_append slash, List.map_append, others, first]
      rfl

/-- What follows segments is read beneath them. -/
theorem continued_slashed_append (scheme : String) (authority : Authority)
    (segments : ∀ segment ∈ above, IsSegment segment) (text : String) :
    continued scheme authority (slashed above ++ text.toList) =
      beneath scheme authority above text := by
  have unmarked : '#' ∉ slashed above := not_mem_slashed segments (by decide) (by decide)
  have unasked : '?' ∉ slashed above := not_mem_slashed segments (by decide) (by decide)
  have undotted : ∀ segment ∈ above, isDots segment = false := fun segment member =>
    (segments segment member).undotted
  have some_piece : ∀ place, pieces true place ≠ [] := by
    intro place
    rw [pieces, ne_eq, List.map_eq_nil_iff]
    exact Split.pieces_ne_nil _ _
  unfold continued beneath seen Url.segments
  rw [endTrimmed_slashed_append, Remainder.ofText_append unmarked unasked,
    unbroken_slashed_append segments, pieces_slashed_append segments,
    resolveDots_append undotted (some_piece _), List.append_nil]

/-- Texts behind a URL of HTTP that ends in a slash are read beneath its path, if the URL can be
read. -/
theorem parse_beneath {text : String} {base : Url} (read : parse text = .ok base)
    (web : base.isWeb = true) (query : base.query = none) (fragment : base.fragment = none)
    (ended : SlashEnded text.toList) :
    ∃ (above : List String) (authority : List Char), base.path = .segments (above ++ [""]) ∧
      ∀ behind, parse (base.render ++ behind) =
        (parseAuthority base.scheme true false authority).map fun found =>
          beneath base.scheme found.1 above behind := by
  obtain ⟨above, path, segments⟩ := path_of_slashEnded read web query fragment ended
  obtain ⟨authority, first, rest, list, continues⟩ := parse_render_append read web
  refine ⟨above, authority, path, ?_⟩
  intro behind
  have whole := Path.segments.inj (list.symm.trans path)
  rw [continues behind, toList_tail whole query fragment]
  simp only [continued_slashed_append _ _ segments]

/-! ### Segments and queries beneath a path -/

theorem visible_of_isPrintable {c : Char} (printable : Host.isPrintable c = true)
    (shown : c ≠ ' ') : 0x20 < c.toNat := by
  have code : c.toNat ≠ 0x20 := fun same => shown (Char.toNat_inj.mp same)
  rw [Host.isPrintable, Bool.and_eq_true, decide_eq_true_eq] at printable
  have least : 0x20 ≤ c.toNat := printable.1
  omega

/-- Characters that are kept in a query are seen. -/
theorem visible_of_keptInQuery {c : Char} (kept : keptInQuery true c = true) : 0x20 < c.toNat := by
  have space : c ≠ ' ' := by
    rintro rfl
    exact absurd kept (by decide)
  simp only [keptInQuery, Bool.and_eq_true] at kept
  exact visible_of_isPrintable kept.1.1 space

/-- Characters that are kept in a path are seen. -/
theorem visible_of_keptInPath {c : Char} (kept : keptInPath c = true) : 0x20 < c.toNat := by
  have space : c ≠ ' ' := by
    rintro rfl
    exact absurd kept (by decide)
  simp only [keptInPath, keptInFragment, Bool.and_eq_true] at kept
  exact visible_of_isPrintable kept.1.1 space

/-- A segment is seen as it is written. -/
theorem IsSegment.seen {segment : String} (whole : IsSegment segment) (above : List String) :
    seen above segment = (above ++ [segment], none) := by
  have ended : Url.endTrimmed segment.toList = segment.toList :=
    endTrimmed_of_visible fun c last =>
      visible_of_keptInPath (whole.kept c (List.mem_of_getLast? last))
  have bare : Remainder.ofText segment.toList = ⟨segment.toList, none, none⟩ :=
    Remainder.ofText_of_unmarked (fun member => whole.undelimited _ member (by decide))
      fun member => whole.undelimited _ member (by decide)
  simp only [Url.seen, ended, bare, unbroken_of_undelimited whole.undelimited, whole.pieces,
    Option.map_none]
  rw [resolveDots_of_undotted (by simpa using whole.undotted), List.reverse_reverse]

/-- A query of characters that are kept is seen as it is written, behind whatever it is asked of. -/
theorem query_seen {front query : String} (above : List String) (unmarked : '#' ∉ front.toList)
    (unasked : '?' ∉ front.toList) (kept : ∀ c ∈ query.toList, keptInQuery true c = true) :
    (seen above (front ++ "?" ++ query)).2 = some query := by
  have written : (front ++ "?" ++ query).toList = front.toList ++ '?' :: query.toList := by simp
  have ended : Url.endTrimmed query.toList = query.toList :=
    endTrimmed_of_visible fun c last =>
      visible_of_keptInQuery (kept c (List.mem_of_getLast? last))
  have absent : '#' ∉ query.toList := fun member => absurd (kept _ member) (by decide)
  have cut : cutAt '#' (front.toList ++ '?' :: query.toList) =
      (front.toList ++ '?' :: query.toList, none) :=
    cutAt_of_not_mem (by simp [unmarked, absent])
  have breaks : Url.unbroken query.toList = query.toList :=
    unbroken_of_visible fun c member => visible_of_keptInQuery (kept c member)
  have behind : (Remainder.ofText (front.toList ++ '?' :: query.toList)).query =
      some query.toList := by
    simp only [Remainder.ofText, cut, cutAt_append unasked, Option.map_some, breaks]
  have visible : 0x20 < '?'.toNat := by decide
  simp only [seen, written, endTrimmed_append visible, ended, behind, Option.map_some]
  rw [escaped, Percent.encode_of_kept kept, String.ofList_toList]

/-! ### Texts that are told apart -/

/-- A text in which there is nothing to leave out, to resolve or to read as an escape. -/
structure Plain (text : String) : Prop where
  unmarked : '#' ∉ text.toList
  straight : '\\' ∉ text.toList
  unescaped : '%' ∉ text.toList
  unbroken : Url.unbroken text.toList = text.toList
  ended : Url.endTrimmed text.toList = text.toList
  undotted : ∀ segment ∈ pieces true (Remainder.ofText text.toList).place, isDots segment = false

/-- What a slash separates is written apart. -/
theorem joined_map_encode {kept : Char → Bool} {mark : Char} (stays : kept mark = true)
    (parts : List (List Char)) :
    Split.joined mark (parts.map (Percent.encode kept)) =
      Percent.encode kept (Split.joined mark parts) := by
  induction parts with
  | nil => rfl
  | cons part rest ih =>
      cases rest with
      | nil => rfl
      | cons next rest =>
          have single : Percent.encode kept [mark] = [mark] := by
            refine Percent.encode_of_kept ?_
            intro c member
            rw [List.mem_singleton.mp member]
            exact stays
          have apart : Split.joined mark (part :: next :: rest) =
              part ++ ([mark] ++ Split.joined mark (next :: rest)) := rfl
          rw [apart, Percent.encode_append, Percent.encode_append, single, ← ih]
          rfl

/-- The pieces of a path, joined again. -/
theorem joined_pieces (straight : '\\' ∉ text) :
    Split.joined '/' ((pieces true text).map String.toList) = Percent.encode keptInPath text := by
  have slashes : Split.pieces (isSlash true) text = Split.pieces (· == '/') text := by
    refine Split.pieces_congr ?_
    intro c member
    have other : c ≠ '\\' := fun same => straight (same ▸ member)
    simp [isSlash, other]
  have written : (pieces true text).map String.toList =
      (Split.pieces (· == '/') text).map (Percent.encode keptInPath) := by
    rw [pieces, slashes, List.map_map]
    refine List.map_congr_left ?_
    intro piece _
    exact String.toList_ofList
  rw [written, joined_map_encode (by decide), Split.joined_pieces]

/-- A plain text is a place, and a query if there is one. Nothing changes them but escapes. -/
theorem Plain.exists_parts {text : String} (plain : Plain text) :
    ∃ place query, text.toList = place ++ Option.elim query [] ('?' :: ·) ∧ ∀ above,
      seen above text = (above ++ pieces true place, query.map (escaped (keptInQuery true))) := by
  have body := cutAt_of_not_mem plain.unmarked
  have whole := append_of_cutAt '?' text.toList
  have visible : ∀ part, part ⊆ text.toList → Url.unbroken part = part := by
    intro part within
    refine List.filter_eq_self.mpr ?_
    intro c member
    exact List.filter_eq_self.mp plain.unbroken c (within member)
  have place : Url.unbroken (cutAt '?' text.toList).1 = (cutAt '?' text.toList).1 := by
    refine visible _ ?_
    intro c member
    rw [← whole]
    exact List.mem_append_left _ member
  have query : (cutAt '?' text.toList).2.map Url.unbroken = (cutAt '?' text.toList).2 := by
    cases asked : (cutAt '?' text.toList).2 with
    | none => rfl
    | some query =>
        rw [asked] at whole
        refine congrArg some (visible query ?_)
        intro c member
        rw [← whole]
        exact List.mem_append_right _ (List.mem_cons_of_mem _ member)
  have parts : Remainder.ofText text.toList =
      ⟨(cutAt '?' text.toList).1, (cutAt '?' text.toList).2, none⟩ := by
    simp only [Remainder.ofText, body, query, Option.map_none]
  refine ⟨(cutAt '?' text.toList).1, (cutAt '?' text.toList).2, whole.symm, ?_⟩
  intro above
  have undotted := plain.undotted
  rw [parts] at undotted
  simp only [seen, plain.ended, parts, place]
  rw [resolveDots_of_undotted undotted, List.reverse_reverse]

/-- Plain texts are told apart by what a server sees of them. -/
theorem seen_injective {above : List String} {text other : String} (plain : Plain text)
    (plainOther : Plain other) (same : seen above text = seen above other) : text = other := by
  obtain ⟨place, query, parts, sees⟩ := plain.exists_parts
  obtain ⟨placeOther, queryOther, partsOther, seesOther⟩ := plainOther.exists_parts
  rw [sees, seesOther, Prod.mk.injEq] at same
  have straight := plain.straight
  have unescaped := plain.unescaped
  have straightOther := plainOther.straight
  have unescapedOther := plainOther.unescaped
  rw [parts, List.mem_append, not_or] at straight unescaped
  rw [partsOther, List.mem_append, not_or] at straightOther unescapedOther
  have places : place = placeOther := by
    have written : Percent.encode keptInPath place = Percent.encode keptInPath placeOther := by
      rw [← joined_pieces straight.1, ← joined_pieces straightOther.1,
        List.append_cancel_left same.1]
    exact Percent.encode_injective unescaped.1 unescapedOther.1 written
  have queries : query = queryOther := by
    cases query with
    | none => exact (Option.map_eq_none_iff.mp same.2.symm).symm
    | some text =>
        cases queryOther with
        | none => cases same.2
        | some other =>
            have written := String.ofList_injective (Option.some.inj same.2)
            refine congrArg some (Percent.encode_injective ?_ ?_ written)
            · exact fun member => unescaped.2 (List.mem_cons_of_mem _ member)
            · exact fun member => unescapedOther.2 (List.mem_cons_of_mem _ member)
  refine String.toList_injective ?_
  rw [parts, partsOther, places, queries]

end Url

namespace Settings

theorem endsWith_slash_iff {text : String} :
    text.endsWith "/" = true ↔ text.toList.getLast? = some '/' := by
  change text.toSlice.endsWith "/" = true ↔ _
  rw [String.Slice.endsWith_string_iff, String.copy_toSlice, List.getLast?_eq_some_iff]
  constructor
  · rintro ⟨front, whole⟩
    exact ⟨front, whole.symm⟩
  · rintro ⟨front, whole⟩
    exact ⟨front, whole.symm⟩

/-- The text of a base URL is read with a slash at its end. -/
theorem slashEnded_toList (text : String) : Url.SlashEnded (slashEnded text).toList := by
  intro c last
  unfold slashEnded at last
  split at last
  · rename_i ends
    exact Option.some.inj (last.symm.trans (endsWith_slash_iff.mp ends))
  · simpa using last.symm

end Settings
end DidRegistry

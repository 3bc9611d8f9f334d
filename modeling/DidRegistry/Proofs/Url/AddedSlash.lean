import DidRegistry.Proofs.Url.Beneath
import Mathlib.Data.List.Induction

/-!
What a slash at the end of a URL's text does. If the text shows neither query nor fragment and ends
in its path, the path gets an empty segment at its end, so that names join beneath it
(`Url.parse_slash_of_unmarked`). If it shows one of the two, the slash becomes part of that, and the
path is left as it is (`Url.parse_slash_of_marked`).
-/

namespace DidRegistry

/-- Text that is written for characters is not empty. -/
theorem Percent.encode_ne_nil {kept : Char → Bool} {text : List Char} (nonempty : text ≠ []) :
    encode kept text ≠ [] := by
  obtain ⟨c, rest, rfl⟩ := List.exists_cons_of_ne_nil nonempty
  have octets : (String.utf8EncodeChar c).length ≠ 0 := by
    rw [String.length_utf8EncodeChar]
    exact Nat.ne_of_gt c.utf8Size_pos
  obtain ⟨byte, others, shown⟩ :=
    List.exists_cons_of_ne_nil (List.length_pos_iff.mp (Nat.pos_of_ne_zero octets))
  rw [encode, List.flatMap_cons, encodeChar]
  split
  · simp
  · simp [shown, escape]

/-- The text of a path is that of its segments, one after the other. -/
theorem Path.render_concat (above : List String) (name : String) :
    (segments (above ++ [name])).render = (segments above).render ++ "/" ++ name := by
  apply String.toList_injective
  simp [render, String.toList_join]

namespace Url

/-! ### Paths -/

/-- The segments with an empty one at the end. -/
def endSlashed (list : List String) : List String :=
  if list.getLast? = some "" then list else list ++ [""]

theorem exists_endSlashed (list : List String) : ∃ above, endSlashed list = above ++ [""] := by
  unfold endSlashed
  split
  · rename_i ends
    exact List.getLast?_eq_some_iff.mp ends
  · exact ⟨list, rfl⟩

/-- The text of a path ends in a slash exactly if its last segment is empty. -/
theorem endsWith_render_iff {list : List String} (parts : ∀ segment ∈ list, IsSegment segment) :
    (Path.segments list).render.endsWith "/" = true ↔ list.getLast? = some "" := by
  rw [Settings.endsWith_slash_iff]
  rcases List.eq_nil_or_concat list with rfl | ⟨above, last, rfl⟩
  · simp [Path.render]
  · rw [List.concat_eq_append] at parts ⊢
    rw [Path.render_concat, List.getLast?_concat, Option.some.injEq, String.toList_append,
      List.getLast?_append]
    cases ends : last.toList.getLast? with
    | none =>
        rw [List.getLast?_eq_none_iff, String.toList_eq_nil_iff] at ends
        simp [ends]
    | some c =>
        have member := List.mem_of_getLast? ends
        have part : c ≠ '/' := by
          rintro rfl
          exact (parts last (by simp)).undelimited _ member (by decide)
        have named : last ≠ "" := by
          rintro rfl
          cases member
        simp [part, named]

/-- The text of a path with an empty segment at its end is that of the path with a slash. -/
theorem render_endSlashed {list : List String} (parts : ∀ segment ∈ list, IsSegment segment) :
    (Path.segments (endSlashed list)).render =
      Settings.slashEnded (Path.segments list).render := by
  unfold endSlashed Settings.slashEnded
  by_cases ends : list.getLast? = some ""
  · rw [if_pos ends, if_pos ((endsWith_render_iff parts).mpr ends)]
  · rw [if_neg ends, if_neg fun ended => ends ((endsWith_render_iff parts).mp ended),
      Path.render_concat, String.append_empty]

/-- A name in the last place of a path is beneath this path exactly if nothing was in its place. -/
theorem render_sibling_iff {above : List String} {last : String}
    (parts : ∀ segment ∈ above ++ [last], IsSegment segment) (name : String) :
    (Path.segments (above ++ [name])).render =
        Settings.slashEnded (Path.segments (above ++ [last])).render ++ name ↔ last = "" := by
  rw [← render_endSlashed parts, Path.render_concat]
  constructor
  · intro joined
    by_contra named
    have slashed : endSlashed (above ++ [last]) = above ++ [last] ++ [""] := by
      simp [endSlashed, named]
    rw [slashed, Path.render_concat, Path.render_concat] at joined
    have lengths := congrArg String.length joined
    have shown : "/".length = 1 := rfl
    simp only [String.length_append] at lengths
    omega
  · rintro rfl
    have slashed : endSlashed (above ++ [""]) = above ++ [""] := by simp [endSlashed]
    rw [slashed, Path.render_concat, String.append_empty]

/-- The segments above the place that a segment leads to, latest first. -/
def moved (above : List String) (segment : String) : List String :=
  if isDoubleDot segment then parent above
  else if isSingleDot segment then above
  else segment :: above

theorem resolveDots_cons_of_ne_nil (above : List String) (segment : String) {rest : List String}
    (nonempty : rest ≠ []) :
    resolveDots false above (segment :: rest) = resolveDots false (moved above segment) rest := by
  obtain ⟨next, others, rfl⟩ := List.exists_cons_of_ne_nil nonempty
  unfold moved
  simp only [resolveDots, keptSegment_false]
  split
  · rfl
  · split <;> rfl

/-- An empty segment behind the last one leaves an empty one at the end. -/
theorem resolveDots_append_empty (above list : List String) {last : String} (named : last ≠ "") :
    resolveDots false above (list ++ [last, ""]) =
      endSlashed (resolveDots false above (list ++ [last])) := by
  have ended : ∀ above, resolveDots false above [""] = ("" :: above).reverse := by
    intro above
    have double : isDoubleDot "" = false := by decide +kernel
    have single : isSingleDot "" = false := by decide +kernel
    simp [resolveDots, double, single, keptSegment_false]
  induction list generalizing above with
  | nil =>
      rw [List.nil_append, List.nil_append, resolveDots_cons_of_ne_nil above last (by simp), ended]
      unfold moved
      by_cases double : isDoubleDot last = true
      · simp [resolveDots, double, endSlashed]
      by_cases single : isSingleDot last = true
      · simp [resolveDots, double, single, endSlashed]
      · simp [resolveDots, double, single, endSlashed, keptSegment_false, named]
  | cons segment list ih =>
      rw [List.cons_append, List.cons_append, resolveDots_cons_of_ne_nil above segment (by simp),
        resolveDots_cons_of_ne_nil above segment (by simp), ih]

/-- A slash behind a path adds an empty segment, unless there is one. -/
theorem segments_append_slash (front : List Char) {c : Char} (part : isSlash true c = false) :
    segments true (front ++ [c] ++ ['/']) = endSlashed (segments true (front ++ [c])) := by
  have slash : isSlash true '/' = true := rfl
  obtain ⟨others, last, cut, nonempty⟩ := Split.exists_last_piece front part
  have named : escaped keptInPath last ≠ "" := by
    intro empty
    apply Percent.encode_ne_nil nonempty
    simpa [escaped] using empty
  have whole : pieces true (front ++ [c]) =
      others.map (escaped keptInPath) ++ [escaped keptInPath last] := by
    rw [pieces, cut, List.map_append, List.map_singleton]
  have behind : pieces true (front ++ [c] ++ ['/']) =
      others.map (escaped keptInPath) ++ [escaped keptInPath last, ""] := by
    rw [pieces, Split.pieces_append slash, List.map_append, ← pieces, whole]
    simp [Split.pieces, escaped, Percent.encode]
  rw [segments, segments, whole, behind]
  exact resolveDots_append_empty [] _ named

/-! ### Places -/

/-- A place of the web is read without regard to what is cut off behind it. -/
theorem parsePlace_congr (scheme : String) (remainder other : Remainder) (text : List Char) :
    parsePlace scheme true remainder text = parsePlace scheme true other text := by
  unfold parsePlace
  simp only
  rw [parseAuthority_last]

theorem exists_authority_path (text : List Char) :
    ∃ authority path, text = authority ++ path ∧
      (∀ c ∈ authority, isSlash true c = false) ∧ ∀ c ∈ path.head?, isSlash true c = true := by
  refine ⟨text.takeWhile (! isSlash true ·), text.dropWhile (! isSlash true ·),
    List.takeWhile_append_dropWhile.symm, ?_, ?_⟩
  · intro c member
    simpa using List.mem_takeWhile_imp member
  · intro c first
    have stops := List.head?_dropWhile_not (! isSlash true ·) text
    rw [Option.mem_def.mp first] at stops
    simpa using stops

/-- A place of the web that is empty cannot be read. -/
theorem parsePlace_nil (scheme : String) (remainder : Remainder) :
    parsePlace scheme true remainder [] = .error .emptyHost := by
  have unslashed : ∀ c ∈ ([] : List Char), isSlash true c = false := by simp
  have slashed : ∀ c ∈ ([] : List Char).head?, isSlash true c = true := by simp
  exact (parsePlace_append_path scheme remainder unslashed slashed).trans rfl

/-- The path of a place of the web has segments, at least one. -/
theorem segments_of_parsePlace {scheme : String} {remainder : Remainder} {text : List Char}
    {authority : Option Authority} {list : List String}
    (read : parsePlace scheme true remainder text = .ok (authority, .segments list)) :
    list ≠ [] ∧ ∀ segment ∈ list, IsSegment segment := by
  obtain ⟨front, path, rfl, unslashed, slashed⟩ := exists_authority_path text
  rw [parsePlace_append_path scheme remainder unslashed slashed] at read
  have rooted : list = rootedSegments true path := by
    cases parsed : parseAuthority scheme true true front with
    | error problem =>
        rw [parsed] at read
        cases read
    | ok found =>
        rw [parsed] at read
        cases read
        rfl
  cases path with
  | nil =>
      have empty : list = [""] := rooted
      rw [empty]
      refine ⟨List.cons_ne_nil _ _, ?_⟩
      intro segment member
      rw [List.mem_singleton.mp member]
      exact .empty
  | cons slash rest =>
      have read : list = segments true rest := rooted
      rw [read]
      exact ⟨segments_ne_nil true rest, fun segment => isSegment_of_mem_segments⟩

/-- A slash behind a path that does not end in one adds an empty segment, unless there is one. -/
theorem rootedSegments_append_slash {path : List Char}
    (slashed : ∀ c ∈ path.head?, isSlash true c = true)
    (part : ∀ c ∈ path.getLast?, isSlash true c = false) :
    rootedSegments true (path ++ ['/']) = endSlashed (rootedSegments true path) := by
  cases path with
  | nil => decide +kernel
  | cons slash rest =>
      rcases List.eq_nil_or_concat rest with rfl | ⟨others, last, rfl⟩
      · have first := slashed slash rfl
        rw [part slash rfl] at first
        cases first
      · rw [List.concat_eq_append] at part ⊢
        exact segments_append_slash others (part last (by simp [List.getLast?_cons]))

/-- A slash behind a place that does not end in one adds an empty segment to its path, unless there
is one. -/
theorem parsePlace_append_slash {scheme : String} {remainder : Remainder} {text : List Char}
    {authority : Option Authority} {path : Path}
    (part : ∀ c ∈ text.getLast?, isSlash true c = false)
    (read : parsePlace scheme true remainder (text ++ ['/']) = .ok (authority, path)) :
    ∃ list, parsePlace scheme true remainder text = .ok (authority, .segments list) ∧
      path = .segments (endSlashed list) := by
  obtain ⟨front, behind, rfl, unslashed, slashed⟩ := exists_authority_path text
  have slashedToo : ∀ c ∈ (behind ++ ['/']).head?, isSlash true c = true := by
    cases behind with
    | nil => simp [isSlash]
    | cons slash rest => simpa using slashed slash rfl
  have partOf : ∀ c ∈ behind.getLast?, isSlash true c = false := by
    intro c last
    refine part c ?_
    rw [List.getLast?_append, Option.mem_def.mp last]
    rfl
  rw [List.append_assoc, parsePlace_append_path scheme remainder unslashed slashedToo,
    rootedSegments_append_slash slashed partOf] at read
  rw [parsePlace_append_path scheme remainder unslashed slashed]
  cases parsed : parseAuthority scheme true true front with
  | error problem =>
      rw [parsed] at read
      cases read
  | ok found =>
      rw [parsed] at read
      cases read
      exact ⟨_, rfl, rfl⟩

/-! ### Texts -/

/-- What the text of a URL of the web reads as. -/
theorem parse_eq_ok_iff {text : String} {url : Url} (web : url.isWeb = true) :
    parse text = .ok url ↔
      ∃ rest, scheme? (trimmed text.toList) = some (url.scheme.toList, rest) ∧
        parsePlace url.scheme true (Remainder.ofText rest)
          ((unbroken (Remainder.ofText rest).place).dropWhile (isSlash true)) =
            .ok (url.authority, url.path) ∧
        url.query = (Remainder.ofText rest).query.map (escaped (keptInQuery true)) ∧
        url.fragment = (Remainder.ofText rest).fragment.map (escaped keptInFragment) := by
  have ofWeb : kind url.scheme.toList = .web := by
    apply kind_of_isWeb
    rw [String.ofList_toList]
    exact web
  constructor
  · intro read
    unfold parse at read
    split at read
    · cases read
    · rename_i scheme rest begins
      simp only [bind, Except.bind] at read
      split at read
      · cases read
      · rename_i place parsed
        obtain ⟨authority, path⟩ := place
        cases read
        simp only [String.toList_ofList] at ofWeb ⊢
        simp only [parseByKind, ofWeb] at parsed
        refine ⟨rest, begins, parsed, ?_, rfl⟩
        simp only [ofWeb]
        rfl
  · rintro ⟨rest, begins, parsed, query, fragment⟩
    obtain ⟨scheme, authority, path, _, _⟩ := url
    cases query
    cases fragment
    unfold parse
    rw [begins]
    simp only at ofWeb parsed
    simp only [parseByKind, ofWeb, String.ofList_toList, parsed, bind, Except.bind]
    rfl

/-- The path of a URL of the web has segments, at least one. -/
theorem segments_of_isWeb {text : String} {url : Url} (read : parse text = .ok url)
    (web : url.isWeb = true) :
    ∃ list, url.path = .segments list ∧ list ≠ [] ∧ ∀ segment ∈ list, IsSegment segment := by
  obtain ⟨rest, -, parsed, -, -⟩ := (parse_eq_ok_iff web).mp read
  obtain ⟨list, path⟩ := parsePlace_path parsed
  rw [path] at parsed
  exact ⟨list, path, segments_of_parsePlace parsed⟩

/-- What is behind the colon is not looked at for a scheme. -/
theorem exists_of_scheme? {text scheme rest : List Char}
    (read : scheme? text = some (scheme, rest)) :
    ∃ name, text = name ++ ':' :: rest ∧
      ∀ other, scheme? (name ++ ':' :: other) = some (scheme, other) := by
  by_cases colon : ':' ∈ text
  · obtain ⟨name, behind, rfl, absent⟩ := List.eq_append_cons_of_mem colon
    unfold scheme? at read
    rw [span_append absent] at read
    simp only [Option.ite_none_right_eq_some, Option.some.injEq, Prod.mk.injEq] at read
    obtain ⟨valid, rfl, rfl⟩ := read
    refine ⟨name, rfl, ?_⟩
    intro other
    unfold scheme?
    rw [span_append absent]
    exact if_pos valid
  · have passes : ∀ c ∈ text, (c != ':') = true := by
      intro c member
      exact bne_iff_ne.mpr fun same => colon (same ▸ member)
    unfold scheme? at read
    rw [List.span_eq_takeWhile_dropWhile, List.dropWhile_eq_nil_iff.mpr passes] at read
    cases read

/-- A text without the blanks and control characters at its beginning. -/
def beginTrimmed (text : List Char) : List Char := text.dropWhile fun c => decide (c.toNat ≤ 0x20)

theorem trimmed_eq (text : List Char) : trimmed text = endTrimmed (beginTrimmed text) := rfl

theorem beginTrimmed_append_slash (text : List Char) :
    beginTrimmed (text ++ ['/']) = beginTrimmed text ++ ['/'] := by
  rw [beginTrimmed, List.dropWhile_append]
  split
  · rename_i blank
    rw [beginTrimmed, List.isEmpty_iff.mp blank]
    rfl
  · rfl

/-- What follows the scheme in a text, and in the text with a slash at its end. -/
theorem exists_behind_scheme {text scheme behind : List Char}
    (read : scheme? (trimmed (text ++ ['/'])) = some (scheme, behind)) :
    ∃ rest, behind = rest ++ ['/'] ∧ scheme? (trimmed text) = some (scheme, endTrimmed rest) ∧
      rest <:+ text := by
  have visible : 0x20 < '/'.toNat := by decide
  have visibleColon : 0x20 < ':'.toNat := by decide
  have whole : trimmed (text ++ ['/']) = beginTrimmed text ++ ['/'] := by
    rw [trimmed_eq, beginTrimmed_append_slash]
    exact endTrimmed_append visible
  obtain ⟨name, shown, again⟩ := exists_of_scheme? read
  rw [whole] at shown
  rcases List.eq_nil_or_concat behind with rfl | ⟨rest, last, rfl⟩
  · have ends := congrArg List.getLast? shown
    simp at ends
  · rw [List.concat_eq_append, ← List.cons_append, ← List.append_assoc] at shown
    obtain ⟨front, same⟩ := List.append_inj' shown rfl
    cases same
    refine ⟨rest, List.concat_eq_append, ?_, ?_⟩
    · rw [trimmed_eq, front, endTrimmed_append visibleColon]
      exact again _
    · have suffix : beginTrimmed text <:+ text := List.dropWhile_suffix _
      rw [front] at suffix
      exact ((List.suffix_cons ..).trans (List.suffix_append ..)).trans suffix

/-- A mark that begins a query or a fragment ends the place. -/
theorem Remainder.place_append {front back : List Char} {mark : Char}
    (marks : mark = '#' ∨ mark = '?') (unmarked : '#' ∉ front) (unasked : '?' ∉ front) :
    (ofText (front ++ mark :: back)).place = front := by
  have begins : (ofText (mark :: back)).place = [] := by
    rcases marks with rfl | rfl
    · rfl
    · have absent : '#' ∉ ([] : List Char) := List.not_mem_nil
      obtain ⟨behind, cut⟩ : ∃ behind, (cutAt '#' ([] ++ '?' :: back)).1 = [] ++ '?' :: behind :=
        cutAt_of_other absent (by decide)
      change (cutAt '?' (cutAt '#' ([] ++ '?' :: back)).1).1 = []
      rw [cut]
      rfl
  rw [ofText_append unmarked unasked, begins, List.append_nil]

theorem exists_first_mark {text : List Char} (marked : '#' ∈ text ∨ '?' ∈ text) :
    ∃ front mark back, text = front ++ mark :: back ∧ (mark = '#' ∨ mark = '?') ∧
      '#' ∉ front ∧ '?' ∉ front := by
  induction text with
  | nil => simp at marked
  | cons c rest ih =>
      by_cases mark : c = '#' ∨ c = '?'
      · exact ⟨[], c, rest, rfl, mark, by simp, by simp⟩
      · rw [not_or] at mark
        have later : '#' ∈ rest ∨ '?' ∈ rest := by
          simpa [Ne.symm mark.1, Ne.symm mark.2] using marked
        obtain ⟨front, first, back, rfl, marks, unmarked, unasked⟩ := ih later
        refine ⟨c :: front, first, back, rfl, marks, ?_, ?_⟩
        · simp [Ne.symm mark.1, unmarked]
        · simp [Ne.symm mark.2, unasked]

/-- A text without a query and a fragment has no marks. -/
theorem Remainder.unmarked {text : List Char} (query : (ofText text).query = none)
    (fragment : (ofText text).fragment = none) : '#' ∉ text ∧ '?' ∉ text := by
  have whole := place_eq query fragment
  by_contra marked
  rw [← not_or, not_not] at marked
  obtain ⟨front, mark, back, rfl, marks, absent, missing⟩ := exists_first_mark marked
  rw [place_append marks absent missing] at whole
  simp at whole

/-- Blanks at the end of a text are only breaks if, these left out, it ends in a character that
counts. -/
theorem unbroken_endTrimmed {text : List Char}
    (ended : ∀ c ∈ (unbroken text).getLast?, 0x20 < c.toNat) :
    unbroken (endTrimmed text) = unbroken text := by
  induction text using List.reverseRecOn with
  | nil => rfl
  | append_singleton front c ih =>
      by_cases visible : 0x20 < c.toNat
      · rw [endTrimmed_append visible]
        rfl
      · have blank : endTrimmed (front ++ [c]) = endTrimmed front := by
          simp [endTrimmed, Nat.le_of_not_lt visible]
        cases counts : isBreak c with
        | true =>
            have gone : unbroken [c] = [] := by simp [unbroken, counts]
            rw [unbroken_append, gone, List.append_nil] at ended ⊢
            rw [blank, ih ended]
        | false =>
            have kept : unbroken [c] = [c] := by simp [unbroken, counts]
            rw [unbroken_append, kept] at ended
            exact absurd (ended c (by simp)) visible

/-- Where a slash at the end of the text of a URL of the web belongs to a query or a fragment, the
text names the same place without it. -/
theorem parse_slash_of_marked {text : String} {base : Url}
    (read : parse (text ++ "/") = .ok base) (web : base.isWeb = true)
    (marked : ¬ (base.query = none ∧ base.fragment = none)) :
    ∃ configured, parse text = .ok configured ∧ base.scheme = configured.scheme ∧
      base.authority = configured.authority ∧ base.path = configured.path := by
  obtain ⟨behind, begins, parsed, query, fragment⟩ := (parse_eq_ok_iff web).mp read
  rw [String.toList_append] at begins
  obtain ⟨rest, rfl, before, -⟩ := exists_behind_scheme begins
  have marks : '#' ∈ rest ∨ '?' ∈ rest := by
    by_contra unmarked
    rw [not_or] at unmarked
    have bare : Remainder.ofText (rest ++ ['/']) = ⟨rest ++ ['/'], none, none⟩ :=
      Remainder.ofText_of_unmarked (by simp [unmarked.1]) (by simp [unmarked.2])
    rw [query, fragment, bare] at marked
    simp at marked
  obtain ⟨front, mark, back, rfl, isMark, unmarked, unasked⟩ := exists_first_mark marks
  have visible : 0x20 < mark.toNat := by rcases isMark with rfl | rfl <;> decide
  rw [endTrimmed_append visible] at before
  rw [List.append_assoc, List.cons_append, Remainder.place_append isMark unmarked unasked,
    parsePlace_congr _ _ (Remainder.ofText (front ++ mark :: endTrimmed back))] at parsed
  let remainder := Remainder.ofText (front ++ mark :: endTrimmed back)
  let configured : Url := { base with
    query := remainder.query.map (escaped (keptInQuery true))
    fragment := remainder.fragment.map (escaped keptInFragment) }
  have webToo : configured.isWeb = true := web
  have same : parse text = .ok configured := by
    refine (parse_eq_ok_iff webToo).mpr ⟨_, before, ?_, rfl, rfl⟩
    rw [Remainder.place_append isMark unmarked unasked]
    exact parsed
  exact ⟨configured, same, rfl, rfl, rfl⟩

/-- A slash at the end of the text of a URL of the web that has neither query nor fragment, and that
ends in a character that counts and is no slash, adds an empty segment to the path, unless there is
one. -/
theorem parse_slash_of_unmarked {text : String} {base : Url}
    (read : parse (text ++ "/") = .ok base) (web : base.isWeb = true)
    (query : base.query = none) (fragment : base.fragment = none)
    (ended : ∀ c ∈ (unbroken text.toList).getLast?, 0x20 < c.toNat ∧ isSlash true c = false) :
    ∃ configured list, parse text = .ok configured ∧ base.scheme = configured.scheme ∧
      base.authority = configured.authority ∧ configured.path = .segments list ∧
      base.path = .segments (endSlashed list) := by
  obtain ⟨behind, begins, parsed, asked, marked⟩ := (parse_eq_ok_iff web).mp read
  rw [String.toList_append] at begins
  obtain ⟨rest, rfl, before, suffix⟩ := exists_behind_scheme begins
  obtain ⟨unmarked, unasked⟩ := Remainder.unmarked
    (Option.map_eq_none_iff.mp (asked.symm.trans query))
    (Option.map_eq_none_iff.mp (marked.symm.trans fragment))
  have within : endTrimmed rest ⊆ rest ++ ['/'] := by
    intro c member
    rw [endTrimmed, List.mem_reverse] at member
    exact List.mem_append_left _ (List.mem_reverse.mp ((List.dropWhile_suffix _).subset member))
  have kept : Remainder.ofText (endTrimmed rest) = ⟨endTrimmed rest, none, none⟩ :=
    Remainder.ofText_of_unmarked (fun member => unmarked (within member))
      fun member => unasked (within member)
  have last := last_of_suffix ended (List.IsSuffix.filter (! isBreak ·) suffix)
  have slash : unbroken ['/'] = ['/'] := rfl
  rw [Remainder.ofText_of_unmarked unmarked unasked, unbroken_append, slash,
    List.dropWhile_append] at parsed
  split at parsed
  · rw [show ['/'].dropWhile (isSlash true) = [] from rfl, parsePlace_nil] at parsed
    cases parsed
  obtain ⟨list, place, path⟩ := parsePlace_append_slash
    (last_of_suffix (fun c ends => (last c ends).2) (List.dropWhile_suffix _)) parsed
  let configured : Url := ⟨base.scheme, base.authority, .segments list, none, none⟩
  have webToo : configured.isWeb = true := web
  have same : parse text = .ok configured := by
    refine (parse_eq_ok_iff webToo).mpr ⟨_, before, ?_⟩
    rw [kept, unbroken_endTrimmed fun c ends => (last c ends).1,
      parsePlace_congr _ _ ⟨rest ++ ['/'], none, none⟩]
    exact ⟨place, rfl, rfl⟩
  exact ⟨configured, list, same, rfl, rfl, rfl, path⟩

/-- A text that can take a slash at its end into its path, if it shows neither query nor fragment:
it has one there, or ends in a character that counts and is no slash. -/
def EndsPlainly (text : String) : Prop :=
  text.endsWith "/" = true ∨
    ∀ c ∈ (unbroken text.toList).getLast?, 0x20 < c.toNat ∧ isSlash true c = false

/-- A URL of the web that is read with a slash at the end of its text has the path that it is
configured with, with an empty segment at the end if the URL has neither query nor fragment. -/
theorem parse_slashEnded {text : String} {base : Url}
    (read : parse (Settings.slashEnded text) = .ok base) (web : base.isWeb = true)
    (ended : base.query = none → base.fragment = none → EndsPlainly text) :
    ∃ configured list, parse text = .ok configured ∧ base.scheme = configured.scheme ∧
      base.authority = configured.authority ∧ configured.path = .segments list ∧
      base.path = .segments
        (if base.query = none ∧ base.fragment = none then endSlashed list else list) := by
  by_cases slash : text.endsWith "/" = true
  · rw [Settings.slashEnded, if_pos slash] at read
    obtain ⟨list, path⟩ := path_of_isWeb read web
    refine ⟨base, list, read, rfl, rfl, path, ?_⟩
    split
    · rename_i bare
      have last : SlashEnded text.toList := by
        intro c ends
        exact Option.some.inj (ends.symm.trans (Settings.endsWith_slash_iff.mp slash))
      obtain ⟨above, whole, -⟩ := path_of_slashEnded read web bare.1 bare.2 last
      have same := Path.segments.inj (path.symm.trans whole)
      rw [path, same]
      simp [endSlashed]
    · exact path
  · rw [Settings.slashEnded, if_neg slash] at read
    by_cases bare : base.query = none ∧ base.fragment = none
    · obtain ⟨configured, list, same, scheme, authority, whole, path⟩ :=
        parse_slash_of_unmarked read web bare.1 bare.2
          ((ended bare.1 bare.2).resolve_left slash)
      refine ⟨configured, list, same, scheme, authority, whole, ?_⟩
      rw [if_pos bare, path]
    · obtain ⟨configured, same, scheme, authority, path⟩ := parse_slash_of_marked read web bare
      obtain ⟨list, whole⟩ := path_of_isWeb read web
      refine ⟨configured, list, same, scheme, authority, path.symm.trans whole, ?_⟩
      rw [if_neg bare, whole]

/-! ### Texts behind a query or a fragment -/

/-- A query or a fragment begins behind the segments of a path. -/
theorem exists_mark_of_tail {url : Url} (first : String) (rest : List String)
    (marked : ¬ (url.query = none ∧ url.fragment = none)) :
    ∃ mark back, (mark = '#' ∨ mark = '?') ∧ (tail first rest url).toList =
      (first ++ Path.render (.segments rest)).toList ++ mark :: back := by
  cases asked : url.query with
  | some query =>
      refine ⟨'?', query.toList ++ (renderMarked "#" url.fragment).toList, Or.inr rfl, ?_⟩
      simp [tail, asked, renderMarked]
  | none =>
      cases named : url.fragment with
      | some fragment =>
          refine ⟨'#', fragment.toList, Or.inl rfl, ?_⟩
          simp [tail, asked, named, renderMarked]
      | none => exact absurd ⟨asked, named⟩ marked

/-- A text behind a URL of the web with a query or a fragment goes into it: the path stays. -/
theorem path_of_parse_append {text : String} {base url : Url} {behind : String}
    (read : parse text = .ok base) (web : base.isWeb = true)
    (marked : ¬ (base.query = none ∧ base.fragment = none))
    (found : parse (base.render ++ behind) = .ok url) : url.path = base.path := by
  obtain ⟨authority, first, rest, path, continues⟩ := parse_render_append read web
  obtain ⟨_, also, -, parts⟩ := segments_of_isWeb read web
  cases path.symm.trans also
  obtain ⟨above, last, list⟩ :=
    (List.eq_nil_or_concat (first :: rest)).resolve_left (List.cons_ne_nil _ _)
  rw [List.concat_eq_append] at list
  rw [list] at parts path
  have partsAbove : ∀ segment ∈ above, IsSegment segment := fun segment member =>
    parts segment (List.mem_append_left _ member)
  have partLast : IsSegment last := parts last (by simp)
  have absent : ∀ mark ∈ delimiters, mark ≠ '/' → mark ∉ slashed above ++ last.toList := by
    intro mark delimits other member
    rcases List.mem_append.mp member with among | among
    · exact not_mem_slashed partsAbove delimits other among
    · exact partLast.undelimited _ among delimits
  obtain ⟨mark, back, isMark, whole⟩ := exists_mark_of_tail first rest marked
  have visible : 0x20 < mark.toNat := by rcases isMark with rfl | rfl <;> decide
  have place : segments true (unbroken (Remainder.ofText (endTrimmed
      ((tail first rest base).toList ++ behind.toList))).place) = above ++ [last] := by
    rw [whole, toList_segments list, List.append_assoc, List.cons_append, endTrimmed_append visible,
      Remainder.place_append isMark (absent '#' (by decide) (by decide))
        (absent '?' (by decide) (by decide)),
      unbroken_slashed_append partsAbove, unbroken_of_undelimited partLast.undelimited, segments,
      pieces_slashed_append partsAbove, partLast.pieces]
    exact resolveDots_of_undotted fun segment member => (parts segment member).undotted
  rw [continues behind] at found
  cases parsed : parseAuthority base.scheme true false authority with
  | error problem =>
      rw [parsed] at found
      cases found
  | ok shown =>
      rw [parsed] at found
      cases found
      rw [path]
      exact congrArg Path.segments place

end Url

/-- The URL that a base URL of the web is configured as, with the segments of its path. -/
theorem Settings.exists_configured {text : String} {base : Url} (read : baseUrl text = .ok base)
    (web : base.isWeb = true)
    (ended : base.query = none → base.fragment = none → Url.EndsPlainly text) :
    ∃ configured list, Url.parse text = .ok configured ∧ base.scheme = configured.scheme ∧
      base.authority = configured.authority ∧ configured.path = .segments list ∧
      list ≠ [] ∧ (∀ segment ∈ list, Url.IsSegment segment) ∧
      base.path = .segments
        (if base.query = none ∧ base.fragment = none then Url.endSlashed list else list) := by
  obtain ⟨configured, list, same, scheme, authority, whole, path⟩ :=
    Url.parse_slashEnded (parse_of_baseUrl read) web ended
  have configuredWeb : configured.isWeb = true := by
    rw [Url.isWeb, ← scheme]
    exact web
  obtain ⟨_, also, nonempty, parts⟩ := Url.segments_of_isWeb same configuredWeb
  cases whole.symm.trans also
  exact ⟨configured, list, same, scheme, authority, whole, nonempty, parts, path⟩

end DidRegistry

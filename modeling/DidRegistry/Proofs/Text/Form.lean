import DidRegistry.Proofs.Text.Percent
import DidRegistry.Proofs.Url.Path
import DidRegistry.Text.Form

/-!
Reading a web form back. What is written for a name or a value has one reading
(`Form.decodeText?_encodeText`), and none of the marks that stand between names and values is part
of it. So the pairs are read back from the query that carries them (`Form.decode?_encode`), and a
query determines its pairs (`Form.encode_injective`).
-/

namespace DidRegistry

namespace Form

/-! ### Characters -/

/-- The characters that names and values are written with. -/
def isWritten (c : Char) : Bool := isPlain c || c == '+' || c == '%'

theorem isWritten_of_mem_escape {byte : UInt8} {c : Char} (member : c ∈ Percent.escape byte) :
    isWritten c = true ∧ c ≠ '+' := by
  obtain ⟨high, low⟩ := Hex.halves_lt byte
  have digit : ∀ c : Char, c.isAlphanum = true → isWritten c = true ∧ c ≠ '+' := by
    rintro c alphanum
    refine ⟨by simp [isWritten, isPlain, alphanum], ?_⟩
    rintro rfl
    exact absurd alphanum (by decide)
  simp only [Percent.escape, List.mem_cons, List.not_mem_nil, or_false] at member
  rcases member with rfl | rfl | rfl
  · decide
  · exact digit _ (Digits.isAlphanum_upperHex high)
  · exact digit _ (Digits.isAlphanum_upperHex low)

theorem isWritten_of_mem_encodeChar {c written : Char} (member : written ∈ encodeChar c) :
    isWritten written = true := by
  unfold encodeChar Percent.encodeChar at member
  split at member
  · rw [List.mem_singleton.mp member]
    decide
  split at member
  · rename_i plain
    rw [List.mem_singleton.mp member]
    simp [isWritten, plain]
  · obtain ⟨byte, -, within⟩ := List.mem_flatMap.mp member
    exact (isWritten_of_mem_escape within).1

variable {mark : Char}

/-- A mark with which nothing is written is no part of a name or a value. -/
theorem not_mem_encodeText (unwritten : isWritten mark = false) (text : String) :
    mark ∉ encodeText text := by
  intro member
  obtain ⟨c, -, within⟩ := List.mem_flatMap.mp member
  rw [isWritten_of_mem_encodeChar within] at unwritten
  cases unwritten

theorem not_mem_encodePair (unwritten : isWritten mark = false) (other : mark ≠ '=')
    (pair : String × String) : mark ∉ encodePair pair := by
  simp [encodePair, not_mem_encodeText unwritten, other]

theorem not_mem_encodePairs (unwritten : isWritten mark = false) (unequal : mark ≠ '=')
    (unjoined : mark ≠ '&') (pairs : List (String × String)) : mark ∉ encodePairs pairs := by
  induction pairs with
  | nil => exact List.not_mem_nil
  | cons pair rest ih =>
      have absent := not_mem_encodePair unwritten unequal pair
      cases rest with
      | nil => exact absent
      | cons next rest => simp [encodePairs, absent, unjoined, ih]

/-! ### Names and values -/

/-- A plus sign as the space that it stands for. -/
def spaced (c : Char) : Char := if c = '+' then ' ' else c

/-- The text that is written for a name or a value. -/
def decodeText? (written : List Char) : Option String :=
  Bytes.text? (Percent.decode (written.map spaced))

theorem map_spaced {written : List Char} (other : ∀ c ∈ written, c ≠ '+') :
    written.map spaced = written := by
  have kept : written.map spaced = written.map id :=
    List.map_congr_left fun c member => if_neg (other c member)
  rw [kept, List.map_id]

/-- A character is read back from what is written for it. -/
theorem decode_encodeChar (c : Char) (rest : List Char) :
    Percent.decode ((encodeChar c).map spaced ++ rest) =
      String.utf8EncodeChar c ++ Percent.decode rest := by
  unfold encodeChar Percent.encodeChar
  split
  · rename_i space
    subst space
    exact Percent.decode_cons (by decide) rest
  split
  · rename_i plain
    have apart : c ≠ '+' ∧ c ≠ '%' :=
      ⟨by rintro rfl; exact absurd plain (by decide), by rintro rfl; exact absurd plain (by decide)⟩
    rw [map_spaced (by simpa using apart.1)]
    exact Percent.decode_cons apart.2 rest
  · rw [map_spaced, Percent.decode_escapes]
    intro written member
    obtain ⟨byte, -, within⟩ := List.mem_flatMap.mp member
    exact (isWritten_of_mem_escape within).2

/-- A text is read back from what is written for it. -/
theorem decodeText?_encodeText (text : String) : decodeText? (encodeText text) = some text := by
  have octets : ∀ characters : List Char,
      Percent.decode ((characters.flatMap encodeChar).map spaced) =
        characters.flatMap String.utf8EncodeChar := by
    intro characters
    induction characters with
    | nil => rfl
    | cons c characters ih =>
        rw [List.flatMap_cons, List.map_append, decode_encodeChar, ih, List.flatMap_cons]
  have read : Percent.decode ((encodeText text).map spaced) = Bytes.ofText text :=
    octets text.toList
  rw [decodeText?, read, Bytes.text?_ofText]

theorem encodeText_injective : Function.Injective encodeText := by
  intro first second same
  have read := congrArg decodeText? same
  rw [decodeText?_encodeText, decodeText?_encodeText] at read
  exact Option.some.inj read

/-! ### Pairs -/

/-- Texts that are split by a mark which is in neither of their fronts are split alike. -/
theorem split_unique {front other back behind : List Char} (absent : mark ∉ front)
    (missing : mark ∉ other) (same : front ++ mark :: back = other ++ mark :: behind) :
    front = other ∧ back = behind := by
  have cut := congrArg (Url.cutAt mark) same
  rw [Url.cutAt_append absent, Url.cutAt_append missing] at cut
  simpa using cut

theorem encodePair_injective : Function.Injective encodePair := by
  rintro ⟨name, value⟩ ⟨other, another⟩ same
  obtain ⟨names, values⟩ := split_unique (not_mem_encodeText (by decide) name)
    (not_mem_encodeText (by decide) other) same
  exact Prod.ext (encodeText_injective names) (encodeText_injective values)

theorem encodePairs_cons_ne_nil (pair : String × String) (rest : List (String × String)) :
    encodePairs (pair :: rest) ≠ [] := by
  cases rest <;> simp [encodePairs, encodePair]

/-- The pairs are told by what is written. -/
theorem encodePairs_injective : Function.Injective encodePairs := by
  have unjoined : ∀ pair, '&' ∉ encodePair pair := not_mem_encodePair (by decide) (by decide)
  intro pairs
  induction pairs with
  | nil =>
      rintro (_ | ⟨pair, rest⟩) same
      · rfl
      · exact absurd same.symm (encodePairs_cons_ne_nil pair rest)
  | cons pair rest ih =>
      rintro (_ | ⟨other, others⟩) same
      · exact absurd same (encodePairs_cons_ne_nil pair rest)
      -- A pair ends at the first mark that joins it to the next, or at the end.
      cases rest with
      | nil =>
          cases others with
          | nil => rw [encodePair_injective same]
          | cons another others =>
              have joined : '&' ∈ encodePair pair := by
                rw [show encodePair pair = _ from same]
                simp [encodePairs]
              exact absurd joined (unjoined pair)
      | cons next rest =>
          cases others with
          | nil =>
              have joined : '&' ∈ encodePair other := by
                rw [show encodePair other = _ from same.symm]
                simp [encodePairs]
              exact absurd joined (unjoined other)
          | cons another others =>
              obtain ⟨first, later⟩ := split_unique (unjoined pair) (unjoined other) same
              rw [encodePair_injective first, ih later]

/-- A query determines the pairs that it carries. -/
theorem encode_injective : Function.Injective encode := by
  intro first second same
  exact encodePairs_injective (String.ofList_inj.mp same)

theorem not_mem_encode (unwritten : isWritten mark = false) (unequal : mark ≠ '=')
    (unjoined : mark ≠ '&') (pairs : List (String × String)) : mark ∉ (encode pairs).toList := by
  rw [encode, String.toList_ofList]
  exact not_mem_encodePairs unwritten unequal unjoined pairs

/-- A query is written with characters of names and values and the marks between them. -/
theorem mem_encode {pairs : List (String × String)} {c : Char}
    (member : c ∈ (encode pairs).toList) : isWritten c = true ∨ c = '=' ∨ c = '&' := by
  by_contra other
  simp only [not_or, Bool.not_eq_true] at other
  exact not_mem_encode other.1 other.2.1 other.2.2 pairs member

/-! ### Reading queries -/

/-- The name and the value that are written for a pair. A value that is missing is empty. -/
def decodePair? (written : List Char) : Option (String × String) := do
  let name ← decodeText? (Url.cutAt '=' written).1
  let value ← decodeText? ((Url.cutAt '=' written).2.getD [])
  return (name, value)

/-- The pairs that a query carries, in order. What is empty is no pair. -/
def decode? (query : String) : Option (List (String × String)) :=
  ((Split.pieces (· == '&') query.toList).filter (· ≠ [])).mapM decodePair?

theorem decodePair?_encodePair (pair : String × String) :
    decodePair? (encodePair pair) = some pair := by
  have cut : Url.cutAt '=' (encodePair pair) = (encodeText pair.1, some (encodeText pair.2)) :=
    Url.cutAt_append (not_mem_encodeText (by decide) pair.1)
  rw [decodePair?, cut, Option.getD_some, decodeText?_encodeText, decodeText?_encodeText]
  rfl

theorem pieces_encodePair (pair : String × String) :
    Split.pieces (· == '&') (encodePair pair) = [encodePair pair] := by
  apply Split.pieces_of_unseparated
  intro c member
  rw [beq_eq_false_iff_ne]
  rintro rfl
  exact not_mem_encodePair (by decide) (by decide) pair member

/-- The marks between pairs separate them. -/
theorem pieces_encodePairs (pair : String × String) (rest : List (String × String)) :
    Split.pieces (· == '&') (encodePairs (pair :: rest)) = (pair :: rest).map encodePair := by
  have apart : ∀ front back : List Char, Split.pieces (· == '&') (front ++ '&' :: back) =
      Split.pieces (· == '&') front ++ Split.pieces (· == '&') back := Split.pieces_append rfl
  induction rest generalizing pair with
  | nil => exact pieces_encodePair pair
  | cons next rest ih =>
      rw [encodePairs, apart, pieces_encodePair, ih]
      · rfl
      · simp

/-- The pairs are read back from the query that carries them. -/
theorem decode?_encode (pairs : List (String × String)) : decode? (encode pairs) = some pairs := by
  have parts : (Split.pieces (· == '&') (encodePairs pairs)).filter (· ≠ []) =
      pairs.map encodePair := by
    cases pairs with
    | nil => rfl
    | cons pair rest =>
        rw [pieces_encodePairs, List.filter_eq_self]
        intro written member
        obtain ⟨pair, -, rfl⟩ := List.mem_map.mp member
        simp [encodePair]
  rw [decode?, encode, String.toList_ofList, parts]
  clear parts
  induction pairs with
  | nil => rfl
  | cons pair rest ih =>
      rw [List.map_cons, List.mapM_cons, decodePair?_encodePair, ih]
      rfl

end Form
end DidRegistry

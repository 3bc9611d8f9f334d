import DidRegistry.Proofs.Text.Percent
import DidRegistry.Proofs.Url.DomainName
import DidRegistry.Url.Reader
import Mathlib.Data.Nat.Digits.Defs

/-!
How authorities are written. In the text of a URL of the web, an authority goes up to the first
slash, question mark or hash. None of these is in the text of an authority that has been read, and
this text is not empty (`Url.IsWritten`), so it is found again in front of whatever path follows it.
-/

namespace DidRegistry.Url

/-! ### Texts without delimiters -/

/-- The characters that end an authority, and those that do not count. -/
def delimiters : List Char := ['/', '\\', '?', '#', '\t', '\n', '\r']

/-- A text without delimiters. -/
def Undelimited (text : List Char) : Prop := ∀ c ∈ text, c ∉ delimiters

instance (text : List Char) : Decidable (Undelimited text) :=
  List.decidableBAll (fun c => c ∉ delimiters) text

variable {text other : List Char}

theorem Undelimited.nil : Undelimited [] := by
  intro c member
  cases member

theorem Undelimited.append (first : Undelimited text) (second : Undelimited other) :
    Undelimited (text ++ other) := by
  intro c member
  rcases List.mem_append.mp member with before | behind
  · exact first c before
  · exact second c behind

theorem Undelimited.ofString {text : String} (written : Undelimited text.toList)
    {rest : String} (others : Undelimited rest.toList) : Undelimited (text ++ rest).toList := by
  rw [String.toList_append]
  exact written.append others

/-- Escapes have no delimiters. -/
theorem undelimited_encode {kept : Char → Bool} (excludes : ∀ mark ∈ delimiters, kept mark = false)
    (text : List Char) : Undelimited (Percent.encode kept text) := by
  have marks : ∀ mark ∈ delimiters, mark ≠ '%' ∧ mark.isAlphanum = false := by simp [delimiters]
  intro c member mark
  rcases Percent.mem_encode member with ⟨-, stays⟩ | percent | alphanum
  · rw [excludes c mark] at stays
    cases stays
  · exact (marks c mark).1 percent
  · rw [(marks c mark).2] at alphanum
    cases alphanum

theorem undelimited_intercalate {separator : String} {parts : List String}
    (between : Undelimited separator.toList) (all : ∀ part ∈ parts, Undelimited part.toList) :
    Undelimited (separator.intercalate parts).toList := by
  induction parts with
  | nil => exact .nil
  | cons part rest ih =>
      have first := all part (List.mem_cons_self ..)
      have others := ih fun other member => all other (List.mem_cons_of_mem _ member)
      cases rest with
      | nil =>
          rw [String.intercalate_singleton]
          exact first
      | cons next rest =>
          rw [String.intercalate_cons_cons]
          exact (first.ofString between).ofString others

/-! ### Numerals -/

/-- The digits of a number in a base of at most sixteen. -/
theorem undelimited_toDigits {base : Nat} (least : 1 < base) (most : base ≤ 16) (value : Nat) :
    Undelimited (Nat.toDigits base value) := by
  have digit : ∀ digit : Fin 16, (Nat.digitChar digit) ∉ delimiters := by decide
  induction value using Nat.strongRecOn with
  | ind value ih =>
      rw [Nat.toDigits_eq_if least]
      by_cases small : value < base
      · rw [if_pos small]
        intro c member
        rw [List.mem_singleton.mp member]
        exact digit ⟨value, by omega⟩
      · rw [if_neg small]
        refine (ih _ (Nat.div_lt_self (by omega) least)).append ?_
        intro c member
        have below := Nat.mod_lt value (by omega : 0 < base)
        rw [List.mem_singleton.mp member]
        exact digit ⟨value % base, by omega⟩

theorem undelimited_toString (value : Nat) : Undelimited (toString value).toList := by
  rw [Nat.toString_eq_ofList_toDigits, String.toList_ofList]
  exact undelimited_toDigits (by omega) (by omega) value

/-! ### Hosts -/

/-- A text that stands where it is looked for: it is not empty, and nothing in it ends it. -/
structure IsWritten (text : List Char) : Prop where
  undelimited : Undelimited text
  ne_nil : text ≠ []

theorem isWritten_ipv4 (address : Nat) : IsWritten (Host.ipv4 address).render.toList := by
  constructor
  · refine undelimited_intercalate (by decide) ?_
    intro part member
    obtain ⟨shift, -, rfl⟩ := List.mem_map.mp member
    exact undelimited_toString _
  · simp [Host.render, Host.renderIpv4, String.intercalate_cons_cons]

theorem undelimited_renderPieces (pieces : List Nat) :
    Undelimited (Host.renderPieces pieces).toList := by
  refine undelimited_intercalate (by decide) ?_
  intro part member
  obtain ⟨piece, -, rfl⟩ := List.mem_map.mp member
  rw [String.toList_ofList]
  exact undelimited_toDigits (by omega) (by omega) piece

theorem isWritten_ipv6 (pieces : List Nat) : IsWritten (Host.ipv6 pieces).render.toList := by
  have inside : Undelimited (Host.renderIpv6 pieces).toList := by
    unfold Host.renderIpv6
    simp only []
    split
    · exact undelimited_renderPieces pieces
    · have double : Undelimited "::".toList := by decide
      exact ((undelimited_renderPieces _).ofString double).ofString (undelimited_renderPieces _)
  constructor
  · have opening : Undelimited "[".toList := by decide
    have closing : Undelimited "]".toList := by decide
    exact (opening.ofString inside).ofString closing
  · simp [Host.render]

/-- Hosts of the web are written in allowed characters. -/
theorem isWritten_host {text : List Char} {host : Host} (read : Host.parse true text = .ok host) :
    IsWritten host.render.toList := by
  have bracketed : ∀ {text : List Char}, Host.parseBracketed text = .ok host →
      IsWritten host.render.toList := by
    intro text read
    unfold Host.parseBracketed Host.parseIpv6 at read
    split at read
    · simp only [] at read
      split at read
      · cases read
        exact isWritten_ipv6 _
      · cases read
    · cases read
  have named : ∀ {text : List Char}, Host.parseDomain text = .ok host →
      IsWritten host.render.toList := by
    intro text read
    unfold Host.parseDomain at read
    split at read
    · cases read
    · rename_i written decoded
      split at read
      · cases read
      rename_i nonempty
      split at read
      · unfold Host.parseIpv4 at read
        split at read
        · cases read
          exact isWritten_ipv4 _
        · cases read
      · cases read
        obtain ⟨name, -, letters⟩ := Option.bind_eq_some_iff.mp decoded
        have refused : ∀ mark ∈ delimiters, DomainName.isRefused mark = true :=
          List.all_eq_true.mp (by decide)
        constructor
        · intro c member mark
          rw [Host.render, String.toList_ofList] at member
          have allowed := DomainName.isRefused_of_mem letters member
          rw [refused c mark] at allowed
          cases allowed
        · rw [Host.render, String.toList_ofList]
          exact nonempty
  unfold Host.parse at read
  split at read
  · exact bracketed read
  · rw [if_pos rfl] at read
    exact named read

/-! ### Authorities -/

theorem undelimited_keptInUser (text : List Char) :
    Undelimited (escaped keptInUser text).toList := by
  have excludes : ∀ mark ∈ delimiters, keptInUser mark = false := by
    simp [delimiters, keptInUser, keptInPath, keptInFragment, Host.isPrintable]
  rw [escaped, String.toList_ofList]
  exact undelimited_encode excludes text

/-- Who asks is written with escapes for delimiters. -/
theorem undelimited_user (text : List Char) :
    Undelimited (user text).1.toList ∧ ∀ word ∈ (user text).2, Undelimited word.toList := by
  unfold user
  split
  · refine ⟨undelimited_keptInUser _, ?_⟩
    rintro _ ⟨⟩
    exact undelimited_keptInUser _
  · exact ⟨undelimited_keptInUser _, by simp⟩

theorem undelimited_renderUser {authority : Authority}
    (name : Undelimited authority.username.toList)
    (password : ∀ word ∈ authority.password, Undelimited word.toList) :
    Undelimited authority.renderUser.toList := by
  have sign : Undelimited "@".toList := by decide
  have colon : Undelimited ":".toList := by decide
  obtain ⟨username, word, host, port⟩ := authority
  cases word with
  | none =>
      unfold Authority.renderUser
      split
      · exact .nil
      · exact name.ofString sign
      · rename_i given
        cases given
  | some word =>
      unfold Authority.renderUser
      split
      · rename_i given
        cases given
      · rename_i given _
        cases given
      · rename_i given
        cases given
        exact ((name.ofString colon).ofString (password word rfl)).ofString sign

/-- An authority that is read has a user and a host that are read, and nothing is left over but what
stands behind a backslash. -/
theorem exists_of_parseAuthority {scheme : String} {ofWeb last : Bool} {text leftover : List Char}
    {authority : Authority}
    (read : parseAuthority scheme ofWeb last text = .ok (authority, leftover)) :
    ∃ who place, (who, place) = (cutAtLastSign text).getD ([], text) ∧
      (authority.username, authority.password) = user who ∧
      Host.parse ofWeb (cutAtPort false place).1 = .ok authority.host ∧
      leftover = (((cutAtPort false place).2.drop 1).span (· != '\\')).2 := by
  unfold parseAuthority at read
  simp only [bind, Except.bind, pure, Except.pure, throw, throwThe, MonadExceptOf.throw] at read
  split at read
  · cases read
  split at read
  · cases read
  split at read
  · cases read
  rename_i host parsed
  split at read
  · cases read
  split at read
  · cases read
  split at read
  · cases read
  cases read
  exact ⟨_, _, rfl, rfl, parsed, rfl⟩

theorem cutAtPort_append (inBrackets : Bool) (text : List Char) :
    (cutAtPort inBrackets text).1 ++ (cutAtPort inBrackets text).2 = text := by
  induction text generalizing inBrackets with
  | nil => rfl
  | cons c rest ih =>
      unfold cutAtPort
      split
      · rfl
      · rw [List.cons_append, ih]

/-- What stands behind the last `@` is part of the text. -/
theorem mem_of_cutAtLastSign {text who place : List Char} {c : Char}
    (cut : (who, place) = (cutAtLastSign text).getD ([], text)) (member : c ∈ place) :
    c ∈ text := by
  unfold cutAtLastSign at cut
  split at cut
  · rename_i behind sign before split
    cases cut
    rw [List.span_eq_takeWhile_dropWhile, Prod.mk.injEq] at split
    rw [← split.1, List.mem_reverse] at member
    exact List.mem_reverse.mp (List.takeWhile_subset _ member)
  · cases cut
    exact member

/-- Without a backslash nothing is left over. -/
theorem leftover_eq_nil {scheme : String} {ofWeb last : Bool} {text leftover : List Char}
    {authority : Authority}
    (read : parseAuthority scheme ofWeb last text = .ok (authority, leftover))
    (absent : '\\' ∉ text) : leftover = [] := by
  obtain ⟨who, place, cut, -, -, rfl⟩ := exists_of_parseAuthority read
  rw [List.span_eq_takeWhile_dropWhile, List.dropWhile_eq_nil_iff]
  intro c member
  refine bne_iff_ne.mpr ?_
  rintro rfl
  have behind : '\\' ∈ (cutAtPort false place).2 := List.mem_of_mem_drop member
  have within : '\\' ∈ place := by
    rw [← cutAtPort_append false place]
    exact List.mem_append_right _ behind
  exact absent (mem_of_cutAtLastSign cut within)

/-- Authorities of the web are written in allowed characters. -/
theorem isWritten_authority {scheme : String} {last : Bool} {text leftover : List Char}
    {authority : Authority}
    (read : parseAuthority scheme true last text = .ok (authority, leftover)) :
    IsWritten authority.render.toList := by
  obtain ⟨who, place, -, named, host, -⟩ := exists_of_parseAuthority read
  obtain ⟨name, password⟩ := undelimited_user who
  rw [← named] at name password
  have written := isWritten_host host
  constructor
  · refine ((undelimited_renderUser name password).ofString written.undelimited).ofString ?_
    split
    · have colon : Undelimited ":".toList := by decide
      exact colon.ofString (undelimited_toString _)
    · exact .nil
  · intro empty
    simp only [Authority.render, String.toList_append, List.append_eq_nil_iff] at empty
    exact written.ne_nil empty.1.2

end DidRegistry.Url

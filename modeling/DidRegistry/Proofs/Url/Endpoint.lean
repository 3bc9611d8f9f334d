import DidRegistry.Job.Registrar
import DidRegistry.Services
import Mathlib.Control.Monad.Basic

/-!
URLs of endpoints. Every URL of HTTP has a path with segments, so a registrar whose base URL is of
HTTP has all its endpoints, and they are of HTTP (`exists_endpointUrl`).
-/

namespace DidRegistry

namespace Url

theorem parsePlace_path {scheme : String} {ofWeb : Bool} {remainder : Remainder} {text : List Char}
    {authority : Option Authority} {path : Path}
    (read : parsePlace scheme ofWeb remainder text = .ok (authority, path)) :
    ∃ list, path = .segments list := by
  unfold parsePlace at read
  simp only [bind, Except.bind] at read
  split at read
  · cases read
  · cases read
    exact ⟨_, rfl⟩

theorem kind_of_isWeb {scheme : List Char}
    (web : (String.ofList scheme == "http" || String.ofList scheme == "https") = true) :
    kind scheme = .web := by
  unfold kind
  rw [if_pos]
  rcases Bool.or_eq_true_iff.mp web with same | same
  · rw [eq_of_beq same]
    decide
  · rw [eq_of_beq same]
    decide

/-- A URL of HTTP is read as a place with an authority, and what is cut off behind it. -/
theorem place_of_isWeb {text : String} {url : Url} (read : parse text = .ok url)
    (web : url.isWeb = true) :
    ∃ scheme rest, scheme? (trimmed text.toList) = some (scheme, rest) ∧
      parsePlace url.scheme true (Remainder.ofText rest)
        ((unbroken (Remainder.ofText rest).place).dropWhile (isSlash true)) =
          .ok (url.authority, url.path) ∧
      url.query = (Remainder.ofText rest).query.map (escaped (keptInQuery true)) ∧
      url.fragment = (Remainder.ofText rest).fragment.map (escaped keptInFragment) := by
  unfold parse at read
  split at read
  · cases read
  · rename_i scheme rest begins
    simp only [bind, Except.bind] at read
    split at read
    · cases read
    · rename_i place parsed
      obtain ⟨authority, path⟩ := place
      cases read
      have ofWeb : kind scheme = .web := kind_of_isWeb web
      simp only [parseByKind, ofWeb] at parsed
      refine ⟨scheme, rest, begins, parsed, ?_, rfl⟩
      simp only [ofWeb]
      rfl

/-- A URL of HTTP has a path with segments. -/
theorem path_of_isWeb {text : String} {url : Url} (read : parse text = .ok url)
    (web : url.isWeb = true) : ∃ list, url.path = .segments list := by
  obtain ⟨scheme, rest, -, parsed, -, -⟩ := place_of_isWeb read web
  exact parsePlace_path parsed

end Url

/-- The base URLs of usable settings are read from their texts. -/
theorem Services.registrar_of_settings {settings : Settings} {services : Services}
    (usable : Services.ofSettings settings = .ok services) :
    Settings.baseUrl settings.registrarUrl = .ok services.registrar := by
  unfold Services.ofSettings at usable
  simp only [bind, Except.bind] at usable
  split at usable
  · cases usable
  split at usable
  · cases usable
  split at usable
  · cases usable
  · rename_i registrar read
    cases usable
    exact read

theorem Services.resolver_of_settings {settings : Settings} {services : Services}
    (usable : Services.ofSettings settings = .ok services) :
    Settings.baseUrl settings.resolverUrl = .ok services.resolver := by
  unfold Services.ofSettings at usable
  simp only [bind, Except.bind] at usable
  split at usable
  · cases usable
  rename_i resolver read
  split at usable
  · cases usable
  split at usable
  · cases usable
  · cases usable
    exact read

theorem Settings.parse_of_baseUrl {text : String} {url : Url} (read : baseUrl text = .ok url) :
    Url.parse (slashEnded text) = .ok url := by
  unfold baseUrl at read
  split at read
  · cases read
    assumption
  · cases read

def Services.standard : Services where
  settings := .standard
  registrar :=
    ⟨"http", some ⟨"", none, .name "localhost", some 3000⟩, .segments ["1.0", ""], none, none⟩
  resolver :=
    ⟨"http", some ⟨"", none, .name "localhost", some 8080⟩,
      .segments ["1.0", "identifiers", ""], none, none⟩

theorem Services.ofSettings_standard : Services.ofSettings .standard = .ok .standard := by
  decide +kernel

/-- An endpoint has a URL of the same kind as the registrar's, unless it has none. -/
theorem Registrar.isWeb_of_endpointUrl {base url : Url} {name : String}
    (found : endpointUrl base name = .ok url) : url.isWeb = base.isWeb := by
  unfold endpointUrl Url.sibling? at found
  split at found
  · rename_i sibling
    cases found
    split at sibling
    · cases sibling
      rfl
    · cases sibling
  · cases found

/-- A registrar with a base URL of HTTP has all endpoints, and they are of HTTP. -/
theorem Registrar.exists_endpointUrl {settings : Settings} {services : Services}
    (usable : Services.ofSettings settings = .ok services)
    (web : services.registrar.isWeb = true) (name : String) :
    ∃ url, Registrar.endpointUrl services.registrar name = .ok url ∧ url.isWeb = true := by
  have read := Settings.parse_of_baseUrl (Services.registrar_of_settings usable)
  obtain ⟨list, path⟩ := Url.path_of_isWeb read web
  refine ⟨{ services.registrar with
    path := .segments (list.dropLast ++ [name]), query := none, fragment := none }, ?_, web⟩
  simp only [Registrar.endpointUrl, Url.sibling?, path]

end DidRegistry

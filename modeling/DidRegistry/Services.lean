import DidRegistry.Settings.Basic

/-!
The peers of a registry: settings that can be used, together with the base URLs read from them.
-/

namespace DidRegistry

/-- Settings with the base URLs of registrar and resolver. -/
structure Services where
  settings : Settings
  registrar : Url
  resolver : Url
  deriving DecidableEq, Repr

/-- The peers that settings describe. Of two problems, one with the resolver's URL is reported
first. -/
def Services.ofSettings (settings : Settings) : Except Error Services := do
  let resolver ← Settings.baseUrl settings.resolverUrl
  settings.validate
  let registrar ← Settings.baseUrl settings.registrarUrl
  pure ⟨settings, registrar, resolver⟩

end DidRegistry

import DidRegistry.Proofs.Fault.Attribution
import DidRegistry.Proofs.Job.Bounds

/-!
Settings are checked where a registry is built from them, and the check is the whole of it: settings
are usable exactly if they pass (`Services.exists_iff_validate`). What passes need not have
endpoints, though. A registrar whose URL has a path without structure is found out only when a task
wants to send it something.

Main statement: settings that are usable are refused by some task exactly if the registrar's URL has
no endpoints (`Services.refused_later_iff`). A URL of HTTP always has them.
-/

namespace DidRegistry

/-! ### Construction -/

/-- Usable settings pass the check. -/
theorem Services.validate_of_settings {settings : Settings} {services : Services}
    (usable : Services.ofSettings settings = .ok services) : settings.validate = .ok () := by
  unfold Services.ofSettings at usable
  obtain ⟨resolver, -, checked⟩ := exists_of_bind_eq_ok usable
  obtain ⟨passed, accepted, -⟩ := exists_of_bind_eq_ok checked
  exact accepted

/-- Settings are usable exactly if they pass the check. -/
theorem Services.exists_iff_validate {settings : Settings} :
    (∃ services, Services.ofSettings settings = .ok services) ↔ settings.validate = .ok () := by
  constructor
  · rintro ⟨services, usable⟩
    exact validate_of_settings usable
  · intro accepted
    obtain ⟨services, usable, -⟩ := exists_of_validate accepted
    exact ⟨services, usable⟩

/-! ### Endpoints -/

/-- The report that a URL has no endpoint of this name. -/
def Registrar.noEndpoint (name : String) : String :=
  s!"invalid endpoint {name}: {UrlError.relativeOnRootless.message}"

/-- A URL has no endpoints exactly if its path has no structure, and says so for each of them. -/
theorem Registrar.endpointUrl_eq_error_iff {base : Url} {name : String} {error : Error} :
    endpointUrl base name = .error error ↔
      (∃ path, base.path = .rootless path) ∧ error = .config (noEndpoint name) := by
  unfold endpointUrl Url.sibling?
  cases base.path with
  | segments list => simp
  | rootless path =>
      constructor
      · intro missing
        cases missing
        exact ⟨⟨path, rfl⟩, rfl⟩
      · rintro ⟨-, rfl⟩
        rfl

/-! ### Tasks -/

/-- A task is refused for its settings only where the registrar has no endpoints. -/
theorem Task.rootless_of_refused {σ : Type} {services : Services} {task : Task}
    {surroundings : Surroundings σ} {state : σ} {reason : String}
    (refused : ((task.program services).run surroundings state).result =
      .error (.config reason)) : ∃ path, services.registrar.path = .rootless path := by
  have trace := Program.run_traces surroundings (task.program services) state
  obtain ⟨name, missing⟩ := (task.attributes.of_traces trace).1 _ refused
  exact (Registrar.endpointUrl_eq_error_iff.mp missing).1

/-- Where the registrar has no endpoints, every new resource is refused without a request. -/
theorem Task.createResource_of_rootless {services : Services} {path did network : String}
    (rootless : services.registrar.path = .rootless path)
    (named : Identifier.network did = .ok network) (payload : ResourcePayload) :
    (perform (.createResource did payload)).program services =
      .fail (.config (Registrar.noEndpoint "createResource")) := by
  have missing := Registrar.endpointUrl_eq_error_iff.mpr
    (⟨⟨path, rootless⟩, rfl⟩ : _ ∧ Error.config (Registrar.noEndpoint "createResource") = _)
  have unsent (envelope : Json) : Registrar.submit services.registrar .createResource envelope =
      .fail (.config (Registrar.noEndpoint "createResource")) := by
    unfold Registrar.submit
    rw [Endpoint.path, missing]
    rfl
  change (Resource.publish services .create did payload).bind _ = _
  rw [Resource.publish_eq named]
  change ((((Registrar.submit services.registrar .createResource _).bind _).bind _).bind _) = _
  rw [unsent]
  rfl

/-- Settings are usable exactly if they pass the check. The check does not rule out that a task
refuses them later: some task does, in some surroundings, exactly if the URL of the registrar has a
path without structure, beneath which no endpoint has a place. The URL of the resolver is no reason,
whatever it is. -/
theorem Services.refused_later_iff (settings : Settings) :
    ((∃ services, Services.ofSettings settings = .ok services) ↔ settings.validate = .ok ()) ∧
    ∀ services, Services.ofSettings settings = .ok services →
      ((∃ (task : Task) (σ : Type) (surroundings : Surroundings σ) (state : σ) (reason : String),
          ((task.program services).run surroundings state).result = .error (.config reason)) ↔
        ∃ path, services.registrar.path = .rootless path) := by
  refine ⟨exists_iff_validate, fun services _ => ⟨?_, ?_⟩⟩
  · rintro ⟨task, σ, surroundings, state, reason, refused⟩
    exact Task.rootless_of_refused refused
  · rintro ⟨path, rootless⟩
    have named : Identifier.network "did:cheqd:testnet:a" = .ok "testnet" := by decide
    refine ⟨.perform (.createResource "did:cheqd:testnet:a" ⟨"", "", "", .null⟩), Unit,
      .offline [], (), Registrar.noEndpoint "createResource", ?_⟩
    rw [Task.createResource_of_rootless rootless named]
    rfl

def Settings.mailed : Settings :=
  { standard with registrarUrl := "mailto:registrar@example.org" }

def Services.mailed : Services :=
  ⟨.mailed, ⟨"mailto", none, .rootless "registrar@example.org/", none, none⟩,
    Services.standard.resolver⟩

theorem Services.ofSettings_mailed : Services.ofSettings .mailed = .ok .mailed := by
  decide +kernel

/-- A mailbox passes the check, has no endpoints, and is refused by a task. -/
theorem Services.refused_later_iff_mailed :
    Services.ofSettings .mailed = .ok .mailed ∧ Settings.mailed.validate = .ok () ∧
      (∃ path, Services.mailed.registrar.path = .rootless path) ∧
      ∃ (task : Task) (σ : Type) (surroundings : Surroundings σ) (state : σ) (reason : String),
        ((task.program .mailed).run surroundings state).result = .error (.config reason) := by
  obtain ⟨passes, refuses⟩ := refused_later_iff .mailed
  have rootless : ∃ path, Services.mailed.registrar.path = .rootless path := ⟨_, rfl⟩
  exact ⟨ofSettings_mailed, passes.mp ⟨_, ofSettings_mailed⟩, rootless,
    (refuses _ ofSettings_mailed).mpr rootless⟩

/-- Settings that pass the check can be refused later on. -/
theorem Settings.refused_after_construction :
    Settings.mailed.validate = .ok () ∧ Services.ofSettings .mailed = .ok .mailed ∧
      (((Task.perform (.createResource "did:cheqd:testnet:a"
        ⟨"name", "type", "1", .null⟩)).program .mailed).run (.offline []) ()).result =
          .error (.config
            "invalid endpoint createResource: relative URL with a cannot-be-a-base base") := by
  refine ⟨Services.validate_of_settings Services.ofSettings_mailed, Services.ofSettings_mailed, ?_⟩
  decide +kernel

end DidRegistry

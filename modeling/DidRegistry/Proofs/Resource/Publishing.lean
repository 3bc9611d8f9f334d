import DidRegistry.Proofs.Job.Dialogue
import DidRegistry.Resource.Publishing

/-!
What publishing does: a dialogue, if the DID names a network (`publish_traces`).
-/

namespace DidRegistry.Resource

/-- The job that publishes a resource under a DID. -/
def publication (mode : Mode) (did network : String) : Job :=
  ⟨mode.endpoint, ⟨none, some did, some (Envelope.options network)⟩, none⟩

/-- A publication on a network, as a sequence. -/
theorem publish_eq {services : Services} {mode : Mode} {did network : String}
    {payload : ResourcePayload} (named : Identifier.network did = .ok network) :
    publish services mode did payload =
      ((publication mode did network).perform services.registrar services.settings.maxRounds
        (payload.envelope did network)).bind fun completed => .ofExcept (published completed) := by
  unfold publish
  rw [named]
  rfl

/-- A publication without a network is an error without exchange. -/
theorem publish_of_no_network {services : Services} {mode : Mode} {did : String}
    {payload : ResourcePayload} {error : Error} (unnamed : Identifier.network did = .error error) :
    publish services mode did payload = .fail error := by
  unfold publish
  rw [unnamed]
  rfl

/-- What a publication can come to. -/
theorem publish_traces {services : Services} {mode : Mode} {did : String}
    {payload : ResourcePayload} {exchanges : List Exchange}
    {result : Except Error PublishedResource}
    (trace : (publish services mode did payload).Traces exchanges result) :
    (exchanges = [] ∧ ∃ error, result = .error error) ∨
    ∃ network place rounds ending, Identifier.network did = .ok network ∧
      Registrar.endpointUrl services.registrar mode.endpoint.path = .ok place ∧
      exchanges = rounds.flatMap Round.exchanges ∧
      (publication mode did network).Dialogue place services.settings.maxRounds
        services.settings.maxRounds (payload.envelope did network) rounds ending ∧
      result = ending.bind published := by
  cases named : Identifier.network did with
  | error error =>
      rw [publish_of_no_network named] at trace
      exact Or.inl ⟨trace.1, error, trace.2⟩
  | ok network =>
      rw [publish_eq named] at trace
      obtain ⟨ending, driven, rfl⟩ := Program.bind_ofExcept_traces.mp trace
      rcases Job.perform_traces driven with
        ⟨rfl, error, rfl, -⟩ | ⟨place, rounds, found, -, rfl, dialogue⟩
      · exact Or.inl ⟨rfl, error, rfl⟩
      · exact Or.inr ⟨network, place, rounds, ending, rfl, found, rfl, dialogue, rfl⟩

end DidRegistry.Resource

import DidRegistry.Proofs.Interaction.Trace

/-!
What holds once a program has run against given surroundings. `Program.Ensures` speaks of the result
and of the state in which the surroundings are left; it follows the program's sequence
(`Ensures.bind`), and each call takes the surroundings one answer further (`Ensures.ask`).
-/

namespace DidRegistry.Program

/-- The program, run from this state, ends with a result and in a state that satisfy `post`. -/
structure Ensures {σ α : Type} (surroundings : Surroundings σ) (program : Program α) (state : σ)
    (post : Except Error α → σ → Prop) : Prop where
  holds : post (program.run surroundings state).result (program.run surroundings state).state

variable {σ α β : Type} {surroundings : Surroundings σ} {state : σ}

namespace Ensures

theorem done {post : Except Error α → σ → Prop} {value : α} (holds : post (.ok value) state) :
    Ensures surroundings (.done value) state post :=
  ⟨holds⟩

theorem fail {post : Except Error α → σ → Prop} {error : Error}
    (holds : post (.error error) state) : Ensures surroundings (.fail error) state post :=
  ⟨holds⟩

theorem ofExcept {post : Except Error α → σ → Prop} {value : Except Error α}
    (holds : post value state) : Ensures surroundings (.ofExcept value) state post := by
  cases value with
  | error error => exact fail holds
  | ok value => exact done holds

theorem ask {post : Except Error α → σ → Prop} {call : Call} {next : call.Answer → Program α}
    (rest : Ensures surroundings (next (surroundings.answer call state).1)
      (surroundings.answer call state).2 post) :
    Ensures surroundings (.ask call next) state post :=
  ⟨rest.holds⟩

theorem imp {program : Program α} {post weaker : Except Error α → σ → Prop}
    (ensured : Ensures surroundings program state post)
    (implies : ∀ result after, post result after → weaker result after) :
    Ensures surroundings program state weaker :=
  ⟨implies _ _ ensured.holds⟩

/-- A sequence, by way of what its first program ensures. -/
theorem bind {program : Program α} {next : α → Program β} {middle : Except Error α → σ → Prop}
    {post : Except Error β → σ → Prop} (first : Ensures surroundings program state middle)
    (stops : ∀ error after, middle (.error error) after → post (.error error) after)
    (continues : ∀ value after, middle (.ok value) after →
      Ensures surroundings (next value) after post) :
    Ensures surroundings (program.bind next) state post := by
  induction program generalizing state with
  | done value => exact continues value state first.holds
  | fail error => exact ⟨stops error state first.holds⟩
  | ask call answered ih => exact ask (ih _ ⟨first.holds⟩)

/-- A sequence that begins with a value that may be an error. -/
theorem ofExcept_bind {value : Except Error α} {next : α → Program β}
    {post : Except Error β → σ → Prop} (stops : ∀ error, post (.error error) state)
    (continues : ∀ present, value = .ok present →
      Ensures surroundings (next present) state post) :
    Ensures surroundings ((Program.ofExcept value).bind next) state post := by
  cases value with
  | error error => exact fail (stops error)
  | ok present => exact continues present rfl

/-- A request whose reply is read. It is not sent if its URL is not of HTTP. -/
theorem fetch {post : Except Error α → σ → Prop} {request : HttpRequest}
    {read : HttpReply → Except Error α} (unsent : post (.error .request) state)
    (sent : post (Delivery.read (surroundings.answer (.fetch request) state).1 read)
      (surroundings.answer (.fetch request) state).2) :
    Ensures surroundings ((Program.fetch request).bind fun reply => .ofExcept (read reply)) state
      post := by
  by_cases web : request.url.isWeb = true
  · rw [fetch_read_eq web]
    exact ask (ofExcept sent)
  · rw [fetch_of_not_web (Bool.eq_false_iff.mpr web)]
    exact fail unsent

end Ensures
end DidRegistry.Program

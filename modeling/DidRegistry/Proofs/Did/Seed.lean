import DidRegistry.Proofs.Did.Creation

/-!
What becomes of a caller's seed. Two runs of one program agree in everything as long as the
surroundings of both answer alike (`Surroundings.Alike.run`). The seed of a new DID goes to the
wallet, in the one call for a key, and what follows that call depends on the key alone
(`Did.create_eq_enrol`).

Main statement: a seed is refused before anything happens where the settings allow none; where they
do, two creations that differ in their seeds differ in nothing but this one call, provided the
wallet answers it with the same key (`Did.seed_confined`).
-/

namespace DidRegistry

/-! ### Two runs -/

/-- Two surroundings answer alike along a relation between their states: in related states they
answer every call equally, and their states stay related. -/
structure Surroundings.Alike {σ τ : Type} (first : Surroundings σ) (second : Surroundings τ)
    (related : σ → τ → Prop) : Prop where
  answers : ∀ call {state other}, related state other →
    (first.answer call state).1 = (second.answer call other).1
  stays : ∀ call {state other}, related state other →
    related (first.answer call state).2 (second.answer call other).2

/-- Surroundings answer like themselves. -/
theorem Surroundings.Alike.refl {σ : Type} (surroundings : Surroundings σ) :
    surroundings.Alike surroundings Eq where
  answers := by
    rintro call state _ rfl
    rfl
  stays := by
    rintro call state _ rfl
    rfl

/-- A program cannot tell surroundings apart that answer alike. The induction is on its tree: equal
answers lead to the same branch. -/
theorem Surroundings.Alike.run {σ τ α : Type} {first : Surroundings σ} {second : Surroundings τ}
    {related : σ → τ → Prop} (alike : first.Alike second related) (program : Program α) {state : σ}
    {other : τ} (start : related state other) :
    ∃ exchanges result after afterwards,
      program.run first state = ⟨exchanges, result, after⟩ ∧
      program.run second other = ⟨exchanges, result, afterwards⟩ ∧ related after afterwards := by
  induction program generalizing state other with
  | done value => exact ⟨[], .ok value, state, other, rfl, rfl, start⟩
  | fail error => exact ⟨[], .error error, state, other, rfl, rfl, start⟩
  | ask call next ih =>
      have same := alike.answers call start
      obtain ⟨exchanges, result, after, afterwards, one, two, stays⟩ :=
        ih (first.answer call state).1 (alike.stays call start)
      refine ⟨⟨call, (first.answer call state).1⟩ :: exchanges, result, after, afterwards, ?_, ?_,
        stays⟩
      · simp only [Program.run, one, Run.after]
      · simp only [Program.run, ← same, two, Run.after]

namespace Did

/-- A seed is refused at once where the settings allow none. Where they do, take two creations on
one network, with seeds or without, in surroundings whose wallets answer the call for a key with the
same answer and which answer alike from then on: they end alike and exchange the same, apart from
the seed in that call, and neither asks for another key. -/
theorem seed_confined (services : Services) (network : Option String) {σ τ : Type}
    (first : Surroundings σ) (second : Surroundings τ) (state : σ) (other : τ) :
    (services.settings.allowInsecureSeed = false → ∀ seed : String,
      (create services ⟨network, some seed⟩).run first state = ⟨[], .error .keyPolicy, state⟩) ∧
    (services.settings.allowInsecureSeed = true →
      ∀ (seed another : Option String) (answer : Except String Bytes) (related : σ → τ → Prop)
        (keyed : σ) (keyedOther : τ),
        first.answer (.createKey seed) state = (answer, keyed) →
        second.answer (.createKey another) other = (answer, keyedOther) →
        related keyed keyedOther → first.Alike second related →
        ∃ rest result after afterwards,
          (create services ⟨network, seed⟩).run first state =
            ⟨⟨.createKey seed, answer⟩ :: rest, result, after⟩ ∧
          (create services ⟨network, another⟩).run second other =
            ⟨⟨.createKey another, answer⟩ :: rest, result, afterwards⟩ ∧
          (∀ exchange ∈ rest, exchange.call.asksKey = false) ∧ related after afterwards) := by
  constructor
  · intro strict seed
    rw [create_eq_enrol, if_pos ⟨rfl, strict⟩]
    rfl
  · intro lenient seed another answer related keyed keyedOther one two start alike
    have allowed : ∀ given : Option String,
        ¬ (given.isSome ∧ services.settings.allowInsecureSeed = false) := by
      rintro given ⟨-, strict⟩
      rw [lenient] at strict
      cases strict
    -- After the answer, both creations are this one program.
    let following := (Program.ofExcept (Program.created answer)).bind
      (enrol services (network.getD services.settings.network))
    have begins : ∀ {ρ : Type} {peers : Surroundings ρ} {before after : ρ} (given : Option String),
        peers.answer (.createKey given) before = (answer, after) →
        (create services ⟨network, given⟩).run peers before =
          (following.run peers after).after ⟨.createKey given, answer⟩ := by
      intro ρ peers before after given answered
      rw [create_eq_enrol, if_neg (allowed given), Program.createKey_eq]
      exact Program.run_of_answer answered _
    obtain ⟨rest, result, after, afterwards, ran, ranOther, stays⟩ := alike.run following start
    refine ⟨rest, result, after, afterwards, ?_, ?_, ?_, stays⟩
    · rw [begins seed one, ran]
      rfl
    · rw [begins another two, ranOther]
      rfl
    · have within : following.Within (fun call => call.asksKey = false) fun _ => True :=
        .ofExcept_bind (fun _ _ => trivial) fun verkey _ =>
          enrol_within (fun _ _ _ => rfl) (fun _ _ _ => rfl) (fun _ => rfl) fun _ => rfl
      have trace := Program.run_traces first following keyed
      rw [ran] at trace
      exact (within.of_traces trace).1

def lenient : Services where
  settings := { Settings.standard with allowInsecureSeed := true }
  registrar := Services.standard.registrar
  resolver := Services.standard.resolver

/-- A seed is refused by the standard settings. With others, it is seen in the call for the key and
nowhere else: not even its absence changes anything behind that call. -/
theorem seed_confined_lenient :
    (create .standard ⟨none, some "s"⟩).run Script.surroundings enrolling =
      ⟨[], .error .keyPolicy, enrolling⟩ ∧
    ∃ rest result after,
      (create lenient ⟨none, some "s"⟩).run Script.surroundings enrolling =
        ⟨⟨.createKey (some "s"), .ok [7, 171]⟩ :: rest, result, after⟩ ∧
      (create lenient ⟨none, none⟩).run Script.surroundings enrolling =
        ⟨⟨.createKey none, .ok [7, 171]⟩ :: rest, result, after⟩ ∧
      ∀ exchange ∈ rest, exchange.call.asksKey = false := by
  have strict := (seed_confined .standard none Script.surroundings Script.surroundings enrolling
    enrolling).1 rfl "s"
  obtain ⟨rest, result, after, _, seeded, unseeded, others, rfl⟩ :=
    (seed_confined lenient none Script.surroundings Script.surroundings enrolling enrolling).2 rfl
      (some "s") none (.ok [7, 171]) Eq { enrolling with createKey := [] }
      { enrolling with createKey := [] } rfl rfl rfl (.refl _)
  exact ⟨strict, rest, result, after, seeded, unseeded, others⟩

end Did
end DidRegistry

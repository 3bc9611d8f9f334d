import DidRegistry.Did.Resolution
import DidRegistry.Proofs.Interaction.Ensures
import DidRegistry.Proofs.Interaction.Submission
import DidRegistry.Proofs.Url.Continuation

/-!
What a lookup does: it asks the resolver with one request at most (`lookup_traces`), fails in three
ways only (`lookup_within`), and comes to what the answer reads as (`lookup_ensures`). A resolver of
HTTP can be asked about every identifier if its own URL is read from its text, and otherwise about
none (`exists_identifierUrl_iff`).
-/

namespace DidRegistry.Resolver

/-- The request for what the resolver knows about an identifier. -/
def inquiry (url : Url) (form : String) : HttpRequest := ⟨url, form, none⟩

/-- A lookup as a sequence. -/
theorem lookup_eq (base : Url) (form id : String) :
    lookup base form id = (Program.ofExcept (identifierUrl base id)).bind fun url =>
      (Program.fetch (inquiry url form)).bind fun reply => .ofExcept (body? url reply) :=
  rfl

/-- A resolver that can be asked about every identifier. -/
def IsReachable (base : Url) : Prop :=
  ∀ id, ∃ url, identifierUrl base id = .ok url ∧ url.isWeb = true

/-- A resolver of HTTP has a URL for an identifier, which is of HTTP, exactly if the text of its own
URL is read. -/
theorem exists_identifierUrl_iff {settings : Settings} {services : Services}
    (usable : Services.ofSettings settings = .ok services)
    (web : services.resolver.isWeb = true) (id : String) :
    (∃ url, identifierUrl services.resolver id = .ok url ∧ url.isWeb = true) ↔
      services.resolver.IsReadable := by
  have read := Settings.parse_of_baseUrl (Services.resolver_of_settings usable)
  rw [← Url.parse_append_iff read web id, identifierUrl]
  cases parsed : Url.parse (services.resolver.render ++ id) with
  | ok url =>
      have urlWeb : url.isWeb = true := (Url.isWeb_of_parse_append read parsed).trans web
      exact iff_of_true ⟨url, rfl, urlWeb⟩ ⟨url, rfl⟩
  | error problem => exact iff_of_false (by rintro ⟨_, ⟨⟩, -⟩) (by rintro ⟨_, ⟨⟩⟩)

/-- A resolver of HTTP can be asked about every identifier, if its own text is read. -/
theorem isReachable_of_isReadable {settings : Settings} {services : Services}
    (usable : Services.ofSettings settings = .ok services)
    (web : services.resolver.isWeb = true) (readable : services.resolver.IsReadable) :
    IsReachable services.resolver :=
  fun id => (exists_identifierUrl_iff usable web id).mpr readable

/-- Otherwise it cannot be asked about any. -/
theorem unasked_of_not_isReadable {settings : Settings} {services : Services}
    (usable : Services.ofSettings settings = .ok services)
    (web : services.resolver.isWeb = true) (unreadable : ¬ services.resolver.IsReadable)
    (id : String) :
    ∃ reason, identifierUrl services.resolver id = .error (.invalidIdentifier reason) := by
  have read := Settings.parse_of_baseUrl (Services.resolver_of_settings usable)
  rw [identifierUrl]
  cases parsed : Url.parse (services.resolver.render ++ id) with
  | ok url => exact absurd ((Url.parse_append_iff read web id).mp ⟨url, parsed⟩) unreadable
  | error problem => exact ⟨_, rfl⟩

/-- The text of a resolver's URL is read if it is configured just so. -/
theorem isReadable_of_render_eq {settings : Settings} {services : Services}
    (usable : Services.ofSettings settings = .ok services)
    (shown : services.resolver.render = Settings.slashEnded settings.resolverUrl) :
    services.resolver.IsReadable := by
  refine ⟨services.resolver, ?_⟩
  rw [shown]
  exact Settings.parse_of_baseUrl (Services.resolver_of_settings usable)

theorem isReadable_standard : Services.standard.resolver.IsReadable :=
  isReadable_of_render_eq Services.ofSettings_standard (by decide +kernel)

/-- A resolver that is asked over HTTP only. -/
def AsksWeb (base : Url) : Prop :=
  ∀ id url, identifierUrl base id = .ok url → url.isWeb = true

theorem isWeb_of_identifierUrl {settings : Settings} {services : Services} {id : String}
    {url : Url} (usable : Services.ofSettings settings = .ok services)
    (found : identifierUrl services.resolver id = .ok url) :
    url.isWeb = services.resolver.isWeb := by
  have read := Settings.parse_of_baseUrl (Services.resolver_of_settings usable)
  unfold identifierUrl at found
  split at found
  · rename_i parsed
    cases found
    exact Url.isWeb_of_parse_append read parsed
  · cases found

theorem asksWeb_of_isWeb {settings : Settings} {services : Services}
    (usable : Services.ofSettings settings = .ok services)
    (web : services.resolver.isWeb = true) : AsksWeb services.resolver :=
  fun _ _ found => (isWeb_of_identifierUrl usable found).trans web

/-- A resolver that can be asked about one identifier can be asked about every other. -/
theorem isReachable_of_identifierUrl {settings : Settings} {services : Services} {id : String}
    {url : Url} (usable : Services.ofSettings settings = .ok services)
    (found : identifierUrl services.resolver id = .ok url) (web : url.isWeb = true) :
    IsReachable services.resolver := by
  have baseWeb := (isWeb_of_identifierUrl usable found).symm.trans web
  exact isReachable_of_isReadable usable baseWeb
    ((exists_identifierUrl_iff usable baseWeb id).mp ⟨url, found, web⟩)

-- How a URL is read from its text does not matter for what is done with it.
attribute [local irreducible] identifierUrl

/-- The request for what the resolver knows about an identifier, if one can be sent. -/
def request? (base : Url) (form id : String) : Option HttpRequest :=
  match identifierUrl base id with
  | .ok url => if url.isWeb then some (inquiry url form) else none
  | .error _ => none

theorem request?_eq_some {base url : Url} {id : String} (form : String)
    (found : identifierUrl base id = .ok url) (web : url.isWeb = true) :
    request? base form id = some (inquiry url form) := by
  simp only [request?, found]
  exact if_pos web

theorem exists_of_request? {base : Url} {form id : String} {request : HttpRequest}
    (asked : request? base form id = some request) :
    ∃ url, identifierUrl base id = .ok url ∧ url.isWeb = true ∧ request = inquiry url form := by
  unfold request? at asked
  split at asked
  · rename_i url identified
    split at asked
    · rename_i web
      cases asked
      exact ⟨url, identified, web, rfl⟩
    · cases asked
  · cases asked

theorem identifierUrl_of_request? {base url : Url} {form id : String}
    (asked : request? base form id = some (inquiry url form)) :
    identifierUrl base id = .ok url := by
  obtain ⟨_, identified, -, ⟨⟩⟩ := exists_of_request? asked
  exact identified

theorem body_of_request? {base : Url} {form id : String} {request : HttpRequest}
    (asked : request? base form id = some request) : request.body = none := by
  obtain ⟨_, -, -, rfl⟩ := exists_of_request? asked
  rfl

/-- What the resolver knows about an identifier is asked for with one request, if one can be
sent. -/
theorem lookup_traces {base : Url} {form id : String} {exchanges : List Exchange}
    {result : Except Error (Option Value)}
    (trace : (lookup base form id).Traces exchanges result) :
    (request? base form id = none ∧ exchanges = [] ∧ ∃ error, result = .error error) ∨
      ∃ url, ∃ delivery : Delivery, identifierUrl base id = .ok url ∧
        request? base form id = some (inquiry url form) ∧
        exchanges = [⟨.fetch (inquiry url form), delivery⟩] ∧
        result = delivery.read (body? url) := by
  rw [lookup_eq] at trace
  rcases Program.ofExcept_bind_traces.mp trace with
    ⟨error, missing, none, failed⟩ | ⟨url, found, asked⟩
  · exact Or.inl ⟨by simp only [request?, missing], none, error, failed⟩
  · by_cases web : (inquiry url form).url.isWeb = true
    · rw [Program.fetch_read_eq web] at asked
      obtain ⟨delivery, made, read⟩ := Program.ask_traces.mp asked
      exact Or.inr ⟨url, delivery, found, request?_eq_some form found web, made, read⟩
    · rw [Program.fetch_of_not_web (Bool.eq_false_iff.mpr web)] at asked
      exact Or.inl ⟨by simp only [request?, found]; exact if_neg web, asked.1, _, asked.2⟩

/-- A lookup ends well if its request is sent and replied to, and the reply can be read. -/
theorem lookup_traces_ok {base : Url} {form id : String} {exchanges : List Exchange}
    {body : Option Value} :
    (lookup base form id).Traces exchanges (.ok body) ↔
      ∃ url reply, identifierUrl base id = .ok url ∧ url.isWeb = true ∧
        exchanges = [⟨.fetch (inquiry url form), .replied reply⟩] ∧
        body? url reply = .ok body := by
  rw [lookup_eq, Program.ofExcept_bind_traces_ok]
  refine exists_congr ?_
  intro url
  by_cases web : (inquiry url form).url.isWeb = true
  · rw [Program.fetch_read_eq web, Program.ask_traces]
    constructor
    · rintro ⟨found, delivery, made, read⟩
      cases delivery with
      | replied reply => exact ⟨reply, found, web, made, read.symm⟩
      | dropped => cases read
      | refused => cases read
    · rintro ⟨reply, found, -, made, read⟩
      exact ⟨found, .replied reply, made, read.symm⟩
  · rw [Program.fetch_of_not_web (Bool.eq_false_iff.mpr web)]
    constructor
    · rintro ⟨-, -, ⟨⟩⟩
    · rintro ⟨-, -, also, -⟩
      exact absurd also web

/-- A body is had from a reply with a status of success that brings JSON. -/
theorem body?_eq_some_iff {url : Url} {reply : HttpReply} {body : Value} :
    body? url reply = .ok (some body) ↔
      (200 ≤ reply.status ∧ reply.status < 300) ∧ Value.ofBytes? reply.body = some body := by
  unfold body?
  by_cases status : 200 ≤ reply.status ∧ reply.status < 300
  · have known : ¬ (reply.status = 404 ∨ reply.status = 410) := by omega
    rw [if_neg known, if_pos status]
    cases Value.ofBytes? reply.body <;> simp [status]
  · rw [if_neg status]
    by_cases unknown : reply.status = 404 ∨ reply.status = 410
    · rw [if_pos unknown]
      simp [status]
    · rw [if_neg unknown]
      simp [status]

/-- A lookup makes no call but its request. Its errors are that of an identifier that makes no URL,
that of a request without a readable answer, and that of a status that means failure. -/
theorem lookup_within {base : Url} {form id : String} {calls : Call → Prop} {errors : Error → Prop}
    (asks : ∀ url, identifierUrl base id = .ok url → calls (.fetch (inquiry url form)))
    (unidentified : ∀ reason, errors (.invalidIdentifier reason)) (unread : errors .request)
    (failed : ∀ url status, errors (.transport url status)) :
    (lookup base form id).Within calls errors := by
  rw [lookup_eq]
  refine .ofExcept_bind ?_ ?_
  · intro error missing
    unfold identifierUrl at missing
    split at missing
    · cases missing
    · cases missing
      exact unidentified _
  · intro url found
    refine .bind (.fetch (asks url found) unread) ?_
    intro reply
    refine .ofExcept ?_
    intro error problem
    unfold body? at problem
    split at problem
    · cases problem
    · split at problem
      · split at problem
        · cases problem
        · cases problem
          exact unread
      · cases problem
        exact failed _ _

/-- A lookup fails unasked, or comes to what the surroundings answer. -/
theorem lookup_ensures {σ : Type} {surroundings : Surroundings σ} {state : σ} {base : Url}
    {form id : String} {post : Except Error (Option Value) → σ → Prop}
    (unasked : ∀ error, post (.error error) state)
    (asked : ∀ url, identifierUrl base id = .ok url →
      post (Delivery.read (surroundings.answer (.fetch (inquiry url form)) state).1 (body? url))
        (surroundings.answer (.fetch (inquiry url form)) state).2) :
    Program.Ensures surroundings (lookup base form id) state post := by
  rw [lookup_eq]
  refine .ofExcept_bind unasked ?_
  intro url found
  exact .fetch (unasked .request) (asked url found)

end DidRegistry.Resolver

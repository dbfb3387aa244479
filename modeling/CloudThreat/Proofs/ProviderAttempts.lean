import CloudThreat.Proofs.ProviderFallback

namespace CloudThreat

/-- An attempt to have a text from a provider that has a key: what was sent with what came of it, or
nothing if there was no request to send. -/
structure Attempt where
  provider : ModelProvider
  request : TextRequest
  exchange? : Option HttpExchange

namespace Attempt

/-- What the attempt yielded, unless it failed. -/
def completion? (a : Attempt) : Option Completion :=
  a.exchange?.bind fun x => (ModelApi.read a.provider x.2).toOption

/-- The answer has more tokens than a word can count. -/
def Overflows (a : Attempt) : Prop :=
  ∃ x ∈ a.exchange?, ModelApi.Overflows a.provider x.2

/-- Did the tokens of the answer break the attempt off? -/
def brokenOff (a : Attempt) : Bool :=
  a.exchange?.any fun x =>
    match ModelApi.outcome a.provider x.2 with
    | .error .overflow => true
    | _ => false

/-- What is noted of an attempt that yielded a text. -/
def noted? (settings : ModelSettings) (ordinal : Nat) (a : Attempt) : Option LogEntry :=
  a.completion?.map fun c =>
    { requestId := ordinal
      provider := a.provider
      model := ModelApi.modelFor settings a.provider
      promptLength := a.request.prompt.utf8ByteSize
      replyLength := c.text.utf8ByteSize
      tokens := c.tokens }

def lastText? (attempts : List Attempt) : Option String :=
  attempts.getLast?.bind fun a => a.completion?.map (·.text)

theorem brokenOff_iff {a : Attempt} : a.brokenOff = true ↔ a.Overflows := by
  simp only [brokenOff, Overflows, Option.any_eq_true, Option.mem_def,
    ← ModelApi.outcome_eq_overflow_iff]
  refine exists_congr fun x => and_congr_right fun _ => ?_
  rcases ModelApi.outcome a.provider x.2 with (e | _) | text <;> simp

end Attempt

namespace ModelClient

/-- The client once one more attempt has been made. -/
def after (c : ModelClient) (a : Attempt) : ModelClient :=
  if a.brokenOff then c.started
  else
    match a.noted? c.settings (c.requestCount + 1) with
    | some e => c.started.finished.record e
    | none => c.started.finished

@[simp]
theorem after_settings (c : ModelClient) (a : Attempt) : (c.after a).settings = c.settings := by
  rw [after]
  split
  · rfl
  · split <;> simp

theorem foldl_after_settings (c : ModelClient) (attempts : List Attempt) :
    (attempts.foldl after c).settings = c.settings := by
  induction attempts generalizing c with
  | nil => rfl
  | cons a rest ih => rw [List.foldl_cons, ih, after_settings]

end ModelClient

/-- What the attempts for one text come to. -/
structure Yields (attempts : List Attempt) (result : Except GenerationFailure String) : Prop where
  ok_iff : ∀ text, result = .ok text ↔ Attempt.lastText? attempts = some text
  overflow_iff : result = .error .overflow ↔ ∃ a ∈ attempts, a.Overflows

namespace Yields

variable {before later : List Attempt} {e : GenerationError}
  {result : Except GenerationFailure String}

theorem nil (e : GenerationError) : Yields [] (.error (.told e)) :=
  ⟨by simp [Attempt.lastText?], by simp⟩

theorem told_of_nil (h : Yields [] result) : ∃ e, result = .error (.told e) := by
  rcases result with (e | _) | text
  · exact ⟨e, rfl⟩
  · obtain ⟨a, ha, _⟩ := h.overflow_iff.mp rfl
    cases ha
  · cases (h.ok_iff text).mp rfl

theorem single (p : ModelProvider) (r : TextRequest) (x : HttpExchange) :
    Yields [⟨p, r, some x⟩] (ModelApi.outcome p x.2) where
  ok_iff := by
    intro text
    rw [ModelApi.outcome]
    cases h : ModelApi.read p x.2 <;>
      simp [Attempt.lastText?, Attempt.completion?, h, Except.map, Except.toOption]
  overflow_iff := by
    rw [ModelApi.outcome_eq_overflow_iff]
    simp only [List.mem_singleton, exists_eq_left, Attempt.Overflows, Option.mem_some_iff,
      exists_eq_left']

theorem unsent (p : ModelProvider) (r : TextRequest) (e : GenerationError) :
    Yields [⟨p, r, none⟩] (.error (.told e)) :=
  ⟨by simp [Attempt.lastText?, Attempt.completion?], by simp [Attempt.Overflows]⟩

/-- After a failure that is told the later attempts decide. -/
theorem append (h : Yields before (.error (.told e))) (h' : Yields later result) :
    Yields (before ++ later) result where
  ok_iff := by
    intro text
    have failed : Attempt.lastText? before = none := by
      rw [Option.eq_none_iff_forall_ne_some]
      intro text' found
      cases (h.ok_iff text').mpr found
    rw [h'.ok_iff]
    cases later using List.reverseRecOn with
    | nil => rw [List.append_nil, failed, Attempt.lastText?, List.getLast?_nil, Option.bind_none]
    | append_singleton later a => simp [Attempt.lastText?, ← List.append_assoc]
  overflow_iff := by
    have returned : ¬ ∃ a ∈ before, a.Overflows := mt h.overflow_iff.mpr (by simp)
    rw [h'.overflow_iff]
    simp only [List.mem_append, or_and_right, exists_or, returned, false_or]

theorem afterError (h : Yields later result) (first : GenerationError) :
    Yields later (result.mapError (.afterError first)) where
  ok_iff := fun text => GenerationFailure.mapError_afterError_eq_ok_iff.trans (h.ok_iff text)
  overflow_iff := GenerationFailure.mapError_afterError_eq_overflow_iff.trans h.overflow_iff

end Yields

namespace ModelSession

variable {σ : Type} {http : Transport σ} {p : ModelProvider} {q : HttpRequest} {r : TextRequest}
  {key : String} {s : ModelSession (σ × List HttpExchange)}

/-- What comes of requests for texts, one after the other, and the session after them. -/
def run (http : Transport σ) : List TextRequest → ModelSession σ →
    List (Except GenerationFailure String) × ModelSession σ
  | [], s => ([], s)
  | r :: rs, s =>
    let (result, s) := generate http r s
    let (results, s) := run http rs s
    (result :: results, s)

/-- What is sent to a provider for a text, with the answers. -/
def sentTo (http : Transport σ) (p : ModelProvider) (r : TextRequest)
    (s : ModelSession (σ × List HttpExchange)) : List HttpExchange :=
  (callProvider http.recorded p r s).2.wire.2.drop s.wire.2.length

/-- The attempts at a provider: none without a key, one for each request that is sent, or a single
one that leads nowhere. -/
def attemptsAt (http : Transport σ) (p : ModelProvider) (r : TextRequest)
    (s : ModelSession (σ × List HttpExchange)) : List Attempt :=
  match s.client.settings.key? p with
  | none => []
  | some key =>
    match ModelApi.request http.refusal? s.client.settings p key r with
    | .ok _ => (sentTo http p r s).map fun x => ⟨p, r, some x⟩
    | .error _ => [⟨p, r, none⟩]

/-- The attempts for a text: at the provider of the settings and, if it fails and the settings allow
it, at the other one. -/
def attemptsFor (http : Transport σ) (r : TextRequest)
    (s : ModelSession (σ × List HttpExchange)) : List Attempt :=
  let primary := s.client.settings.provider
  attemptsAt http primary r s ++
    match callProvider http.recorded primary r s with
    | (.error (.told _), next) =>
      if s.client.settings.enableFallback then attemptsAt http primary.other r next else []
    | _ => []

/-- The attempts of a run, those for one text together. -/
def attemptsFrom (http : Transport σ) :
    List TextRequest → ModelSession (σ × List HttpExchange) → List (List Attempt)
  | [], _ => []
  | r :: rs, s => attemptsFor http r s :: attemptsFrom http rs (generate http.recorded r s).2

/-- How some attempts took a session to another one, through the client and over the wire. -/
structure Advances (http : Transport σ) (s : ModelSession (σ × List HttpExchange))
    (attempts : List Attempt) (next : ModelSession (σ × List HttpExchange)) : Prop where
  client_eq : next.client = attempts.foldl ModelClient.after s.client
  sent_eq : next.wire.2 = s.wire.2 ++ attempts.filterMap (·.exchange?)
  /-- Only an address that is refused or a key that no header can carry keeps an attempt from the
  wire. -/
  keyed : ∀ a ∈ attempts, ∃ key, s.client.settings.key? a.provider = some key ∧
    (a.exchange?.isSome = true ↔ http.refusal? (ModelApi.url s.client.settings a.provider) = none ∧
      key.toList.all Http.isHeaderChar = true)

namespace Advances

variable {s next last : ModelSession (σ × List HttpExchange)} {before later : List Attempt}

theorem refl (s : ModelSession (σ × List HttpExchange)) : Advances http s [] s :=
  ⟨rfl, by simp, by simp⟩

theorem settings_eq (h : Advances http s before next) :
    next.client.settings = s.client.settings := by
  rw [h.client_eq, ModelClient.foldl_after_settings]

theorem trans (h : Advances http s before next) (h' : Advances http next later last) :
    Advances http s (before ++ later) last where
  client_eq := by rw [h'.client_eq, h.client_eq, List.foldl_append]
  sent_eq := by rw [h'.sent_eq, h.sent_eq, List.filterMap_append, List.append_assoc]
  keyed := by
    intro a ha
    rcases List.mem_append.mp ha with ha | ha
    · exact h.keyed a ha
    · exact h.settings_eq ▸ h'.keyed a ha

end Advances

theorem callOnce_advances_unsent {reason : String} (hk : s.client.settings.key? p = some key)
    (hq : ModelApi.request http.refusal? s.client.settings p key r = .error reason) :
    Advances http s [⟨p, r, none⟩] (callOnce http.recorded p r s).2 := by
  have unfit : ¬ (http.refusal? (ModelApi.url s.client.settings p) = none ∧
      key.toList.all Http.isHeaderChar = true) := by
    intro fits
    obtain ⟨q, made⟩ := ModelApi.request_isOk_iff (r := r).mpr fits
    rw [hq] at made
    cases made
  rw [callOnce_of_request_error hk hq]
  exact ⟨rfl, by simp, List.forall_mem_singleton.mpr ⟨key, hk, iff_of_false (by simp) unfit⟩⟩

theorem callOnce_advances (hk : s.client.settings.key? p = some key)
    (hq : ModelApi.request http.refusal? s.client.settings p key r = .ok q) :
    Advances http s [⟨p, r, some (q, (http.send q s.wire.1).1)⟩]
      (callOnce http.recorded p r s).2 := by
  have fits := ModelApi.request_isOk_iff.mp ⟨q, hq⟩
  have once : (callOnce http.recorded p r s).2 =
      ⟨s.client.after ⟨p, r, some (q, (http.send q s.wire.1).1)⟩, (http.send q s.wire.1).2,
        s.wire.2 ++ [(q, (http.send q s.wire.1).1)]⟩ := by
    simp only [callOnce, hk, exchange, ModelClient.started_settings, Transport.recorded, hq,
      recorded_eq, ModelClient.after, Attempt.brokenOff, ModelApi.outcome, Attempt.noted?,
      Attempt.completion?, Option.any_some, Option.bind_some]
    rcases ModelApi.read p (http.send q s.wire.1).1 with (e | _) | c
    · rfl
    · rfl
    · rfl
  rw [once]
  exact ⟨rfl, by simp, List.forall_mem_singleton.mpr ⟨key, hk, iff_of_true rfl fits⟩⟩

theorem callOnce_yields (hk : s.client.settings.key? p = some key)
    (hq : ModelApi.request http.refusal? s.client.settings p key r = .ok q) :
    Yields [⟨p, r, some (q, (http.send q s.wire.1).1)⟩] (callOnce http.recorded p r s).1 := by
  obtain ⟨client, _, once⟩ := callOnce_of_request hk hq
  rw [once]
  exact .single p r _

theorem callAgain_advances (again : Nat) (hk : s.client.settings.key? p = some key)
    (hq : ModelApi.request http.refusal? s.client.settings p key r = .ok q) :
    ∃ sent : List HttpExchange, sent ≠ [] ∧
      Advances http s (sent.map fun x => ⟨p, r, some x⟩) (callAgain http.recorded p r again s).2 ∧
      Yields (sent.map fun x => ⟨p, r, some x⟩) (callAgain http.recorded p r again s).1 := by
  induction again generalizing s with
  | zero => exact ⟨[_], List.cons_ne_nil _ _, callOnce_advances hk hq, callOnce_yields hk hq⟩
  | succ again ih =>
    have first := callOnce_advances hk hq
    have yields := callOnce_yields hk hq
    rcases once : callOnce http.recorded p r s with ⟨outcome, next⟩
    rw [once] at first yields
    by_cases final : ∀ f, outcome = .error f → f.isTransient = false
    · rw [callAgain_of_final once final]
      exact ⟨[_], List.cons_ne_nil _ _, first, yields⟩
    · simp only [not_forall, Bool.not_eq_false] at final
      obtain ⟨f, rfl, transient⟩ := final
      obtain ⟨sent, _, rest, result⟩ := ih (s := next) (by rw [first.settings_eq, hk])
        (by rw [first.settings_eq, hq])
      rw [callAgain_of_transient once transient]
      cases f with
      | overflow => cases transient
      | told e => exact ⟨_ :: sent, List.cons_ne_nil _ _, first.trans rest, yields.append result⟩

/-- What the attempts at a provider do to a session and what they come to; there is one just if
there is a key. -/
theorem callProvider_advances (http : Transport σ) (p : ModelProvider) (r : TextRequest)
    (s : ModelSession (σ × List HttpExchange)) :
    Advances http s (attemptsAt http p r s) (callProvider http.recorded p r s).2 ∧
      Yields (attemptsAt http p r s) (callProvider http.recorded p r s).1 ∧
      (attemptsAt http p r s = [] ↔ s.client.settings.key? p = none) := by
  cases hk : s.client.settings.key? p with
  | none =>
    have once := callOnce_of_no_key (r := r) http hk
    have attempted : attemptsAt http p r s = [] := by rw [attemptsAt, hk]
    rw [attempted, callProvider, callAgain_of_final once (by rintro _ ⟨⟩; rfl)]
    exact ⟨.refl s, .nil _, by simp⟩
  | some key =>
    cases hq : ModelApi.request http.refusal? s.client.settings p key r with
    | error reason =>
      have once := callOnce_of_request_error hk hq
      have attempted : attemptsAt http p r s = [⟨p, r, none⟩] := by
        simp only [attemptsAt, hk, hq]
      have advances := callOnce_advances_unsent hk hq
      rw [once] at advances
      rw [attempted, callProvider, callAgain_of_final once (by rintro _ ⟨⟩; rfl)]
      exact ⟨advances, .unsent p r _, by simp⟩
    | ok q =>
      obtain ⟨sent, some_sent, advances, yields⟩ :=
        callAgain_advances (s.client.settings.maxRetries - 1) hk hq
      have same : sentTo http p r s = sent := by
        have wire := advances.sent_eq
        rw [List.filterMap_map] at wire
        rw [sentTo, callProvider, wire, List.drop_left]
        exact List.filterMap_some
      have attempted : attemptsAt http p r s = sent.map fun x => ⟨p, r, some x⟩ := by
        simp only [attemptsAt, hk, hq, same]
      rw [attempted, callProvider]
      exact ⟨advances, yields, by simp [some_sent]⟩

/-- What a call for a text comes to, told by the attempts that are made for it. -/
structure CallYields (settings : ModelSettings) (attempts : List Attempt)
    (result : Except GenerationFailure String) : Prop where
  yields : Yields attempts result
  /-- Only a call without keys makes no attempt. -/
  attempts_eq_nil_iff : attempts = [] ↔ settings.key? settings.provider = none ∧
    (settings.enableFallback = true → settings.key? settings.provider.other = none)

theorem generate_advances (http : Transport σ) (r : TextRequest)
    (s : ModelSession (σ × List HttpExchange)) :
    Advances http s (attemptsFor http r s) (generate http.recorded r s).2 ∧
      CallYields s.client.settings (attemptsFor http r s) (generate http.recorded r s).1 := by
  obtain ⟨first, yields, keyless⟩ := callProvider_advances http s.client.settings.provider r s
  rcases call : callProvider http.recorded s.client.settings.provider r s with ⟨outcome, next⟩
  rw [call] at first yields
  by_cases done : ∀ e, outcome = .error (.told e) → next.client.settings.enableFallback = false
  · have off : ∀ e, outcome = .error (.told e) → s.client.settings.enableFallback = false :=
      first.settings_eq ▸ done
    have only : attemptsFor http r s = attemptsAt http s.client.settings.provider r s := by
      rcases outcome with (e | _) | text
      · simp [attemptsFor, call, off e rfl]
      · simp [attemptsFor, call]
      · simp [attemptsFor, call]
    rw [generate_alone call done, only]
    refine ⟨first, yields, keyless.trans (iff_self_and.mpr fun missing allowed => ?_)⟩
    rw [keyless.mpr missing] at yields
    obtain ⟨e, told⟩ := yields.told_of_nil
    rw [off e told] at allowed
    cases allowed
  · simp only [not_forall, Bool.not_eq_false] at done
    obtain ⟨e, rfl, allowed⟩ := done
    obtain ⟨second, yields', keyless'⟩ :=
      callProvider_advances http s.client.settings.provider.other r next
    rw [generate_of_error call allowed]
    rw [first.settings_eq] at allowed keyless'
    have both : attemptsFor http r s = attemptsAt http s.client.settings.provider r s ++
        attemptsAt http s.client.settings.provider.other r next := by
      simp only [attemptsFor, call, allowed, if_true]
    rw [both]
    refine ⟨first.trans second, yields.append (yields'.afterError e), ?_⟩
    rw [List.append_eq_nil_iff, keyless, keyless']
    simp [allowed]

theorem run_advances (http : Transport σ) (rs : List TextRequest)
    (s : ModelSession (σ × List HttpExchange)) :
    Advances http s (attemptsFrom http rs s).flatten (run http.recorded rs s).2 ∧
      List.Forall₂ (CallYields s.client.settings) (attemptsFrom http rs s)
        (run http.recorded rs s).1 := by
  induction rs generalizing s with
  | nil => exact ⟨.refl s, .nil⟩
  | cons r rs ih =>
    obtain ⟨first, yields⟩ := generate_advances http r s
    obtain ⟨rest, each⟩ := ih (generate http.recorded r s).2
    rw [first.settings_eq] at each
    exact ⟨first.trans rest, .cons yields each⟩

theorem run_forget (http : Transport σ) (rs : List TextRequest)
    (s : ModelSession (σ × List HttpExchange)) :
    run http rs s.forget = Prod.map id forget (run http.recorded rs s) := by
  induction rs generalizing s with
  | nil => rfl
  | cons r rs ih =>
    have first := generate_forget http r s
    rcases call : generate http.recorded r s with ⟨result, next⟩
    rw [call] at first
    have rest := ih next
    simp only [run, first, call, Prod.map_fst, Prod.map_snd, id_eq, rest]
    rfl

end ModelSession

end CloudThreat

import CloudThreat.ModelClient
import CloudThreat.Proofs.RecordedService
import CloudThreat.Proofs.TokenCounts
import Mathlib.Data.Nat.Find

namespace CloudThreat

/-- A request with what came of it. -/
abbrev HttpExchange := HttpRequest × HttpOutcome

/-- Too many requests, or no answer in time by the clock of the client or of a server. -/
def HttpOutcome.isTransient : HttpOutcome → Bool
  | .reply status _ => status = 429 || status = 408 || status = 504
  | .lost _ => false
  | .late => true

namespace Http

theorem headerValue?_isSome (value : String) :
    (headerValue? value).isSome = value.toList.all isHeaderChar := by
  rw [headerValue?]
  cases h : value.toList.all isHeaderChar <;> simp

end Http

namespace ModelApi

variable {p : ModelProvider} {a : HttpOutcome} {f : GenerationFailure} {key : String}
  {refusal? : String → Option AddressRefusal} {settings : ModelSettings} {r : TextRequest}

/-- The text in an answer of a provider, or why there is none. -/
def outcome (p : ModelProvider) (a : HttpOutcome) : Except GenerationFailure String :=
  (read p a).map (·.text)

theorem outcome_eq_error_iff : outcome p a = .error f ↔ read p a = .error f := by
  rw [outcome]
  cases read p a <;> simp [Except.map]

theorem outcome_eq_overflow_iff : outcome p a = .error .overflow ↔ Overflows p a :=
  outcome_eq_error_iff.trans read_eq_overflow_iff

theorem outcome_of_transient (transient : a.isTransient = true) :
    ∃ e, outcome p a = .error (.told e) ∧ e.isTransient = true := by
  cases a with
  | lost reason => exact nomatch transient
  | late => exact ⟨.timedOut p, rfl, rfl⟩
  | reply status text =>
    simp only [HttpOutcome.isTransient, Bool.or_eq_true, decide_eq_true_eq] at transient
    rcases transient with (rfl | rfl) | rfl
    · exact ⟨.rateLimited p, rfl, rfl⟩
    · exact ⟨.timedOut p, rfl, rfl⟩
    · exact ⟨.timedOut p, rfl, rfl⟩

theorem completion_not_transient {payload : Json} (h : completion p payload = .error f) :
    f.isTransient = false := by
  unfold completion at h
  split at h
  next => cases h; rfl
  next => cases h; rfl
  next => cases h

theorem outcome_of_final (final : a.isTransient = false) (h : outcome p a = .error f) :
    f.isTransient = false := by
  have failed := outcome_eq_error_iff.mp h
  cases a with
  | lost reason => cases failed; rfl
  | late => exact nomatch final
  | reply status text =>
    simp only [HttpOutcome.isTransient, Bool.or_eq_false_iff, decide_eq_false_iff_not] at final
    obtain ⟨⟨limited, timed⟩, gateway⟩ := final
    simp only [read, limited, timed, gateway, decide_false, Bool.or_self, Bool.false_eq_true,
      if_false] at failed
    split at failed
    next => cases failed; rfl
    next =>
      split at failed
      next => exact completion_not_transient failed
      next => cases failed; rfl

theorem keyHeader_isSome (p : ModelProvider) (key : String) :
    (Http.headerValue? (keyHeader p key).2).isSome = key.toList.all Http.isHeaderChar := by
  cases p with
  | claude => exact Http.headerValue?_isSome key
  | openai =>
    have bearer : "Bearer ".toList.all Http.isHeaderChar = true := by decide
    rw [keyHeader, Http.headerValue?_isSome, String.toList_append, List.all_append, bearer,
      Bool.true_and]

theorem request_of_unreadable {reason : String}
    (refused : refusal? (url settings p) = some (.unreadable reason)) :
    request refusal? settings p key r = .error reason := by
  rw [request, refused]

theorem request_of_unsendable
    (readable : ∀ reason, refusal? (url settings p) ≠ some (.unreadable reason))
    (unfit : key.toList.all Http.isHeaderChar = false) :
    request refusal? settings p key r = .error "builder error: failed to parse header value" := by
  have none_fits : Http.headerValue? (keyHeader p key).2 = none := by
    rw [← Option.isNone_iff_eq_none, ← Option.not_isSome, keyHeader_isSome, unfit]
    rfl
  rw [request]
  rcases refused : refusal? (url settings p) with _ | reason | reason
  · simp only [none_fits]
  · exact absurd refused (readable reason)
  · simp only [none_fits]

theorem request_of_foreign {reason : String}
    (refused : refusal? (url settings p) = some (.foreign reason))
    (fits : key.toList.all Http.isHeaderChar = true) :
    request refusal? settings p key r = .error reason := by
  obtain ⟨value, found⟩ := Option.isSome_iff_exists.mp ((keyHeader_isSome p key).trans fits)
  rw [request, refused]
  simp only [found]

theorem request_of_sendable (taken : refusal? (url settings p) = none)
    (fits : key.toList.all Http.isHeaderChar = true) :
    ∃ q, request refusal? settings p key r = .ok q := by
  obtain ⟨value, found⟩ := Option.isSome_iff_exists.mp ((keyHeader_isSome p key).trans fits)
  rw [request, taken]
  simp only [found]
  exact ⟨_, rfl⟩

/-- What can keep a request from being made: the address cannot be read, no header can carry the
key, or the address is of a foreign scheme. -/
theorem refused_or_sendable (refusal? : String → Option AddressRefusal) (settings : ModelSettings)
    (p : ModelProvider) (key : String) :
    (∃ reason, refusal? (url settings p) = some (.unreadable reason)) ∨
      ((∀ reason, refusal? (url settings p) ≠ some (.unreadable reason)) ∧
        key.toList.all Http.isHeaderChar = false) ∨
      (∃ reason, refusal? (url settings p) = some (.foreign reason) ∧
        key.toList.all Http.isHeaderChar = true) ∨
      (refusal? (url settings p) = none ∧ key.toList.all Http.isHeaderChar = true) := by
  cases key.toList.all Http.isHeaderChar <;>
    rcases refusal? (url settings p) with _ | reason | reason <;> simp

/-- There is a request just when the address is taken and every character of the key may stand in a
header. -/
theorem request_isOk_iff : (∃ q, request refusal? settings p key r = .ok q) ↔
    refusal? (url settings p) = none ∧ key.toList.all Http.isHeaderChar = true := by
  refine ⟨fun ⟨q, hq⟩ => ?_, fun ⟨taken, fits⟩ => request_of_sendable taken fits⟩
  obtain ⟨reason, refused⟩ | ⟨readable, unfit⟩ | ⟨reason, refused, fits⟩ | sendable :=
    refused_or_sendable refusal? settings p key
  · rw [request_of_unreadable refused] at hq
    cases hq
  · rw [request_of_unsendable readable unfit] at hq
    cases hq
  · rw [request_of_foreign refused fits] at hq
    cases hq
  · exact sendable

end ModelApi

namespace ModelClient

variable {c : ModelClient}

@[simp]
theorem started_settings : c.started.settings = c.settings := rfl

@[simp]
theorem finished_settings : c.finished.settings = c.settings := rfl

@[simp]
theorem record_settings {e : LogEntry} : (c.record e).settings = c.settings := by
  rw [record]

end ModelClient

namespace Transport

variable {σ : Type}

/-- A transport that also keeps a record of what it sends and of what comes back. -/
def recorded (http : Transport σ) : Transport (σ × List HttpExchange) :=
  ⟨http.refusal?, CloudThreat.recorded http.send⟩

/-- The wire after a request has been sent so many times. -/
def wireAfter (http : Transport σ) (q : HttpRequest) : Nat → σ → σ
  | 0, w => w
  | n + 1, w => wireAfter http q n (http.send q w).2

/-- What comes of a request when it has been sent so many times before. -/
def answer (http : Transport σ) (q : HttpRequest) (w : σ) (i : Nat) : HttpOutcome :=
  (http.send q (http.wireAfter q i w)).1

def exchanges (http : Transport σ) (q : HttpRequest) (w : σ) (n : Nat) : List HttpExchange :=
  (List.range n).map fun i => (q, http.answer q w i)

theorem exchanges_succ (http : Transport σ) (q : HttpRequest) (w : σ) (n : Nat) :
    http.exchanges q w (n + 1) = (q, (http.send q w).1) :: http.exchanges q (http.send q w).2 n := by
  rw [exchanges, List.range_succ_eq_map, List.map_cons, List.map_map]
  rfl

theorem exchanges_length (http : Transport σ) (q : HttpRequest) (w : σ) (n : Nat) :
    (http.exchanges q w n).length = n := by
  rw [exchanges, List.length_map, List.length_range]

theorem exchanges_getLast? (http : Transport σ) (q : HttpRequest) (w : σ) (n : Nat) :
    (http.exchanges q w (n + 1)).getLast? = some (q, http.answer q w n) := by
  rw [exchanges, List.range_succ, List.map_append]
  exact List.getLast?_concat

end Transport

/-- What was made of a provider, and the wire that is left. -/
structure ProviderCall (σ : Type) where
  exchanges : List HttpExchange
  outcome : Except GenerationFailure String
  wire : σ

section

variable {σ : Type} {http : Transport σ} {p : ModelProvider} {q : HttpRequest} {r : TextRequest}
  {w : σ} {settings : ModelSettings} {call : ProviderCall σ} {again last : Nat} {key : String}

/-- The request is repeated up to the first answer that is not transient, if the settings allow as
many requests, and the last answer counts. -/
structure Repeats (http : Transport σ) (p : ModelProvider) (q : HttpRequest) (maxRetries : Nat)
    (w : σ) (call : ProviderCall σ) : Prop where
  exchanges_eq : call.exchanges = http.exchanges q w call.exchanges.length
  transient_before : ∀ i, i + 1 < call.exchanges.length → (http.answer q w i).isTransient = true
  wire_eq : call.wire = http.wireAfter q call.exchanges.length w
  length_of_final : ∀ k, (∀ i < k, (http.answer q w i).isTransient = true) →
    (http.answer q w k).isTransient = false →
      call.exchanges.length = min (k + 1) (max maxRetries 1)
  length_of_transient : (∀ i, (http.answer q w i).isTransient = true) →
    call.exchanges.length = max maxRetries 1
  outcome_eq : ∃ a, call.exchanges.getLast? = some (q, a) ∧
    call.outcome = ModelApi.outcome p a

/-- What it is to ask a provider: nothing is sent without a key, to an address that is refused, or
with a key that no header can carry. -/
structure Asks (http : Transport σ) (settings : ModelSettings) (p : ModelProvider) (r : TextRequest)
    (w : σ) (call : ProviderCall σ) : Prop where
  of_no_key : settings.key? p = none → call = ⟨[], .error (.told (.notConfigured p)), w⟩
  of_unreadable : ∀ key reason, settings.key? p = some key →
    http.refusal? (ModelApi.url settings p) = some (.unreadable reason) →
      call = ⟨[], .error (.told (.api p reason)), w⟩
  of_unsendable : ∀ key, settings.key? p = some key →
    (∀ reason, http.refusal? (ModelApi.url settings p) ≠ some (.unreadable reason)) →
      key.toList.all Http.isHeaderChar = false →
        call = ⟨[], .error (.told (.api p "builder error: failed to parse header value")), w⟩
  of_foreign : ∀ key reason, settings.key? p = some key →
    http.refusal? (ModelApi.url settings p) = some (.foreign reason) →
      key.toList.all Http.isHeaderChar = true → call = ⟨[], .error (.told (.api p reason)), w⟩
  of_sendable : ∀ key, settings.key? p = some key →
    http.refusal? (ModelApi.url settings p) = none → key.toList.all Http.isHeaderChar = true →
      ∃ q, ModelApi.request http.refusal? settings p key r = .ok q ∧
        Repeats http p q settings.maxRetries w call

/-- Where the repetition of a request stops that may be made again so many times. -/
structure StopsAt (http : Transport σ) (q : HttpRequest) (w : σ) (again last : Nat) : Prop where
  last_le : last ≤ again
  transient_before : ∀ i < last, (http.answer q w i).isTransient = true
  final_of_lt : last < again → (http.answer q w last).isTransient = false

theorem StopsAt.first (final : 0 < again → (http.send q w).1.isTransient = false) :
    StopsAt http q w again 0 :=
  ⟨Nat.zero_le again, fun _ h => absurd h (Nat.not_lt_zero _), final⟩

theorem StopsAt.next (transient : (http.send q w).1.isTransient = true)
    (h : StopsAt http q (http.send q w).2 again last) : StopsAt http q w (again + 1) (last + 1) := by
  refine ⟨Nat.succ_le_succ h.last_le, fun i hi => ?_, fun hl => ?_⟩
  · cases i with
    | zero => exact transient
    | succ i => exact h.transient_before i (Nat.lt_of_succ_lt_succ hi)
  · exact h.final_of_lt (Nat.lt_of_succ_lt_succ hl)

theorem StopsAt.eq_of_transient (h : StopsAt http q w again last)
    (transient : (http.answer q w last).isTransient = true) : last = again := by
  by_contra different
  have final := h.final_of_lt (Nat.lt_of_le_of_ne h.last_le different)
  rw [transient] at final
  exact nomatch final

theorem StopsAt.repeats {maxRetries : Nat} (h : StopsAt http q w (maxRetries - 1) last) :
    Repeats http p q maxRetries w ⟨http.exchanges q w (last + 1),
      ModelApi.outcome p (http.answer q w last), http.wireAfter q (last + 1) w⟩ := by
  have length := http.exchanges_length q w (last + 1)
  have within := h.last_le
  refine ⟨by rw [length], fun i hi => ?_, by rw [length], fun k before final => ?_, fun all => ?_,
    ⟨_, http.exchanges_getLast? q w last, rfl⟩⟩
  · rw [length] at hi
    exact h.transient_before i (by omega)
  · have reached : last ≤ k := by
      by_contra beyond
      rw [h.transient_before k (by omega)] at final
      exact nomatch final
    rw [length]
    rcases Nat.lt_or_eq_of_le reached with hlt | rfl
    · have stopped := h.eq_of_transient (before last hlt)
      omega
    · omega
  · have stopped := h.eq_of_transient (all last)
    rw [length]
    omega

theorem Repeats.length_le {maxRetries : Nat} (h : Repeats http p q maxRetries w call) :
    call.exchanges.length ≤ max maxRetries 1 := by
  by_cases all : ∀ i, (http.answer q w i).isTransient = true
  · exact Nat.le_of_eq (h.length_of_transient all)
  · have ends : ∃ k, (http.answer q w k).isTransient = false := by simpa using all
    have before : ∀ i < Nat.find ends, (http.answer q w i).isTransient = true :=
      fun i hi => by simpa using Nat.find_min ends hi
    rw [h.length_of_final (Nat.find ends) before (Nat.find_spec ends)]
    exact Nat.min_le_right _ _

/-- An answer whose tokens overflow is the last one. -/
theorem Repeats.overflow_iff {maxRetries : Nat} (h : Repeats http p q maxRetries w call) :
    call.outcome = .error .overflow ↔ ∃ x ∈ call.exchanges, ModelApi.Overflows p x.2 := by
  obtain ⟨a, last, outcome⟩ := h.outcome_eq
  rw [outcome, ModelApi.outcome_eq_overflow_iff]
  refine ⟨fun overflows => ⟨(q, a), List.mem_of_getLast? last, overflows⟩, ?_⟩
  rintro ⟨x, hx, overflows⟩
  obtain ⟨i, hi, rfl⟩ := List.mem_iff_getElem.mp hx
  have answered : call.exchanges[i] = (q, http.answer q w i) := by
    rw [List.getElem_of_eq h.exchanges_eq hi]
    simp [Transport.exchanges]
  rw [answered] at overflows
  have final : i + 1 = call.exchanges.length := by
    by_contra different
    obtain ⟨e, told, _⟩ := ModelApi.outcome_of_transient (p := p) (h.transient_before i (by omega))
    rw [ModelApi.outcome_eq_overflow_iff.mpr overflows] at told
    cases told
  have there : call.exchanges.getLast? = some call.exchanges[i] := by
    rw [List.getLast?_eq_getElem?, ← final, Nat.add_sub_cancel, List.getElem?_eq_getElem hi]
  rw [last, answered] at there
  cases there
  exact overflows

theorem Asks.of_key_eq_none (hk : settings.key? p = none) :
    Asks http settings p r w ⟨[], .error (.told (.notConfigured p)), w⟩ where
  of_no_key := fun _ => rfl
  of_unreadable := by simp [hk]
  of_unsendable := by simp [hk]
  of_foreign := by simp [hk]
  of_sendable := by simp [hk]

theorem Asks.of_request_eq_error {reason : String} (hk : settings.key? p = some key)
    (hq : ModelApi.request http.refusal? settings p key r = .error reason) :
    Asks http settings p r w ⟨[], .error (.told (.api p reason)), w⟩ where
  of_no_key := by simp [hk]
  of_unreadable := by
    intro _ reason' _ refused
    rw [ModelApi.request_of_unreadable refused] at hq
    cases hq
    rfl
  of_unsendable := by
    intro key' hk' readable unfit
    cases hk.symm.trans hk'
    rw [ModelApi.request_of_unsendable readable unfit] at hq
    cases hq
    rfl
  of_foreign := by
    intro key' reason' hk' refused fits
    cases hk.symm.trans hk'
    rw [ModelApi.request_of_foreign refused fits] at hq
    cases hq
    rfl
  of_sendable := by
    intro key' hk' taken fits
    cases hk.symm.trans hk'
    obtain ⟨q, made⟩ := ModelApi.request_isOk_iff (r := r).mpr ⟨taken, fits⟩
    rw [hq] at made
    cases made

theorem Asks.of_repeats (hk : settings.key? p = some key)
    (hq : ModelApi.request http.refusal? settings p key r = .ok q)
    (h : Repeats http p q settings.maxRetries w call) : Asks http settings p r w call where
  of_no_key := by simp [hk]
  of_unreadable := by
    intro _ reason _ refused
    rw [ModelApi.request_of_unreadable refused] at hq
    cases hq
  of_unsendable := by
    intro key' hk' readable unfit
    cases hk.symm.trans hk'
    rw [ModelApi.request_of_unsendable readable unfit] at hq
    cases hq
  of_foreign := by
    intro key' reason hk' refused fits
    cases hk.symm.trans hk'
    rw [ModelApi.request_of_foreign refused fits] at hq
    cases hq
  of_sendable := by
    intro key' hk' _ _
    cases hk.symm.trans hk'
    exact ⟨q, hq, h⟩

/-- Either nothing is sent and the caller is told why, or a request is repeated. -/
theorem Asks.fails_or_repeats (h : Asks http settings p r w call) :
    (∃ e, call = ⟨[], .error (.told e), w⟩) ∨ ∃ q, Repeats http p q settings.maxRetries w call := by
  cases hk : settings.key? p with
  | none => exact .inl ⟨_, h.of_no_key hk⟩
  | some key =>
    obtain ⟨reason, refused⟩ | ⟨readable, unfit⟩ | ⟨reason, refused, fits⟩ | ⟨taken, fits⟩ :=
      ModelApi.refused_or_sendable http.refusal? settings p key
    · exact .inl ⟨_, h.of_unreadable key reason hk refused⟩
    · exact .inl ⟨_, h.of_unsendable key hk readable unfit⟩
    · exact .inl ⟨_, h.of_foreign key reason hk refused fits⟩
    · obtain ⟨q, _, repeats⟩ := h.of_sendable key hk taken fits
      exact .inr ⟨q, repeats⟩

theorem Asks.length_le (h : Asks http settings p r w call) :
    call.exchanges.length ≤ max settings.maxRetries 1 := by
  obtain ⟨e, rfl⟩ | ⟨q, repeats⟩ := h.fails_or_repeats
  · exact Nat.zero_le _
  · exact repeats.length_le

theorem Asks.overflow_iff (h : Asks http settings p r w call) :
    call.outcome = .error .overflow ↔ ∃ x ∈ call.exchanges, ModelApi.Overflows p x.2 := by
  obtain ⟨e, rfl⟩ | ⟨q, repeats⟩ := h.fails_or_repeats
  · simp
  · exact repeats.overflow_iff

end

namespace ModelSession

variable {σ : Type} {p : ModelProvider} {q : HttpRequest} {r : TextRequest} {key : String}
  {s : ModelSession (σ × List HttpExchange)}

theorem callOnce_of_no_key (http : Transport σ) (hk : s.client.settings.key? p = none) :
    callOnce http.recorded p r s = (.error (.told (.notConfigured p)), s) := by
  rw [callOnce, hk]

theorem callOnce_of_request_error {http : Transport σ} {reason : String}
    (hk : s.client.settings.key? p = some key)
    (hq : ModelApi.request http.refusal? s.client.settings p key r = .error reason) :
    callOnce http.recorded p r s =
      (.error (.told (.api p reason)), ⟨s.client.started.finished, s.wire⟩) := by
  simp only [callOnce, hk, exchange, ModelClient.started_settings, Transport.recorded, hq]

theorem callOnce_of_request {http : Transport σ} (hk : s.client.settings.key? p = some key)
    (hq : ModelApi.request http.refusal? s.client.settings p key r = .ok q) :
    ∃ client, client.settings = s.client.settings ∧ callOnce http.recorded p r s =
      (ModelApi.outcome p (http.send q s.wire.1).1,
        ⟨client, (http.send q s.wire.1).2, s.wire.2 ++ [(q, (http.send q s.wire.1).1)]⟩) := by
  simp only [callOnce, hk, exchange, ModelClient.started_settings, Transport.recorded, hq,
    recorded_eq, ModelApi.outcome]
  rcases ModelApi.read p (http.send q s.wire.1).1 with (e | _) | c
  · exact ⟨_, by simp, rfl⟩
  · exact ⟨_, by simp, rfl⟩
  · exact ⟨_, by simp, rfl⟩

theorem callAgain_of_final {http : Transport (σ × List HttpExchange)}
    {s' : ModelSession (σ × List HttpExchange)} {outcome : Except GenerationFailure String}
    (once : callOnce http p r s = (outcome, s'))
    (final : ∀ f, outcome = .error f → f.isTransient = false) (again : Nat) :
    callAgain http p r again s = (outcome, s') := by
  cases again with
  | zero => exact once
  | succ again =>
    cases outcome with
    | ok text => simp [callAgain, once]
    | error f => simp [callAgain, once, final f rfl]

theorem callAgain_of_transient {http : Transport (σ × List HttpExchange)} {f : GenerationFailure}
    {s' : ModelSession (σ × List HttpExchange)} (once : callOnce http p r s = (.error f, s'))
    (transient : f.isTransient = true) (again : Nat) :
    callAgain http p r (again + 1) s = callAgain http p r again s' := by
  simp [callAgain, once, transient]

/-- After a transient answer the rest is a call on the wire that is left, one request shorter. -/
theorem callAgain_of_request {http : Transport σ} (again : Nat)
    (hk : s.client.settings.key? p = some key)
    (hq : ModelApi.request http.refusal? s.client.settings p key r = .ok q) :
    ∃ last client, StopsAt http q s.wire.1 again last ∧ client.settings = s.client.settings ∧
      callAgain http.recorded p r again s =
        (ModelApi.outcome p (http.answer q s.wire.1 last),
          ⟨client, http.wireAfter q (last + 1) s.wire.1,
            s.wire.2 ++ http.exchanges q s.wire.1 (last + 1)⟩) := by
  induction again generalizing s with
  | zero =>
    obtain ⟨client, same, once⟩ := callOnce_of_request hk hq
    exact ⟨0, client, .first fun h => absurd h (Nat.not_lt_zero 0), same, once⟩
  | succ again ih =>
    obtain ⟨client, same, once⟩ := callOnce_of_request hk hq
    cases kind : (http.send q s.wire.1).1.isTransient with
    | false =>
      have final := fun f => ModelApi.outcome_of_final (p := p) (f := f) kind
      exact ⟨0, client, .first fun _ => kind, same, callAgain_of_final once final (again + 1)⟩
    | true =>
      obtain ⟨e, failed, transient⟩ := ModelApi.outcome_of_transient (p := p) kind
      rw [failed] at once
      obtain ⟨last, client', stops, same', rest⟩ := ih
        (s := ⟨client, (http.send q s.wire.1).2, s.wire.2 ++ [(q, (http.send q s.wire.1).1)]⟩)
        (by rw [same, hk]) (by rw [same, hq])
      have log : s.wire.2 ++ http.exchanges q s.wire.1 (last + 1 + 1) =
          s.wire.2 ++ [(q, (http.send q s.wire.1).1)] ++
            http.exchanges q (http.send q s.wire.1).2 (last + 1) := by
        rw [Transport.exchanges_succ, List.append_cons]
      refine ⟨last + 1, client', .next kind stops, same'.trans same, ?_⟩
      rw [callAgain_of_transient once transient, rest, log]
      rfl

theorem callProvider_asks (http : Transport σ) (p : ModelProvider) (r : TextRequest)
    (s : ModelSession (σ × List HttpExchange)) :
    ∃ call client, Asks http s.client.settings p r s.wire.1 call ∧
      client.settings = s.client.settings ∧ callProvider http.recorded p r s =
        (call.outcome, ⟨client, call.wire, s.wire.2 ++ call.exchanges⟩) := by
  cases hk : s.client.settings.key? p with
  | none =>
    have once := callOnce_of_no_key (r := r) http hk
    refine ⟨_, s.client, .of_key_eq_none hk, rfl, ?_⟩
    rw [callProvider, callAgain_of_final once (by rintro _ ⟨⟩; rfl), List.append_nil]
  | some key =>
    cases hq : ModelApi.request http.refusal? s.client.settings p key r with
    | error reason =>
      have once := callOnce_of_request_error hk hq
      refine ⟨_, s.client.started.finished, .of_request_eq_error hk hq, rfl, ?_⟩
      rw [callProvider, callAgain_of_final once (by rintro _ ⟨⟩; rfl), List.append_nil]
    | ok q =>
      obtain ⟨last, client, stops, same, calls⟩ := callAgain_of_request
        (s.client.settings.maxRetries - 1) hk hq
      exact ⟨_, client, .of_repeats hk hq stops.repeats, same, calls⟩

end ModelSession

end CloudThreat

import CloudThreat.Proofs.ProviderCalls

namespace CloudThreat

namespace GenerationFailure

variable {first : GenerationError} {result : Except GenerationFailure String} {text : String}

theorem mapError_afterError_eq_ok_iff :
    result.mapError (afterError first) = .ok text ↔ result = .ok text := by
  cases result <;> simp [Except.mapError]

theorem mapError_afterError_eq_overflow_iff :
    result.mapError (afterError first) = .error overflow ↔ result = .error overflow := by
  rcases result with (e | _) | text <;> simp [Except.mapError, afterError]

end GenerationFailure

/-- How a request for a text is answered by one call of a provider or by two. -/
structure AsksInTurn {σ : Type} (http : Transport σ) (settings : ModelSettings) (r : TextRequest)
    (w : σ) (first : ProviderCall σ) (second? : Option (ProviderCall σ))
    (result : Except GenerationFailure String) (made : List HttpExchange) : Prop where
  first_asks : Asks http settings settings.provider r w first
  second_asks : ∀ second ∈ second?, Asks http settings settings.provider.other r first.wire second
  second_isSome_iff : second?.isSome = true ↔
    (∃ e, first.outcome = .error (.told e)) ∧ settings.enableFallback = true
  made_eq : made = first.exchanges ++ (second?.map (·.exchanges)).getD []
  length_le : made.length ≤ 2 * max settings.maxRetries 1
  ok_iff : ∀ text, result = .ok text ↔
    first.outcome = .ok text ∨ ∃ second ∈ second?, second.outcome = .ok text
  of_fallback_off : settings.enableFallback = false →
    ∀ e, first.outcome = .error (.told e) → result = .error (.told e)
  of_both_failed : ∀ second ∈ second?, ∀ e e', first.outcome = .error (.told e) →
    second.outcome = .error (.told e') → result = .error (.told (.allFailed e e'))
  /-- Nothing but an answer with too many tokens keeps the call from a result. -/
  overflow_iff : result = .error .overflow ↔
    (∃ x ∈ first.exchanges, ModelApi.Overflows settings.provider x.2) ∨
      ∃ second ∈ second?, ∃ x ∈ second.exchanges, ModelApi.Overflows settings.provider.other x.2

namespace AsksInTurn

variable {σ : Type} {http : Transport σ} {settings : ModelSettings} {r : TextRequest} {w : σ}
  {first second : ProviderCall σ} {e : GenerationError}

theorem alone (asks : Asks http settings settings.provider r w first)
    (done : ∀ e, first.outcome = .error (.told e) → settings.enableFallback = false) :
    AsksInTurn http settings r w first none first.outcome first.exchanges where
  first_asks := asks
  second_asks := by simp
  second_isSome_iff := by simpa using done
  made_eq := by simp
  length_le := Nat.le_trans asks.length_le (Nat.le_mul_of_pos_left _ (by decide))
  ok_iff := by simp
  of_fallback_off := fun _ _ failed => failed
  of_both_failed := by simp
  overflow_iff := by simp [asks.overflow_iff]

theorem fellBack (asks : Asks http settings settings.provider r w first)
    (outcome : first.outcome = .error (.told e)) (on : settings.enableFallback = true)
    (asks' : Asks http settings settings.provider.other r first.wire second) :
    AsksInTurn http settings r w first (some second)
      (second.outcome.mapError (.afterError e)) (first.exchanges ++ second.exchanges) where
  first_asks := asks
  second_asks := fun _ h => Option.some.inj h ▸ asks'
  second_isSome_iff := by simp [outcome, on]
  made_eq := by simp
  length_le := by
    have bound := asks.length_le
    have bound' := asks'.length_le
    rw [List.length_append]
    omega
  ok_iff := by simp [GenerationFailure.mapError_afterError_eq_ok_iff, outcome]
  of_fallback_off := by simp [on]
  of_both_failed := by
    intro _ h e₁ e₂ failed failed'
    obtain rfl := Option.some.inj h
    cases outcome.symm.trans failed
    rw [failed', Except.mapError, GenerationFailure.afterError]
  overflow_iff := by
    have returned : ¬ ∃ x ∈ first.exchanges, ModelApi.Overflows settings.provider x.2 :=
      mt asks.overflow_iff.mpr (by simp [outcome])
    rw [GenerationFailure.mapError_afterError_eq_overflow_iff, asks'.overflow_iff]
    simp only [returned, false_or, Option.mem_some_iff, exists_eq_left']

end AsksInTurn

namespace ModelSession

variable {σ : Type} {http : Transport σ} {p : ModelProvider} {r : TextRequest} {key : String}

theorem generate_alone {s s' : ModelSession σ} {outcome : Except GenerationFailure String}
    (call : callProvider http s.client.settings.provider r s = (outcome, s'))
    (done : ∀ e, outcome = .error (.told e) → s'.client.settings.enableFallback = false) :
    generate http r s = (outcome, s') := by
  rcases outcome with (e | _) | text
  · simp [generate, call, done e rfl]
  · simp [generate, call]
  · simp [generate, call]

theorem generate_of_error {s s' : ModelSession σ} {e : GenerationError}
    (call : callProvider http s.client.settings.provider r s = (.error (.told e), s'))
    (on : s'.client.settings.enableFallback = true) :
    generate http r s = Prod.map (Except.mapError (.afterError e)) id
      (callProvider http s.client.settings.provider.other r s') := by
  simp only [generate, call, on, if_true]
  rfl

/-- A session without the record of its wire. -/
def forget (s : ModelSession (σ × List HttpExchange)) : ModelSession σ :=
  ⟨s.client, s.wire.1⟩

/-- What is sent for a text, with the answers. -/
def made (http : Transport σ) (r : TextRequest) (s : ModelSession σ) : List HttpExchange :=
  (generate http.recorded r ⟨s.client, s.wire, []⟩).2.wire.2

theorem exchange_forget (http : Transport σ) (p : ModelProvider) (key : String) (r : TextRequest)
    (s : ModelSession (σ × List HttpExchange)) :
    exchange http p key r s.forget = Prod.map id forget (exchange http.recorded p key r s) := by
  unfold exchange
  cases hq : ModelApi.request http.refusal? s.client.settings p key r with
  | error reason => simp [forget, Transport.recorded, hq]
  | ok q => simp [forget, Transport.recorded, hq, recorded_eq]

theorem callOnce_forget (http : Transport σ) (p : ModelProvider) (r : TextRequest)
    (s : ModelSession (σ × List HttpExchange)) :
    callOnce http p r s.forget = Prod.map id forget (callOnce http.recorded p r s) := by
  cases hk : s.client.settings.key? p with
  | none => simp [callOnce, forget, hk]
  | some key =>
    have once := exchange_forget http p key r ⟨s.client.started, s.wire⟩
    rcases he : exchange http.recorded p key r ⟨s.client.started, s.wire⟩ with ⟨result, next⟩
    rw [he] at once
    have plain : exchange http p key r ⟨s.client.started, s.wire.1⟩ = (result, next.forget) := once
    rcases result with (e | _) | c
    · simp [callOnce, hk, he, forget, plain]
    · simp [callOnce, hk, he, forget, plain]
    · simp [callOnce, hk, he, forget, plain]

theorem callAgain_forget (http : Transport σ) (p : ModelProvider) (r : TextRequest) (again : Nat)
    (s : ModelSession (σ × List HttpExchange)) : callAgain http p r again s.forget =
      Prod.map id forget (callAgain http.recorded p r again s) := by
  induction again generalizing s with
  | zero => exact callOnce_forget http p r s
  | succ again ih =>
    have once := callOnce_forget http p r s
    rcases hc : callOnce http.recorded p r s with ⟨result, next⟩
    rw [hc] at once
    cases result with
    | ok text => simp [callAgain, hc, once]
    | error f => cases transient : f.isTransient <;> simp [callAgain, hc, once, transient, ih]

theorem callProvider_forget (http : Transport σ) (p : ModelProvider) (r : TextRequest)
    (s : ModelSession (σ × List HttpExchange)) : callProvider http p r s.forget =
      Prod.map id forget (callProvider http.recorded p r s) :=
  callAgain_forget http p r (s.client.settings.maxRetries - 1) s

theorem generate_forget (http : Transport σ) (r : TextRequest)
    (s : ModelSession (σ × List HttpExchange)) :
    generate http r s.forget = Prod.map id forget (generate http.recorded r s) := by
  have once := callProvider_forget http s.client.settings.provider r s
  rcases call : callProvider http.recorded s.client.settings.provider r s with ⟨first, next⟩
  rw [call] at once
  by_cases done : ∀ e, first = .error (.told e) → next.client.settings.enableFallback = false
  · rw [generate_alone call done]
    exact generate_alone once done
  · simp only [not_forall, Bool.not_eq_false] at done
    obtain ⟨e, rfl, allowed⟩ := done
    have again := callProvider_forget http s.client.settings.provider.other r next
    rw [generate_of_error call allowed]
    refine (generate_of_error (s := s.forget) once allowed).trans ?_
    exact congrArg (Prod.map (Except.mapError (GenerationFailure.afterError e)) id) again

theorem generate_asksInTurn (http : Transport σ) (r : TextRequest) (s : ModelSession σ) :
    ∃ first second?, AsksInTurn http s.client.settings r s.wire first second?
      (generate http r s).1 (made http r s) := by
  let start : ModelSession (σ × List HttpExchange) := ⟨s.client, s.wire, []⟩
  have result : (generate http r s).1 = (generate http.recorded r start).1 :=
    congrArg Prod.fst (generate_forget http r start)
  obtain ⟨first, client, asks, same, call⟩ :=
    callProvider_asks http s.client.settings.provider r start
  rw [result, made]
  by_cases done : ∀ e, first.outcome = .error (.told e) → s.client.settings.enableFallback = false
  · rw [generate_alone call fun e failed => same ▸ done e failed]
    exact ⟨first, none, .alone asks done⟩
  · simp only [not_forall, Bool.not_eq_false] at done
    obtain ⟨e, failed, allowed⟩ := done
    rw [failed] at call
    obtain ⟨second, client', asks', _, call'⟩ := callProvider_asks http
      s.client.settings.provider.other r ⟨client, first.wire, start.wire.2 ++ first.exchanges⟩
    have asks' : Asks http client.settings s.client.settings.provider.other r first.wire second :=
      asks'
    rw [same] at asks'
    rw [generate_of_error call (same ▸ allowed), call']
    exact ⟨first, some second, .fellBack asks failed allowed asks'⟩

def unsendableKey : ModelSettings :=
  { ModelSettings.default with anthropicKey := some "k\u0001a", enableFallback := false }

def alwaysAnswers : Transport Unit where
  refusal? := fun _ => none
  send := fun _ w => (.reply 200 "\x7b\"content\": [\x7b\"text\": \"Restrict it.\"\x7d]\x7d", w)

/-- A key is not always enough for a request: it must fit into a header. -/
theorem unsendableKey_makes_no_request :
    ¬ ∀ (settings : ModelSettings) (http : Transport Unit) (r : TextRequest) (k : Nat),
      (settings.key? settings.provider).isSome = true → settings.enableFallback = false →
      (∀ q, ∀ i < k, (http.answer q () i).isTransient = true) →
      (∀ q, (http.answer q () k).isTransient = false) →
        (made http r ⟨.new settings, ()⟩).length = min (k + 1) (max settings.maxRetries 1) := by
  intro each
  have one := each unsendableKey alwaysAnswers ⟨"fix it", none, none, none⟩ 0 rfl rfl
    (fun _ _ h => absurd h (Nat.not_lt_zero _)) (fun _ => rfl)
  have none_made : made alwaysAnswers ⟨"fix it", none, none, none⟩ ⟨.new unsendableKey, ()⟩ = [] := by
    rfl
  rw [none_made] at one
  exact absurd one (by decide)

end ModelSession

end CloudThreat

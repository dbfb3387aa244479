import CloudThreat.Proofs.RequestLog
import Mathlib.Algebra.Order.BigOperators.Group.List

namespace CloudThreat

namespace Attempt

variable {settings : ModelSettings} {a : Attempt}

/-- The tokens by the counts in the answer to an attempt. -/
def counted (a : Attempt) : Nat :=
  ((a.exchange?.bind (·.2.payload?)).map (ModelApi.counted a.provider)).getD 0

theorem completion?_tokens {c : Completion} (h : a.completion? = some c) :
    c.tokens.toNat = a.counted := by
  obtain ⟨x, sent, yielded⟩ := Option.bind_eq_some_iff.mp h
  have ok : ModelApi.read a.provider x.2 = .ok c := by
    cases hr : ModelApi.read a.provider x.2 with
    | ok c' => rw [hr] at yielded; rw [Option.some.inj yielded]
    | error f => rw [hr] at yielded; cases yielded
  obtain ⟨payload, found, _, tokens⟩ := ModelApi.read_eq_ok_iff.mp ok
  rw [tokens, counted, sent, Option.bind_some, found]
  rfl

theorem entries_tokens (settings : ModelSettings) (attempts : List Attempt) :
    (entries settings attempts).map (·.tokens.toNat) = (fruitful attempts).map counted := by
  induction attempts using List.reverseRecOn with
  | nil => rfl
  | append_singleton attempts a ih =>
    rw [entries_concat, List.map_append, ih, fruitful, fruitful, List.filter_append,
      List.map_append]
    cases h : a.completion? with
    | none => simp [noted?, h]
    | some c => simp [noted?, h, completion?_tokens h]

end Attempt

namespace ModelClient

variable {settings : ModelSettings} {attempts : List Attempt} {c : ModelClient}

/-- The attempts that the log shows. -/
def shown (attempts : List Attempt) : List Attempt :=
  (Attempt.fruitful attempts).rtake maxLogSize

theorem Accounts.log_tokens (h : Accounts settings attempts c) :
    c.log.map (·.tokens.toNat) = (shown attempts).map Attempt.counted := by
  rw [h.log_eq, List.rtake, List.map_drop, Attempt.entries_tokens, Attempt.length_entries,
    ← List.map_drop]
  rfl

/-- Every call returns, the log has the tokens that the providers counted, and there is a total of
them, which is their sum. -/
structure CountsTokens (attempts : List Attempt) (results : List (Except GenerationFailure String))
    (c : ModelClient) : Prop where
  returned : ∀ result ∈ results, result ≠ .error .overflow
  logged : c.log.map (·.tokens.toNat) = (shown attempts).map Attempt.counted
  total : ∃ s, c.statistics? = some s ∧ s.totalTokens.toNat = (c.log.map (·.tokens.toNat)).sum

/-- The total is the sum of all counts in the log, and there is none if that is too much. -/
theorem Accounts.totalTokens_eq (h : Accounts settings attempts c) :
    c.statistics?.map (·.totalTokens.toNat) =
      if ((shown attempts).map Attempt.counted).sum < 2 ^ 64
      then some ((shown attempts).map Attempt.counted).sum else none := by
  rw [← h.log_tokens]
  split
  next small =>
    obtain ⟨s, shown⟩ := Option.isSome_iff_exists.mp (statistics?_isSome_iff.mpr small)
    rw [shown, Option.map_some, (tellsLog_of_statistics? shown).totalTokens_eq]
  next large =>
    have nothing : c.statistics? = none := by
      rw [← Option.not_isSome_iff_eq_none, statistics?_isSome_iff]
      exact large
    rw [nothing, Option.map_none]

end ModelClient

namespace ModelSession

variable {σ : Type} {settings : ModelSettings} {calls : List (List Attempt)}
  {results : List (Except GenerationFailure String)} {c : ModelClient}

theorem returned_iff (yields : List.Forall₂ (CallYields settings) calls results) :
    (∀ result ∈ results, result ≠ .error .overflow) ↔ ∀ a ∈ calls.flatten, ¬ a.Overflows := by
  induction yields with
  | nil => simp
  | cons call _ ih =>
    rw [List.forall_mem_cons, ih, List.flatten_cons, List.forall_mem_append, Ne,
      call.yields.overflow_iff]
    simp only [not_exists, not_and]

theorem countsTokens_iff (yields : List.Forall₂ (CallYields settings) calls results)
    (accounts : ModelClient.Accounts settings calls.flatten c) :
    ModelClient.CountsTokens calls.flatten results c ↔
      (∀ a ∈ calls.flatten, ¬ a.Overflows) ∧
        ((ModelClient.shown calls.flatten).map Attempt.counted).sum < 2 ^ 64 := by
  rw [← returned_iff yields, ← accounts.log_tokens, ← ModelClient.statistics?_isSome_iff,
    Option.isSome_iff_exists]
  constructor
  · rintro ⟨returned, _, s, shown, _⟩
    exact ⟨returned, s, shown⟩
  · rintro ⟨returned, s, shown⟩
    have tells := ModelClient.tellsLog_of_statistics? shown
    exact ⟨returned, accounts.log_tokens, s, shown, tells.totalTokens_eq⟩

/-- In every run of a new client the log has the tokens of the answers in it as they were counted. A
call breaks off just if an answer has too many of them, and there is a total just if those in the
log are not too many together. -/
theorem run_countsTokens_iff (http : Transport σ) (settings : ModelSettings) (wire : σ)
    (rs : List TextRequest) :
    (run http rs ⟨.new settings, wire⟩).2.client.log.map (·.tokens.toNat) =
        (ModelClient.shown (attempts http settings wire rs).flatten).map Attempt.counted ∧
      List.Forall₂ (fun attempts result =>
          result = .error .overflow ↔ ∃ a ∈ attempts, Attempt.Overflows a)
        (attempts http settings wire rs) (run http rs ⟨.new settings, wire⟩).1 ∧
      (run http rs ⟨.new settings, wire⟩).2.client.statistics?.map (·.totalTokens.toNat) =
        (if ((ModelClient.shown (attempts http settings wire rs).flatten).map
            Attempt.counted).sum < 2 ^ 64
        then some ((ModelClient.shown (attempts http settings wire rs).flatten).map
          Attempt.counted).sum else none) ∧
      (ModelClient.CountsTokens (attempts http settings wire rs).flatten
          (run http rs ⟨.new settings, wire⟩).1 (run http rs ⟨.new settings, wire⟩).2.client ↔
        (∀ a ∈ (attempts http settings wire rs).flatten, ¬ a.Overflows) ∧
          ((ModelClient.shown (attempts http settings wire rs).flatten).map
            Attempt.counted).sum < 2 ^ 64) := by
  have yields := (run_advances http rs (fresh settings wire)).2
  have results : (run http rs ⟨.new settings, wire⟩).1 =
      (run http.recorded rs (fresh settings wire)).1 := by rw [run_eq_fresh]; rfl
  have accounts := ModelClient.accounts_foldl_after settings
    (attempts http settings wire rs).flatten
  rw [run_client_eq, results]
  exact ⟨accounts.log_tokens, yields.imp fun _ _ call => call.yields.overflow_iff,
    accounts.totalTokens_eq, countsTokens_iff yields accounts⟩

def halfOfAll : Transport Unit := alwaysCounts "9223372036854775808" "0"

/-- The counts of one answer can be too much for a word, and so can those of two answers that fit
into it one by one. -/
theorem largeCounts_overflow :
    ((attempts tooManyAtOnce claudeOnly () [question]).flatten.map Attempt.counted =
        [18446744073709551616] ∧
      (run tooManyAtOnce [question] ⟨.new claudeOnly, ()⟩).1 = [.error .overflow]) ∧
    ((run halfOfAll [question, question] ⟨.new claudeOnly, ()⟩).2.client.log.map (·.tokens.toNat) =
        [9223372036854775808, 9223372036854775808] ∧
      (run halfOfAll [question, question] ⟨.new claudeOnly, ()⟩).2.client.statistics?.isNone) ∧
    ¬ ∀ (http : Transport Unit) (settings : ModelSettings) (rs : List TextRequest),
      ModelClient.CountsTokens (attempts http settings () rs).flatten
        (run http rs ⟨.new settings, ()⟩).1 (run http rs ⟨.new settings, ()⟩).2.client := by
  have broken : (run tooManyAtOnce [question] ⟨.new claudeOnly, ()⟩).1 = [.error .overflow] := by
    decide +kernel
  refine ⟨⟨by decide +kernel, broken⟩, ⟨by decide +kernel, by decide +kernel⟩, fun each => ?_⟩
  have returned := (each tooManyAtOnce claudeOnly [question]).returned
  rw [broken] at returned
  exact returned _ List.mem_cons_self rfl

end ModelSession

end CloudThreat

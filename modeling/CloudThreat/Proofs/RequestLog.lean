import CloudThreat.Proofs.ProviderAttempts
import CloudThreat.Proofs.Tallies
import Mathlib.Data.List.DropRight
import Mathlib.Data.List.Induction

namespace CloudThreat

section Lists

variable {α : Type} {n : Nat}

theorem length_rtake (xs : List α) (n : Nat) : (xs.rtake n).length = min xs.length n := by
  rw [List.rtake, List.length_drop]
  omega

theorem rtake_sublist (xs : List α) (n : Nat) : (xs.rtake n).Sublist xs :=
  List.drop_sublist _ _

/-- What was left out before is left out again. -/
theorem rtake_rtake_concat (xs : List α) (x : α) :
    (xs.rtake n ++ [x]).rtake n = (xs ++ [x]).rtake n := by
  cases n with
  | zero => rw [List.rtake_zero, List.rtake_zero]
  | succ n =>
    have again : (xs.rtake (n + 1)).rtake n = xs.rtake n := by
      simp [List.rtake_eq_reverse_take_reverse, List.take_take]
    rw [List.rtake_concat_succ, List.rtake_concat_succ, again]

end Lists

theorem ModelProvider.text_injective : Function.Injective text :=
  injective_of_listed (l := [claude, openai]) (fun p => by cases p <;> decide) (by decide)

namespace Attempt

variable {settings : ModelSettings} {a : Attempt} {ordinal : Nat} {e : LogEntry}

/-- What is noted of attempts, the first of which has the number one. -/
def entries (settings : ModelSettings) (attempts : List Attempt) : List LogEntry :=
  (attempts.zipIdx 1).filterMap fun x => x.1.noted? settings x.2

/-- The attempts that yielded a text. -/
def fruitful (attempts : List Attempt) : List Attempt :=
  attempts.filter (·.completion?.isSome)

theorem noted?_of_brokenOff (broken : a.brokenOff = true) : a.noted? settings ordinal = none := by
  obtain ⟨x, sent, overflows⟩ := brokenOff_iff.mp broken
  rw [noted?, completion?, sent, Option.bind_some, ModelApi.read_eq_overflow_iff.mpr overflows]
  rfl

theorem requestId_of_noted (h : a.noted? settings ordinal = some e) : e.requestId = ordinal := by
  obtain ⟨c, _, rfl⟩ := Option.map_eq_some_iff.mp h
  rfl

theorem entries_concat (settings : ModelSettings) (attempts : List Attempt) (a : Attempt) :
    entries settings (attempts ++ [a]) =
      entries settings attempts ++ (a.noted? settings (attempts.length + 1)).toList := by
  rw [entries, List.zipIdx_append, List.filterMap_append, Nat.add_comm 1]
  cases h : a.noted? settings (attempts.length + 1) <;> simp [entries, h]

theorem length_entries (settings : ModelSettings) (attempts : List Attempt) :
    (entries settings attempts).length = (fruitful attempts).length := by
  induction attempts using List.reverseRecOn with
  | nil => rfl
  | append_singleton attempts a ih =>
    rw [entries_concat, fruitful, List.filter_append, List.length_append, List.length_append, ih,
      fruitful]
    cases h : a.completion? <;> simp [noted?, h]

theorem entries_ascending (settings : ModelSettings) (attempts : List Attempt) :
    ((entries settings attempts).map (·.requestId)).Pairwise (· < ·) := by
  have numbers : (attempts.zipIdx 1).Pairwise fun x y => x.2 < y.2 := by
    rw [← List.pairwise_map, List.zipIdx_map_snd]
    exact List.pairwise_lt_range'
  rw [List.pairwise_map]
  refine numbers.filterMap _ fun x y before e he e' he' => ?_
  rw [requestId_of_noted he, requestId_of_noted he']
  exact before

end Attempt

namespace ModelClient

variable {settings : ModelSettings} {attempts : List Attempt} {c : ModelClient}

theorem record_log (c : ModelClient) (e : LogEntry) :
    (c.record e).log = (c.log ++ [e]).rtake maxLogSize := by
  rw [record, List.rtake]

/-- What a client keeps of the attempts that it has made; those that were broken off never end. -/
structure Accounts (settings : ModelSettings) (attempts : List Attempt) (c : ModelClient) :
    Prop where
  settings_eq : c.settings = settings
  requestCount_eq : c.requestCount = attempts.length
  activeRequests_eq : c.activeRequests = attempts.countP (·.brokenOff)
  log_eq : c.log = (Attempt.entries settings attempts).rtake maxLogSize

theorem Accounts.new (settings : ModelSettings) : Accounts settings [] (.new settings) :=
  ⟨rfl, rfl, rfl, (List.rtake_nil _).symm⟩

theorem Accounts.after (h : Accounts settings attempts c) (a : Attempt) :
    Accounts settings (attempts ++ [a]) (c.after a) := by
  have noted := Attempt.entries_concat settings attempts a
  have count : c.started.requestCount = (attempts ++ [a]).length := by
    rw [List.length_append, ← h.requestCount_eq]
    rfl
  have active := h.activeRequests_eq
  rw [ModelClient.after, h.settings_eq, h.requestCount_eq]
  split
  next broken =>
    have nothing : a.noted? settings (attempts.length + 1) = none :=
      Attempt.noted?_of_brokenOff broken
    rw [nothing, Option.toList_none, List.append_nil] at noted
    refine ⟨h.settings_eq, count, ?_, ?_⟩
    · rw [List.countP_append, ← active, List.countP_singleton, if_pos broken]
      rfl
    · rw [noted]
      exact h.log_eq
  next ended =>
  have idle : c.started.finished.activeRequests = (attempts ++ [a]).countP (·.brokenOff) := by
    rw [List.countP_append, ← active, List.countP_singleton, if_neg ended]
    exact Nat.add_sub_cancel _ 1
  cases he : a.noted? settings (attempts.length + 1) with
  | none =>
    rw [he, Option.toList_none, List.append_nil] at noted
    refine ⟨h.settings_eq, count, idle, ?_⟩
    rw [noted]
    exact h.log_eq
  | some e =>
    rw [he, Option.toList_some] at noted
    refine ⟨by simpa using h.settings_eq, count, idle, ?_⟩
    calc (c.started.finished.record e).log
      _ = (c.log ++ [e]).rtake maxLogSize := record_log _ e
      _ = (Attempt.entries settings (attempts ++ [a])).rtake maxLogSize := by
        rw [h.log_eq, rtake_rtake_concat, noted]

theorem accounts_foldl_after (settings : ModelSettings) (attempts : List Attempt) :
    Accounts settings attempts (attempts.foldl ModelClient.after (.new settings)) := by
  induction attempts using List.reverseRecOn with
  | nil => exact .new settings
  | append_singleton attempts a ih =>
    rw [List.foldl_append]
    exact ih.after a

/-- What the statistics tell of the log of a client. -/
structure TellsLog (c : ModelClient) (s : ClientStatistics) : Prop where
  totalRequests_eq : s.totalRequests = c.log.length
  activeRequests_eq : s.activeRequests = c.activeRequests
  totalTokens_eq : s.totalTokens.toNat = (c.log.map (·.tokens.toNat)).sum
  providers_counted : s.providers.CountsKinds ModelProvider.text (c.log.map (·.provider))
  providers_total : s.providers.total = c.log.length

theorem tellsLog_of_statistics? {s : ClientStatistics} (h : c.statistics? = some s) :
    TellsLog c s := by
  obtain ⟨total, summed, rfl⟩ := Option.map_eq_some_iff.mp h
  have tokens := WordSize.sum?_eq_some_iff.mp summed
  rw [List.map_map] at tokens
  have counted : Tally.Recounts _ (c.log.map (·.provider.text)) :=
    Tally.Recounts.nil.foldl_add (fun e : LogEntry => e.provider.text) c.log
  have names : c.log.map (·.provider.text) = (c.log.map (·.provider)).map ModelProvider.text := by
    rw [List.map_map]
    rfl
  rw [names] at counted
  have kinds := counted.countsKinds ModelProvider.text_injective
  exact ⟨rfl, rfl, tokens, kinds, by rw [kinds.total, List.length_map]⟩

theorem statistics?_isSome_iff :
    c.statistics?.isSome = true ↔ (c.log.map (·.tokens.toNat)).sum < 2 ^ 64 := by
  rw [statistics?, Option.isSome_map, WordSize.sum?_isSome_iff, List.map_map]
  rfl

/-- The log ends with the latest text; the numbers in it also count the attempts that failed. -/
structure LogsTexts (settings : ModelSettings) (attempts : List Attempt) (c : ModelClient) :
    Prop where
  log_eq : c.log = (Attempt.entries settings attempts).rtake maxLogSize
  log_length : c.log.length = min (Attempt.fruitful attempts).length 1000
  ids_ascending : (c.log.map (·.requestId)).Pairwise (· < ·)

theorem Accounts.logsTexts (h : Accounts settings attempts c) : LogsTexts settings attempts c where
  log_eq := h.log_eq
  log_length := by
    rw [h.log_eq, length_rtake, Attempt.length_entries]
    rfl
  ids_ascending := by
    rw [h.log_eq]
    exact (Attempt.entries_ascending settings attempts).sublist ((rtake_sublist _ _).map _)

/-- What a client shows of its attempts when none goes on: the log, and statistics of it. -/
structure LogsAttempts (settings : ModelSettings) (attempts : List Attempt) (c : ModelClient) :
    Prop where
  texts : LogsTexts settings attempts c
  statistics : ∃ s, c.statistics? = some s ∧ TellsLog c s ∧ s.activeRequests = 0

theorem Accounts.logsAttempts_iff (h : Accounts settings attempts c) :
    LogsAttempts settings attempts c ↔
      (∀ a ∈ attempts, ¬ a.Overflows) ∧ (c.log.map (·.tokens.toNat)).sum < 2 ^ 64 := by
  have idle_iff : c.activeRequests = 0 ↔ ∀ a ∈ attempts, ¬ a.Overflows := by
    rw [h.activeRequests_eq, List.countP_eq_zero]
    exact forall₂_congr fun a _ => not_congr Attempt.brokenOff_iff
  rw [← idle_iff, ← statistics?_isSome_iff, Option.isSome_iff_exists]
  constructor
  · rintro ⟨_, s, shown, tells, idle⟩
    exact ⟨tells.activeRequests_eq ▸ idle, s, shown⟩
  · rintro ⟨idle, s, shown⟩
    have tells := tellsLog_of_statistics? shown
    exact ⟨h.logsTexts, s, shown, tells, tells.activeRequests_eq.trans idle⟩

end ModelClient

namespace ModelSession

variable {σ : Type}

/-- A session with a new client whose wire is recorded. -/
def fresh (settings : ModelSettings) (wire : σ) : ModelSession (σ × List HttpExchange) :=
  ⟨.new settings, wire, []⟩

/-- The attempts of a run of a new client. -/
def attempts (http : Transport σ) (settings : ModelSettings) (wire : σ) (rs : List TextRequest) :
    List (List Attempt) :=
  attemptsFrom http rs (fresh settings wire)

theorem run_eq_fresh (http : Transport σ) (settings : ModelSettings) (wire : σ)
    (rs : List TextRequest) : run http rs ⟨.new settings, wire⟩ =
      Prod.map id forget (run http.recorded rs (fresh settings wire)) :=
  run_forget http rs (fresh settings wire)

/-- The client after a run is made of nothing but its attempts. -/
theorem run_client_eq (http : Transport σ) (settings : ModelSettings) (wire : σ)
    (rs : List TextRequest) : (run http rs ⟨.new settings, wire⟩).2.client =
      (attempts http settings wire rs).flatten.foldl ModelClient.after (.new settings) := by
  rw [run_eq_fresh]
  exact (run_advances http rs (fresh settings wire)).1.client_eq

/-- In every run of a new client the attempts are what goes over the wire, save those without a
request to send, and they decide what each call comes to. The log keeps account of them. Those that
were broken off seem to go on for ever, so that all is well just if no tokens overflow. -/
theorem run_logsAttempts_iff (http : Transport σ) (settings : ModelSettings) (wire : σ)
    (rs : List TextRequest) :
    (attempts http settings wire rs).flatten.filterMap (·.exchange?) =
        (run http.recorded rs (fresh settings wire)).2.wire.2 ∧
      (∀ a ∈ (attempts http settings wire rs).flatten, ∃ key,
        settings.key? a.provider = some key ∧
          (a.exchange?.isSome = true ↔ http.refusal? (ModelApi.url settings a.provider) = none ∧
            key.toList.all Http.isHeaderChar = true)) ∧
      List.Forall₂ (CallYields settings) (attempts http settings wire rs)
        (run http rs ⟨.new settings, wire⟩).1 ∧
      ModelClient.LogsTexts settings (attempts http settings wire rs).flatten
        (run http rs ⟨.new settings, wire⟩).2.client ∧
      (run http rs ⟨.new settings, wire⟩).2.client.activeRequests =
        (attempts http settings wire rs).flatten.countP (·.brokenOff) ∧
      (ModelClient.LogsAttempts settings (attempts http settings wire rs).flatten
          (run http rs ⟨.new settings, wire⟩).2.client ↔
        (∀ a ∈ (attempts http settings wire rs).flatten, ¬ a.Overflows) ∧
          ((run http rs ⟨.new settings, wire⟩).2.client.log.map (·.tokens.toNat)).sum < 2 ^ 64) := by
  obtain ⟨advances, yields⟩ := run_advances http rs (fresh settings wire)
  have results : (run http rs ⟨.new settings, wire⟩).1 =
      (run http.recorded rs (fresh settings wire)).1 := by rw [run_eq_fresh]; rfl
  have accounts := ModelClient.accounts_foldl_after settings
    (attempts http settings wire rs).flatten
  rw [run_client_eq, results]
  exact ⟨advances.sent_eq.symm, advances.keyed, yields, accounts.logsTexts,
    accounts.activeRequests_eq, accounts.logsAttempts_iff⟩

def claudeOnly : ModelSettings :=
  { ModelSettings.default with anthropicKey := some "k", enableFallback := false }

/-- A provider whose answers all give the same counts. -/
def alwaysCounts (input output : String) : Transport Unit where
  refusal? := fun _ => none
  send := fun _ w =>
    (.reply 200 ("\x7b\"content\": [\x7b\"text\": \"Restrict it.\"\x7d], \"usage\": \x7b\"input_tokens\": "
      ++ input ++ ", \"output_tokens\": " ++ output ++ "\x7d\x7d"), w)

def question : TextRequest :=
  ⟨"fix it", none, none, none⟩

def tooManyAtOnce : Transport Unit := alwaysCounts "18446744073709551615" "1"

/-- After an answer whose counts are too much for a word the attempt stays active. -/
theorem largeCounts_stay_active :
    (run tooManyAtOnce [question] ⟨.new claudeOnly, ()⟩).1 = [.error .overflow] ∧
      (run tooManyAtOnce [question] ⟨.new claudeOnly, ()⟩).2.client.activeRequests = 1 ∧
      (run tooManyAtOnce [question] ⟨.new claudeOnly, ()⟩).2.client.log = [] ∧
      ¬ ∀ (http : Transport Unit) (settings : ModelSettings) (rs : List TextRequest),
        ModelClient.LogsAttempts settings (attempts http settings () rs).flatten
          (run http rs ⟨.new settings, ()⟩).2.client := by
  have active : (run tooManyAtOnce [question] ⟨.new claudeOnly, ()⟩).2.client.activeRequests = 1 :=
    by decide +kernel
  refine ⟨by decide +kernel, active, by decide +kernel, fun each => ?_⟩
  obtain ⟨s, _, tells, idle⟩ := (each tooManyAtOnce claudeOnly [question]).statistics
  rw [tells.activeRequests_eq, active] at idle
  cases idle

end ModelSession

end CloudThreat

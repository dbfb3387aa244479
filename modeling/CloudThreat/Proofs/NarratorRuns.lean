import CloudThreat.Proofs.NarrationRequests
import CloudThreat.Proofs.RecordedService

namespace CloudThreat

/-- A request for a text with the answer of the generator. -/
abbrev GenerationExchange := TextRequest × Except GenerationFailure String

/-- What is done with a narrator or, by others, with its cache. -/
inductive NarratorCall where
  | narrate (now : Nat) (o : NarrationOrder)
  | lookUp (now : Nat) (prompt : String) (systemPrompt : Option String)
  | clear (now : Nat)
  | removeExpired (now : Nat)

def NarratorCall.order? : NarratorCall → Option NarrationOrder
  | narrate _ o => some o
  | _ => none

namespace Narrator

variable {σ : Type} {generate : TextGenerator σ} {s : Narrator σ} {now : Nat} {n : Narration}
  {orders orders' : List NarrationOrder} {log log' : List GenerationExchange}
  {cache : Option ReplyCache} {o : NarrationOrder}

/-- A narrator without a cache, or with a new one of some size and time to live. -/
def new (generator : σ) (limits : Option (Nat × Nat)) : Narrator σ :=
  ⟨generator, limits.map fun l => .new l.1 l.2⟩

def after (generate : TextGenerator σ) (s : Narrator σ) : NarratorCall → Narrator σ
  | .narrate now o => (s.complete generate now o.narration).2
  | .lookUp now prompt systemPrompt =>
    { s with cache := s.cache.map (·.after (.get now prompt systemPrompt)) }
  | .clear now => { s with cache := s.cache.map (·.after (.clear now)) }
  | .removeExpired now => { s with cache := s.cache.map (·.after (.removeExpired now)) }

/-- The narrator after a run, the last call of which stands first. -/
def reached (generate : TextGenerator σ) (generator : σ) (limits : Option (Nat × Nat)) :
    List NarratorCall → Narrator σ
  | [] => .new generator limits
  | call :: past => (reached generate generator limits past).after generate call

/-- The narrator after the same run when its generator keeps a record. -/
def reachedRecorded (generate : TextGenerator σ) (generator : σ) (limits : Option (Nat × Nat))
    (past : List NarratorCall) : Narrator (σ × List GenerationExchange) :=
  reached (recorded generate) (generator, []) limits past

/-- What the generator was asked in a run and what it answered. -/
def exchanges (generate : TextGenerator σ) (generator : σ) (limits : Option (Nat × Nat))
    (past : List NarratorCall) : List GenerationExchange :=
  (reachedRecorded generate generator limits past).generator.2

/-- What is in the cache once the generator has answered: a failure is not stored. -/
def keepAnswer (cache : Option ReplyCache) (now : Nat) (n : Narration) :
    Except GenerationFailure String → Option ReplyCache
  | .ok reply => cache.map (·.after (.set now n.prompt reply (some n.kind.systemPrompt)))
  | .error _ => cache

theorem cached_eq (s : Narrator σ) (now : Nat) (n : Narration) : s.cached now n =
    (s.cache.bind fun c => (c.get now n.prompt (some n.kind.systemPrompt)).1,
      ⟨s.generator, s.cache.map (·.after (.get now n.prompt (some n.kind.systemPrompt)))⟩) := by
  obtain ⟨g, cache⟩ := s
  cases cache <;> rfl

theorem complete_of_cached {reply : String} (h : (s.cached now n).1 = some reply) :
    s.complete generate now n = (.ok reply, (s.cached now n).2) := by
  rcases hc : s.cached now n with ⟨found, next⟩
  rw [hc] at h
  subst h
  rw [complete, hc]

theorem complete_of_missed (h : (s.cached now n).1 = none) :
    s.complete generate now n = ((generate n.request s.generator).1,
      ⟨(generate n.request s.generator).2,
        keepAnswer (s.cached now n).2.cache now n (generate n.request s.generator).1⟩) := by
  have generator : (s.cached now n).2.generator = s.generator := by rw [cached_eq]
  rcases hc : s.cached now n with ⟨found, next⟩
  rw [hc] at h generator
  subst h
  rw [complete, hc, ← generator]
  dsimp only
  rcases generate n.request next.generator with ⟨answer, g⟩
  cases answer <;> rfl

/-- A narrator without the record of its generator. -/
def forget (s : Narrator (σ × List GenerationExchange)) : Narrator σ :=
  ⟨s.generator.1, s.cache⟩

theorem cached_forget (s : Narrator (σ × List GenerationExchange)) (now : Nat) (n : Narration) :
    s.forget.cached now n = ((s.cached now n).1, (s.cached now n).2.forget) := by
  rw [cached_eq, cached_eq]
  rfl

/-- Recording changes nothing but the record, which grows just when nothing was found. -/
theorem complete_recorded (s : Narrator (σ × List GenerationExchange)) (now : Nat) (n : Narration) :
    (s.complete (recorded generate) now n).1 = (s.forget.complete generate now n).1 ∧
      (s.complete (recorded generate) now n).2.forget = (s.forget.complete generate now n).2 ∧
      (s.complete (recorded generate) now n).2.generator.2 = s.generator.2 ++
        if (s.forget.cached now n).1 = none
        then [(n.request, (s.forget.complete generate now n).1)] else [] := by
  have plain := cached_forget s now n
  cases found : (s.cached now n).1 with
  | some reply =>
    rw [found] at plain
    have hit : (s.forget.cached now n).1 = some reply := congrArg Prod.fst plain
    rw [complete_of_cached found, complete_of_cached hit, hit, plain, cached_eq]
    simp
  | none =>
    rw [found] at plain
    have missed : (s.forget.cached now n).1 = none := congrArg Prod.fst plain
    rw [complete_of_missed found, complete_of_missed missed, missed, plain, recorded_eq]
    simp [forget]

theorem reached_forget (generate : TextGenerator σ) (generator : σ) (limits : Option (Nat × Nat))
    (past : List NarratorCall) :
    (reachedRecorded generate generator limits past).forget =
      reached generate generator limits past := by
  induction past with
  | nil => rfl
  | cons call past ih =>
    rw [reached, ← ih]
    cases call with
    | narrate now o => exact (complete_recorded _ now o.narration).2.1
    | lookUp now prompt systemPrompt => rfl
    | clear now => rfl
    | removeExpired now => rfl

theorem exchanges_narrate (generate : TextGenerator σ) (generator : σ) (limits : Option (Nat × Nat))
    (past : List NarratorCall) (now : Nat) (o : NarrationOrder) :
    exchanges generate generator limits (.narrate now o :: past) =
      exchanges generate generator limits past ++
        if ((reached generate generator limits past).cached now o.narration).1 = none
        then [(o.request, ((reached generate generator limits past).complete generate now
          o.narration).1)] else [] := by
  rw [← reached_forget]
  exact (complete_recorded _ now o.narration).2.2

/-- Each reply was stored in a run of the cache for an order, and generated for its request. -/
def Backed (orders : List NarrationOrder) (log : List GenerationExchange)
    (cache : Option ReplyCache) : Prop :=
  ∀ c ∈ cache, ∃ maxSize timeToLive calls, c = ReplyCache.reached maxSize timeToLive calls ∧
    ∀ time prompt reply systemPrompt, CacheCall.set time prompt reply systemPrompt ∈ calls →
      ∃ o ∈ orders, o.query = ⟨prompt, systemPrompt⟩ ∧ (o.request, .ok reply) ∈ log

theorem Backed.mono (h : Backed orders log cache) (more : orders ⊆ orders') (longer : log ⊆ log') :
    Backed orders' log' cache := by
  intro c hc
  obtain ⟨maxSize, timeToLive, calls, reached, sets⟩ := h c hc
  refine ⟨maxSize, timeToLive, calls, reached, fun time prompt reply systemPrompt hm => ?_⟩
  obtain ⟨o, ho, query, exchange⟩ := sets time prompt reply systemPrompt hm
  exact ⟨o, more ho, query, longer exchange⟩

theorem Backed.after (h : Backed orders log cache) (call : CacheCall)
    (sets : ∀ time prompt reply systemPrompt, call = .set time prompt reply systemPrompt →
      ∃ o ∈ orders, o.query = ⟨prompt, systemPrompt⟩ ∧ (o.request, .ok reply) ∈ log) :
    Backed orders log (cache.map (·.after call)) := by
  intro c' hc'
  obtain ⟨c, hc, rfl⟩ := Option.map_eq_some_iff.mp hc'
  obtain ⟨maxSize, timeToLive, calls, rfl, before⟩ := h c hc
  refine ⟨maxSize, timeToLive, call :: calls, rfl, fun time prompt reply systemPrompt hm => ?_⟩
  rcases List.mem_cons.mp hm with same | hm
  · exact sets time prompt reply systemPrompt same.symm
  · exact before time prompt reply systemPrompt hm

theorem Backed.narrate {s : Narrator (σ × List GenerationExchange)}
    (h : Backed orders s.generator.2 s.cache) (now : Nat) (o : NarrationOrder) :
    Backed (o :: orders) (s.complete (recorded generate) now o.narration).2.generator.2
      (s.complete (recorded generate) now o.narration).2.cache := by
  have looked : Backed orders s.generator.2 (s.cached now o.narration).2.cache := by
    rw [cached_eq]
    exact h.after _ (by simp)
  cases found : (s.cached now o.narration).1 with
  | some reply =>
    have generator : (s.cached now o.narration).2.generator = s.generator := by rw [cached_eq]
    rw [complete_of_cached found, generator]
    exact looked.mono (List.subset_cons_self o orders) (List.Subset.refl _)
  | none =>
    rcases answered : generate o.narration.request s.generator.1 with ⟨answer, g⟩
    rw [complete_of_missed found, recorded_eq, answered]
    have grown := looked.mono (List.subset_cons_self o orders)
      (List.subset_append_left s.generator.2 [(o.request, answer)])
    cases answer with
    | error e => exact grown
    | ok text =>
      refine grown.after _ fun time prompt reply systemPrompt same => ?_
      obtain ⟨_, rfl, rfl, rfl⟩ := CacheCall.set.inj same
      exact ⟨o, List.mem_cons_self, rfl, List.mem_append_right _ List.mem_cons_self⟩

theorem reachedRecorded_backed (generate : TextGenerator σ) (generator : σ)
    (limits : Option (Nat × Nat)) (past : List NarratorCall) :
    Backed (past.filterMap NarratorCall.order?) (exchanges generate generator limits past)
      (reachedRecorded generate generator limits past).cache := by
  induction past with
  | nil =>
    intro c hc
    obtain ⟨l, _, rfl⟩ := Option.map_eq_some_iff.mp hc
    exact ⟨l.1, l.2, [], rfl, by simp⟩
  | cons call past ih =>
    cases call with
    | narrate now o => exact ih.narrate now o
    | lookUp now prompt systemPrompt => exact ih.after _ (by simp)
    | clear now => exact ih.after _ (by simp)
    | removeExpired now => exact ih.after _ (by simp)

theorem reached_backed (generate : TextGenerator σ) (generator : σ) (limits : Option (Nat × Nat))
    (past : List NarratorCall) :
    Backed (past.filterMap NarratorCall.order?) (exchanges generate generator limits past)
      (reached generate generator limits past).cache := by
  rw [← reached_forget]
  exact reachedRecorded_backed generate generator limits past

/-- A reply that is found was generated for the same request. -/
theorem Backed.request_of_get (h : Backed orders log cache) {c : ReplyCache} (hc : c ∈ cache)
    (free : Sha256.CollisionFree (((o :: orders).map (·.query.text)).map Utf8.encode))
    {text : String} (found : (c.get now o.query.prompt o.query.systemPrompt).1 = some text) :
    (o.request, .ok text) ∈ log := by
  obtain ⟨maxSize, timeToLive, calls, rfl, sets⟩ := h c hc
  obtain ⟨time, prompt, systemPrompt, hm, keys⟩ := ReplyCache.get_stored found
  obtain ⟨o', ho, query, exchange⟩ := sets time prompt text systemPrompt hm
  have sameKey : o'.query.key = o.query.key := by
    rw [query]
    exact keys
  have old : o'.query.text ∈ (o :: orders).map (·.query.text) :=
    List.mem_map_of_mem (List.mem_cons_of_mem o ho)
  have sameText : o'.query.text = o.query.text :=
    Sha256.eq_of_hexOf_eq free old List.mem_cons_self sameKey
  rw [← NarrationOrder.request_eq_of_text_eq sameText]
  exact exchange

/-- What comes of an order, told by the exchanges with the generator before and after. -/
structure FulfilsOrder (generate : TextGenerator σ) (s : Narrator σ) (now : Nat)
    (o : NarrationOrder) (before after : List GenerationExchange) : Prop where
  /-- A text that is returned was generated for the same request, now or before. -/
  text_generated : ∀ text, (s.complete generate now o.narration).1 = .ok text →
    (o.request, .ok text) ∈ after
  /-- The generator is asked just when the cache has nothing. -/
  exchanges_eq : after = before ++
    if (s.cached now o.narration).1 = none
    then [(o.request, (s.complete generate now o.narration).1)] else []
  /-- A failure of the generator is returned, and nothing is stored for it. -/
  of_failure : ∀ e, (s.cached now o.narration).1 = none →
    (generate o.request s.generator).1 = .error e →
    (s.complete generate now o.narration).1 = .error e ∧
      ∀ c' ∈ (s.complete generate now o.narration).2.cache, ∃ c ∈ s.cache,
        ∀ k reply storedAt, c'.Keeps k reply storedAt → c.Keeps k reply storedAt

theorem reached_fulfilsOrder (generate : TextGenerator σ) (generator : σ)
    (limits : Option (Nat × Nat)) (past : List NarratorCall) (now : Nat) (o : NarrationOrder)
    (free : Sha256.CollisionFree
      (((o :: past.filterMap NarratorCall.order?).map (·.query.text)).map Utf8.encode)) :
    FulfilsOrder generate (reached generate generator limits past) now o
      (exchanges generate generator limits past)
      (exchanges generate generator limits (.narrate now o :: past)) := by
  have grown := exchanges_narrate generate generator limits past now o
  have backed := reached_backed generate generator limits past
  refine ⟨?text, grown, ?failure⟩
  case text =>
    intro text returned
    rw [grown]
    cases found : ((reached generate generator limits past).cached now o.narration).1 with
    | none =>
      rw [if_pos rfl, returned]
      exact List.mem_append_right _ List.mem_cons_self
    | some reply =>
      rw [complete_of_cached found] at returned
      rw [Except.ok.inj returned, cached_eq] at found
      obtain ⟨c, hc, get⟩ := Option.bind_eq_some_iff.mp found
      exact List.mem_append_left _ (backed.request_of_get hc free get)
  case failure =>
    intro e missed failed
    have failed : (generate o.narration.request
      (reached generate generator limits past).generator).1 = .error e := failed
    rw [complete_of_missed missed, failed, keepAnswer, cached_eq]
    refine ⟨rfl, fun c' hc' => ?_⟩
    obtain ⟨c, hc, rfl⟩ := Option.map_eq_some_iff.mp hc'
    obtain ⟨maxSize, timeToLive, calls, rfl, _⟩ := backed c hc
    have kept := ReplyCache.reached_wellKept maxSize timeToLive calls
    exact ⟨_, hc, fun k reply storedAt => ReplyCache.keeps_of_getKey kept⟩

def openBucket : Threat := .new "S3-001" "Public bucket" .high .likely "Data Exposure"

def bucketDescription : NarrationOrder :=
  .of .threatDescription openBucket (.new "aws_s3_bucket" "logs" (.obj []))

/-- Of another kind, but with the same role. -/
def bucketAlternatives : NarrationOrder := .mitigationAlternatives openBucket none

def askedBefore : List NarratorCall :=
  [.removeExpired 3, .narrate 1 bucketDescription, .narrate 0 bucketAlternatives]

/-- Answers the first request only. -/
def answersOnce : TextGenerator Nat := fun _ n =>
  (if n = 0 then .ok "Block public access." else .error (.told (.timedOut .claude)), n + 1)

theorem askedAgain_fulfilsOrder :
    Sha256.CollisionFree
        (((bucketAlternatives :: askedBefore.filterMap NarratorCall.order?).map
          (·.query.text)).map Utf8.encode) ∧
      FulfilsOrder answersOnce (reached answersOnce 0 (some (10, 3600)) askedBefore) 5
        bucketAlternatives (exchanges answersOnce 0 (some (10, 3600)) askedBefore)
        (exchanges answersOnce 0 (some (10, 3600))
          (.narrate 5 bucketAlternatives :: askedBefore)) := by
  have apart : Sha256.hash (Utf8.encode bucketAlternatives.query.text) ≠
      Sha256.hash (Utf8.encode bucketDescription.query.text) := by
    rw [Utf8.encode_eq_map, Utf8.encode_eq_map]
    decide +kernel
  have free : Sha256.CollisionFree
      [Utf8.encode bucketAlternatives.query.text, Utf8.encode bucketDescription.query.text,
        Utf8.encode bucketAlternatives.query.text] := .of_apart apart (by simp)
  exact ⟨free, reached_fulfilsOrder _ _ _ _ _ _ free⟩

end Narrator

end CloudThreat

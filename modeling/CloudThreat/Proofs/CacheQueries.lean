import CloudThreat.Proofs.CacheAnswers
import CloudThreat.Proofs.HashedTexts

namespace CloudThreat

/-- What is asked of a cache: a prompt, and the role of the model if there is one. -/
structure CacheQuery where
  prompt : String
  systemPrompt : Option String
deriving Repr, DecidableEq

namespace CacheQuery

/-- No role counts as an empty one. -/
def role (q : CacheQuery) : String := q.systemPrompt.getD ""

def text (q : CacheQuery) : String := ReplyCache.keyText q.prompt q.systemPrompt

def key (q : CacheQuery) : String := ReplyCache.key q.prompt q.systemPrompt

def Same (q q' : CacheQuery) : Prop := q.role = q'.role ∧ q.prompt = q'.prompt

/-- The second role goes on after the first one, just as the mark and the prompt of the first query
go on. -/
def RunsInto (q q' : CacheQuery) : Prop :=
  ∃ rest, rest ≠ "" ∧ q'.role = q.role ++ rest ∧ "|||" ++ q.prompt = rest ++ ("|||" ++ q'.prompt)

variable {q q' : CacheQuery}

theorem append_eq_append_iff {s t s' t' : String} : s ++ t = s' ++ t' ↔
    (∃ rest, s' = s ++ rest ∧ t = rest ++ t') ∨ (∃ rest, s = s' ++ rest ∧ t' = rest ++ t) := by
  constructor
  · intro h
    have lists : s.toList ++ t.toList = s'.toList ++ t'.toList := by
      rw [← String.toList_append, h, String.toList_append]
    rcases List.append_eq_append_iff.mp lists with ⟨rest, first, second⟩ | ⟨rest, first, second⟩
    · refine .inl ⟨String.ofList rest, String.toList_inj.mp ?_, String.toList_inj.mp ?_⟩
      · rw [String.toList_append, String.toList_ofList, first]
      · rw [String.toList_append, String.toList_ofList, second]
    · refine .inr ⟨String.ofList rest, String.toList_inj.mp ?_, String.toList_inj.mp ?_⟩
      · rw [String.toList_append, String.toList_ofList, first]
      · rw [String.toList_append, String.toList_ofList, second]
  · rintro (⟨rest, rfl, rfl⟩ | ⟨rest, rfl, rfl⟩)
    · rw [String.append_assoc]
    · rw [String.append_assoc]

theorem RunsInto.not_same (h : q.RunsInto q') : ¬ q.Same q' := by
  obtain ⟨rest, some, longer, _⟩ := h
  rintro ⟨role, _⟩
  rw [← role] at longer
  exact some ((String.append_right_inj _).mp (longer.symm.trans String.append_empty.symm))

theorem text_eq (q : CacheQuery) : q.text = q.role ++ ("|||" ++ q.prompt) := by
  rw [text, ReplyCache.keyText, String.append_assoc, role]

/-- Two queries are hashed alike where they are the same or one runs into the other. -/
theorem text_eq_iff : q.text = q'.text ↔ q.Same q' ∨ q.RunsInto q' ∨ q'.RunsInto q := by
  rw [text_eq, text_eq]
  constructor
  · intro h
    rcases append_eq_append_iff.mp h with ⟨rest, role, tail⟩ | ⟨rest, role, tail⟩
    · by_cases empty : rest = ""
      · subst empty
        rw [String.append_empty] at role
        rw [String.empty_append] at tail
        exact .inl ⟨role.symm, (String.append_right_inj _).mp tail⟩
      · exact .inr (.inl ⟨rest, empty, role, tail⟩)
    · by_cases empty : rest = ""
      · subst empty
        rw [String.append_empty] at role
        rw [String.empty_append] at tail
        exact .inl ⟨role, ((String.append_right_inj _).mp tail).symm⟩
      · exact .inr (.inr ⟨rest, empty, role, tail⟩)
  · rintro (⟨role, prompt⟩ | ⟨rest, _, role, tail⟩ | ⟨rest, _, role, tail⟩)
    · rw [role, prompt]
    · rw [role, tail, String.append_assoc]
    · rw [role, tail, String.append_assoc]

/-- A query runs only into one whose role has a bar of the mark in it. -/
theorem not_runsInto_of_not_mem (h : '|' ∉ q'.role.toList) : ¬ q.RunsInto q' := by
  rintro ⟨rest, some, role, tail⟩
  cases chars : rest.toList with
  | nil => exact some (String.toList_eq_nil_iff.mp chars)
  | cons c cs =>
    have tails := congrArg String.toList tail
    rw [String.toList_append, String.toList_append, chars] at tails
    have bar : '|' = c := (List.cons.inj tails).1
    rw [role, String.toList_append, chars, ← bar] at h
    exact h (by simp)

end CacheQuery

namespace CacheCall

/-- The query for which a call stores a reply. -/
def stored? : CacheCall → Option CacheQuery
  | set _ prompt _ systemPrompt => some ⟨prompt, systemPrompt⟩
  | _ => none

end CacheCall

namespace ReplyCache

variable {k reply : String} {storedAt : Nat} {past : List CacheCall} {maxSize timeToLive : Nat}
  {queries : List CacheQuery}

/-- What is kept was stored by a call of the run, at whatever times the calls were made. -/
theorem Keeps.stored (h : (reached maxSize timeToLive past).Keeps k reply storedAt) :
    ∃ prompt systemPrompt, CacheCall.set storedAt prompt reply systemPrompt ∈ past ∧
      key prompt systemPrompt = k := by
  induction past with
  | nil => simp [reached, ReplyCache.new, Keeps] at h
  | cons call past ih =>
    have kept := reached_wellKept maxSize timeToLive past
    have before : (reached maxSize timeToLive past).Keeps k reply storedAt →
        ∃ prompt systemPrompt, CacheCall.set storedAt prompt reply systemPrompt ∈ call :: past ∧
          key prompt systemPrompt = k := by
      intro h
      obtain ⟨prompt, systemPrompt, hm, hk⟩ := ih h
      exact ⟨prompt, systemPrompt, List.mem_cons_of_mem _ hm, hk⟩
    cases call with
    | get time prompt systemPrompt => exact before (keeps_of_getKey kept h)
    | set time prompt stored systemPrompt =>
      rw [reached, after] at h
      by_cases same : key prompt systemPrompt = k
      · rw [set, setKey_eq kept, same] at h
        obtain ⟨rfl, rfl⟩ := keeps_renew_self.mp h
        exact ⟨prompt, systemPrompt, List.mem_cons_self, same⟩
      · exact before ((keeps_set_iff kept same).mp h).1
    | clear time => simp [reached, after, clear, Keeps] at h
    | removeExpired time =>
      obtain ⟨lastUsed, hm⟩ := h
      exact before ⟨lastUsed, (List.mem_filter.mp hm).1⟩

theorem get_stored {now : Nat} {prompt : String} {systemPrompt : Option String}
    (h : ((reached maxSize timeToLive past).get now prompt systemPrompt).1 = some reply) :
    ∃ time prompt' systemPrompt', CacheCall.set time prompt' reply systemPrompt' ∈ past ∧
      key prompt' systemPrompt' = key prompt systemPrompt := by
  obtain ⟨time, hk, _⟩ := (getKey_eq_some_iff (reached_wellKept maxSize timeToLive past)).mp h
  obtain ⟨prompt', systemPrompt', hm, same⟩ := hk.stored
  exact ⟨time, prompt', systemPrompt', hm, same⟩

/-- In every run that stores for some queries, each reply to one of them was stored for that one. -/
def AnswersOwn (queries : List CacheQuery) : Prop :=
  ∀ maxSize timeToLive past, (∀ call ∈ past, ∀ q ∈ call.stored?, q ∈ queries) →
    ∀ now, ∀ q ∈ queries, ∀ reply,
      ((reached maxSize timeToLive past).get now q.prompt q.systemPrompt).1 = some reply →
      ∃ time systemPrompt, CacheCall.set time q.prompt reply systemPrompt ∈ past ∧
        systemPrompt.getD "" = q.role

theorem key_eq_iff (free : Sha256.CollisionFree ((queries.map CacheQuery.text).map Utf8.encode))
    {q q' : CacheQuery} (hq : q ∈ queries) (hq' : q' ∈ queries) :
    q.key = q'.key ↔ q.Same q' ∨ q.RunsInto q' ∨ q'.RunsInto q := by
  rw [← CacheQuery.text_eq_iff]
  constructor
  · exact Sha256.eq_of_hexOf_eq free (List.mem_map_of_mem hq) (List.mem_map_of_mem hq')
  · exact congrArg Sha256.hexOf

theorem answersOwn_of_separate
    (free : Sha256.CollisionFree ((queries.map CacheQuery.text).map Utf8.encode))
    (separate : ∀ q ∈ queries, ∀ q' ∈ queries, ¬ q.RunsInto q') : AnswersOwn queries := by
  intro maxSize timeToLive past within now q hq reply h
  obtain ⟨time, prompt, systemPrompt, hm, same⟩ := get_stored h
  have known : ⟨prompt, systemPrompt⟩ ∈ queries := within _ hm _ rfl
  rcases (key_eq_iff free known hq).mp same with ⟨role, rfl⟩ | into | into
  · exact ⟨time, systemPrompt, hm, role⟩
  · exact absurd into (separate _ known _ hq)
  · exact absurd into (separate _ hq _ known)

/-- Under one key, what is stored for one query is returned for the other. -/
theorem get_of_key_eq {q q' : CacheQuery} (same : q.key = q'.key) (maxSize timeToLive : Nat)
    (reply : String) :
    ((reached maxSize timeToLive [.set 0 q'.prompt reply q'.systemPrompt]).get 0 q.prompt
      q.systemPrompt).1 = some reply := by
  have new := reached_wellKept maxSize timeToLive []
  have kept := reached_wellKept maxSize timeToLive [.set 0 q'.prompt reply q'.systemPrompt]
  refine (getKey_eq_some_iff kept).mpr ⟨0, ?_, Nat.zero_le _⟩
  change (set (reached maxSize timeToLive []) 0 q'.prompt reply q'.systemPrompt).Keeps q.key reply 0
  rw [set, setKey_eq new, same]
  exact keeps_renew_self.mpr ⟨rfl, rfl⟩

theorem separate_of_answersOwn (own : AnswersOwn queries) :
    ∀ q ∈ queries, ∀ q' ∈ queries, ¬ q.RunsInto q' := by
  intro q hq q' hq' into
  have same : q.key = q'.key :=
    congrArg Sha256.hexOf (CacheQuery.text_eq_iff.mpr (.inr (.inl into)))
  have within : ∀ call ∈ [CacheCall.set 0 q'.prompt "" q'.systemPrompt],
      ∀ asked ∈ call.stored?, asked ∈ queries := by
    intro call hc asked ha
    rw [List.mem_singleton.mp hc] at ha
    rw [← Option.some.inj ha]
    exact hq'
  obtain ⟨time, systemPrompt, hm, role⟩ := own 1 0 _ within 0 q hq "" (get_of_key_eq same 1 0 "")
  obtain ⟨_, prompt, _, rfl⟩ := CacheCall.set.inj (List.mem_singleton.mp hm)
  exact into.not_same ⟨role.symm, prompt⟩

/-- Over some queries, keys tell the roles and the prompts apart and a cache answers each query with
replies to that query, just if none of them runs into another. -/
theorem answersOwn_iff
    (free : Sha256.CollisionFree ((queries.map CacheQuery.text).map Utf8.encode)) :
    ((∀ q ∈ queries, ∀ q' ∈ queries, q.key = q'.key → q.Same q') ↔
        ∀ q ∈ queries, ∀ q' ∈ queries, ¬ q.RunsInto q') ∧
      (AnswersOwn queries ↔ ∀ q ∈ queries, ∀ q' ∈ queries, ¬ q.RunsInto q') := by
  refine ⟨⟨?_, ?_⟩, separate_of_answersOwn, answersOwn_of_separate free⟩
  · intro apart q hq q' hq' into
    exact into.not_same (apart q hq q' hq' ((key_eq_iff free hq hq').mpr (.inr (.inl into))))
  · intro separate q hq q' hq' same
    rcases (key_eq_iff free hq hq').mp same with same | into | into
    · exact same
    · exact absurd into (separate q hq q' hq')
    · exact absurd into (separate q' hq' q hq)

/-- A prompt without a role and with one. -/
def describeQueries : List CacheQuery :=
  [⟨"describe", none⟩, ⟨"describe", some "You are an expert"⟩]

theorem describeQueries_answersOwn :
    Sha256.CollisionFree ((describeQueries.map CacheQuery.text).map Utf8.encode) ∧
      AnswersOwn describeQueries := by
  have free : Sha256.CollisionFree ((describeQueries.map CacheQuery.text).map Utf8.encode) := by
    decide +kernel
  have plain : ∀ q ∈ describeQueries, '|' ∉ q.role.toList := by decide
  refine ⟨free, (answersOwn_iff free).2.mpr fun q _ q' hq' => ?_⟩
  exact CacheQuery.not_runsInto_of_not_mem (plain q' hq')

/-- Without any collision of hashes, a reply stored for the prompt `a` is returned for `|||a`. -/
theorem markInRole_answers_another :
    CacheQuery.text ⟨"|||a", some "s"⟩ = CacheQuery.text ⟨"a", some "s|||"⟩ ∧
      ((reached 1000 3600000 [.set 0 "a" "1" (some "s|||")]).get 0 "|||a" (some "s")).1 =
        some "1" ∧
      ∀ time systemPrompt, CacheCall.set time "|||a" "1" systemPrompt ∉
        [CacheCall.set 0 "a" "1" (some "s|||")] := by
  have texts : CacheQuery.text ⟨"|||a", some "s"⟩ = CacheQuery.text ⟨"a", some "s|||"⟩ := by
    decide +kernel
  refine ⟨texts, get_of_key_eq (congrArg Sha256.hexOf texts) 1000 3600000 "1", ?_⟩
  intro time systemPrompt hm
  obtain ⟨_, prompt, _⟩ := CacheCall.set.inj (List.mem_singleton.mp hm)
  exact absurd prompt (by decide)

end ReplyCache

end CloudThreat

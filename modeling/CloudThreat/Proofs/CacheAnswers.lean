import CloudThreat.Proofs.CacheHistory

namespace CloudThreat

/-- Does a call store under a key? -/
def CacheCall.storesUnder (k : String) : CacheCall → Bool
  | set _ prompt _ systemPrompt => ReplyCache.key prompt systemPrompt = k
  | _ => false

namespace ReplyCache

variable {c : ReplyCache} {k other reply : String} {past : List CacheCall}
  {maxSize timeToLive now time storedAt : Nat}

/-- The latest reply stored under a key since the last clearing, and when it was stored. -/
def latestSet? (k : String) : List CacheCall → Option (String × Nat)
  | [] => none
  | .get _ _ _ :: past => latestSet? k past
  | .set now prompt reply systemPrompt :: past =>
    if key prompt systemPrompt = k then some (reply, now) else latestSet? k past
  | .clear _ :: _ => none
  | .removeExpired _ :: past => latestSet? k past

/-- Does a call store under another key and cost this one its entry? -/
def drivesOut (c : ReplyCache) (k : String) : CacheCall → Bool
  | .set now prompt reply systemPrompt =>
    key prompt systemPrompt ≠ k ∧ k ∈ c.keys ∧ k ∉ (c.set now prompt reply systemPrompt).keys
  | _ => false

/-- Was the entry of a key driven out after the latest call that stored under the key? -/
def drivenOut (maxSize timeToLive : Nat) (k : String) : List CacheCall → Bool
  | [] => false
  | call :: past =>
    if call.storesUnder k then false
    else (reached maxSize timeToLive past).drivesOut k call || drivenOut maxSize timeToLive k past

/-- A reply that was stored at some time has an entry, be its time over or not. -/
def Keeps (c : ReplyCache) (k reply : String) (storedAt : Nat) : Prop :=
  ∃ lastUsed, (k, ⟨reply, storedAt, lastUsed⟩) ∈ c.entries

theorem Keeps.mem_keys (h : c.Keeps k reply storedAt) : k ∈ c.keys := by
  obtain ⟨lastUsed, hm⟩ := h
  exact mem_keys_of_mem hm

theorem isExpired_eq_false_iff {e : CacheEntry} :
    c.isExpired now e = false ↔ now - e.storedAt ≤ c.timeToLive := by
  rw [isExpired, decide_eq_false_iff_not, Nat.not_lt]

/-- Keys are distinct, so that an entry is all that is known of its key. -/
theorem WellKept.keeps_iff_of_mem (kept : c.WellKept) {e : CacheEntry} (h : (k, e) ∈ c.entries) :
    c.Keeps k reply storedAt ↔ e.reply = reply ∧ e.storedAt = storedAt := by
  constructor
  · rintro ⟨lastUsed, hm⟩
    rw [entry_eq_of_mem kept.keys_distinct h hm]
    exact ⟨rfl, rfl⟩
  · rintro ⟨rfl, rfl⟩
    exact ⟨e.lastUsed, h⟩

theorem getKey_eq_some_iff (kept : c.WellKept) : (c.getKey now k).1 = some reply ↔
    ∃ storedAt, c.Keeps k reply storedAt ∧ now - storedAt ≤ c.timeToLive := by
  rcases getKey_cases kept now k with ⟨absent, hg⟩ | ⟨e, hm, expired, hg⟩ | ⟨e, hm, alive, hg⟩
  · have none : ∀ storedAt, ¬ c.Keeps k reply storedAt := fun storedAt h => absent h.mem_keys
    simp [hg, none]
  · have late : ¬ now - e.storedAt ≤ c.timeToLive := by
      rw [← isExpired_eq_false_iff, expired]
      exact Bool.noConfusion
    rw [hg]
    refine ⟨fun h => by simp at h, ?_⟩
    rintro ⟨storedAt, hk, early⟩
    obtain ⟨_, rfl⟩ := (kept.keeps_iff_of_mem hm).mp hk
    exact absurd early late
  · rw [isExpired_eq_false_iff] at alive
    rw [hg]
    constructor
    · intro h
      exact ⟨e.storedAt, (kept.keeps_iff_of_mem hm).mpr ⟨Option.some.inj h, rfl⟩, alive⟩
    · rintro ⟨storedAt, hk, _⟩
      rw [((kept.keeps_iff_of_mem hm).mp hk).1]

theorem keeps_renew_self {r : String} {t : Nat} :
    (c.renew k reply storedAt).Keeps k r t ↔ r = reply ∧ t = storedAt := by
  constructor
  · rintro ⟨lastUsed, hm⟩
    rcases mem_renew_iff.mp hm with hm | he
    · exact absurd (List.mem_map_of_mem hm) (not_mem_others_keys c k)
    · obtain ⟨_, he⟩ := Prod.mk.inj he
      exact ⟨congrArg CacheEntry.reply he, congrArg CacheEntry.storedAt he⟩
  · rintro ⟨rfl, rfl⟩
    exact ⟨c.clock + 1, mem_renew_iff.mpr (.inr rfl)⟩

/-- Another key keeps its reply as long as it keeps an entry. -/
theorem keeps_renew_of_ne (kept : c.WellKept) {r : String} {t : Nat} (different : other ≠ k) :
    (c.renew other reply storedAt).Keeps k r t ↔
      c.Keeps k r t ∧ k ∈ (c.renew other reply storedAt).keys := by
  have old : ∀ e, (k, e) ∈ (c.renew other reply storedAt).entries → (k, e) ∈ c.entries := by
    intro e hm
    rcases mem_renew_iff.mp hm with hm | he
    · exact (others_sublist c other).subset hm
    · exact absurd (congrArg Prod.fst he).symm different
  constructor
  · intro h
    obtain ⟨lastUsed, hm⟩ := h
    exact ⟨⟨lastUsed, old _ hm⟩, mem_keys_of_mem hm⟩
  · rintro ⟨h, hk⟩
    obtain ⟨⟨_, e⟩, hm, rfl⟩ := List.mem_map.mp hk
    obtain ⟨rfl, rfl⟩ := (kept.keeps_iff_of_mem (old e hm)).mp h
    exact ⟨e.lastUsed, hm⟩

/-- A look-up stores nothing anew, not even a hit. -/
theorem keeps_of_getKey (kept : c.WellKept) (h : (c.getKey time other).2.Keeps k reply storedAt) :
    c.Keeps k reply storedAt := by
  rcases getKey_cases kept time other with ⟨_, hg⟩ | ⟨e, _, _, hg⟩ | ⟨e, hm, _, hg⟩
  · rw [hg] at h
    exact h
  · rw [hg] at h
    obtain ⟨lastUsed, h⟩ := h
    exact ⟨lastUsed, (mem_without_iff.mp h).1⟩
  · rw [hg] at h
    change (c.renew other e.reply e.storedAt).Keeps k reply storedAt at h
    by_cases same : other = k
    · subst same
      obtain ⟨rfl, rfl⟩ := keeps_renew_self.mp h
      exact ⟨e.lastUsed, hm⟩
    · exact ((keeps_renew_of_ne kept same).mp h).1

/-- A look-up drops no reply that lives at the time. -/
theorem Keeps.getKey (kept : c.WellKept) (alive : time - storedAt ≤ c.timeToLive)
    (h : c.Keeps k reply storedAt) : (c.getKey time other).2.Keeps k reply storedAt := by
  rcases getKey_cases kept time other with ⟨_, hg⟩ | ⟨e, hm, expired, hg⟩ | ⟨e, hm, _, hg⟩
  · rw [hg]
    exact h
  · have different : k ≠ other := by
      rintro rfl
      obtain ⟨_, rfl⟩ := (kept.keeps_iff_of_mem hm).mp h
      rw [← isExpired_eq_false_iff, expired] at alive
      exact Bool.noConfusion alive
    rw [hg]
    obtain ⟨lastUsed, h⟩ := h
    exact ⟨lastUsed, mem_without_iff.mpr ⟨h, different⟩⟩
  · rw [hg]
    change (c.renew other e.reply e.storedAt).Keeps k reply storedAt
    by_cases same : other = k
    · subst same
      obtain ⟨rfl, rfl⟩ := (kept.keeps_iff_of_mem hm).mp h
      exact keeps_renew_self.mpr ⟨rfl, rfl⟩
    · refine (keeps_renew_of_ne kept same).mpr ⟨h, ?_⟩
      obtain ⟨lastUsed, h⟩ := h
      have beside : (k, ⟨reply, storedAt, lastUsed⟩) ∈ c.others other := by
        rw [others, if_pos (mem_keys_of_mem hm)]
        exact mem_without_iff.mpr ⟨h, Ne.symm same⟩
      exact mem_keys_of_mem (mem_renew_iff.mpr (.inl beside))

theorem keeps_getKey_iff (kept : c.WellKept) (alive : time - storedAt ≤ c.timeToLive) :
    (c.getKey time other).2.Keeps k reply storedAt ↔ c.Keeps k reply storedAt :=
  ⟨keeps_of_getKey kept, Keeps.getKey kept alive⟩

theorem keeps_removeExpired_iff (alive : time - storedAt ≤ c.timeToLive) :
    (c.removeExpired time).2.Keeps k reply storedAt ↔ c.Keeps k reply storedAt := by
  constructor
  · rintro ⟨lastUsed, hm⟩
    exact ⟨lastUsed, (List.mem_filter.mp hm).1⟩
  · rintro ⟨lastUsed, hm⟩
    refine ⟨lastUsed, List.mem_filter.mpr ⟨hm, ?_⟩⟩
    rw [Bool.not_eq_true', isExpired_eq_false_iff]
    exact alive

/-- A write under another key changes a reply only by driving its entry out. -/
theorem keeps_set_iff (kept : c.WellKept) {prompt stored : String} {systemPrompt : Option String}
    (different : key prompt systemPrompt ≠ k) :
    (c.set time prompt stored systemPrompt).Keeps k reply storedAt ↔
      c.Keeps k reply storedAt ∧ c.drivesOut k (.set time prompt stored systemPrompt) = false := by
  rw [drivesOut, decide_eq_false_iff_not, set, setKey_eq kept, keeps_renew_of_ne kept different]
  refine and_congr_right fun h => ?_
  rw [and_iff_right different, and_iff_right h.mem_keys, not_not]

/-- A reply is kept while it lives just if it is the latest one stored under its key and its entry
was not driven out since. -/
theorem reached_keeps_iff (times : ∀ call ∈ past, call.time ≤ now)
    (alive : now - storedAt ≤ timeToLive) :
    (reached maxSize timeToLive past).Keeps k reply storedAt ↔
      latestSet? k past = some (reply, storedAt) ∧
        drivenOut maxSize timeToLive k past = false := by
  induction past with
  | nil => simp [reached, ReplyCache.new, Keeps, latestSet?]
  | cons call past ih =>
    have kept := reached_wellKept maxSize timeToLive past
    have limit := (reached_limits maxSize timeToLive past).2
    have before := ih fun call hc => times call (List.mem_cons_of_mem _ hc)
    have early := times call List.mem_cons_self
    have aliveThen : call.time - storedAt ≤ (reached maxSize timeToLive past).timeToLive := by
      omega
    cases call with
    | get time prompt systemPrompt =>
      rw [CacheCall.time] at aliveThen
      rw [reached, after, get, keeps_getKey_iff kept aliveThen, before]
      simp [latestSet?, drivenOut, CacheCall.storesUnder, drivesOut]
    | set time prompt stored systemPrompt =>
      rw [reached, after]
      by_cases same : key prompt systemPrompt = k
      · subst same
        rw [set, setKey_eq kept, keeps_renew_self]
        simp [latestSet?, drivenOut, CacheCall.storesUnder, eq_comm]
      · rw [keeps_set_iff kept same, before, and_assoc, latestSet?, if_neg same, drivenOut,
          CacheCall.storesUnder, decide_eq_false same, if_neg Bool.false_ne_true,
          Bool.or_eq_false_iff, and_comm (a := drivenOut _ _ _ _ = false)]
    | clear time => simp [reached, after, clear, Keeps, latestSet?]
    | removeExpired time =>
      rw [CacheCall.time] at aliveThen
      rw [reached, after, keeps_removeExpired_iff aliveThen, before]
      simp [latestSet?, drivenOut, CacheCall.storesUnder, drivesOut]

/-- Caches that keep the same living replies answer alike. -/
theorem getKey_eq_of_keeps_iff {c' : ReplyCache} (kept : c.WellKept) (kept' : c'.WellKept)
    (limit : c'.timeToLive = c.timeToLive)
    (same : ∀ reply storedAt, now - storedAt ≤ c.timeToLive →
      (c'.Keeps k reply storedAt ↔ c.Keeps k reply storedAt)) :
    (c'.getKey now k).1 = (c.getKey now k).1 := by
  refine Option.ext fun reply => ?_
  rw [getKey_eq_some_iff kept, getKey_eq_some_iff kept', limit]
  exact exists_congr fun storedAt => and_congr_left (same reply storedAt)

theorem getKey_isSome_of_mem (kept : c.WellKept) {x : String × CacheEntry} (h : x ∈ c.entries) :
    (c.getKey now x.1).1.isSome = !c.isExpired now x.2 := by
  have found := (lookup_eq_some_iff kept.keys_distinct).mpr h
  cases expired : c.isExpired now x.2 <;> simp [getKey, found, expired]

theorem removeExpired_entries_eq (kept : c.WellKept) (now : Nat) :
    (c.removeExpired now).2.entries =
      c.entries.filter fun x => (c.getKey now x.1).1.isSome :=
  List.filter_congr fun _ hx => (getKey_isSome_of_mem kept hx).symm

theorem removeExpired_count_eq (kept : c.WellKept) (now : Nat) :
    (c.removeExpired now).1 = (c.entries.filter fun x => (c.getKey now x.1).1.isNone).length := by
  have all := List.length_eq_length_filter_add (l := c.entries)
    fun x => (c.getKey now x.1).1.isSome
  simp only [Option.not_isSome] at all
  have difference : (c.removeExpired now).1 = c.size - (c.removeExpired now).2.entries.length := rfl
  rw [difference, removeExpired_entries_eq kept, size, all, Nat.add_sub_cancel_left]

/-- What a cache after a run answers at some time, and which entries it drops then. -/
structure AnswersByHistory (maxSize timeToLive : Nat) (past : List CacheCall) (now : Nat)
    (c : ReplyCache) : Prop where
  get_eq_some_iff : ∀ prompt systemPrompt reply, (c.get now prompt systemPrompt).1 = some reply ↔
    ∃ storedAt, latestSet? (key prompt systemPrompt) past = some (reply, storedAt) ∧
      now - storedAt ≤ timeToLive ∧
      drivenOut maxSize timeToLive (key prompt systemPrompt) past = false
  /-- A reply that is looked up keeps the time at which it was stored. -/
  keeps_of_get : ∀ time prompt systemPrompt k reply storedAt,
    (c.get time prompt systemPrompt).2.Keeps k reply storedAt → c.Keeps k reply storedAt
  get_of_get : ∀ time prompt systemPrompt, time ≤ now → ∀ prompt' systemPrompt',
    ((c.get time prompt systemPrompt).2.get now prompt' systemPrompt').1 =
      (c.get now prompt' systemPrompt').1
  get_of_removeExpired : ∀ prompt systemPrompt,
    ((c.removeExpired now).2.get now prompt systemPrompt).1 = (c.get now prompt systemPrompt).1
  removeExpired_entries : (c.removeExpired now).2.entries =
    c.entries.filter fun x => (c.getKey now x.1).1.isSome
  removeExpired_count : (c.removeExpired now).1 =
    (c.entries.filter fun x => (c.getKey now x.1).1.isNone).length

theorem reached_answersByHistory (times : ∀ call ∈ past, call.time ≤ now) :
    AnswersByHistory maxSize timeToLive past now (reached maxSize timeToLive past) := by
  have kept := reached_wellKept maxSize timeToLive past
  have limit := (reached_limits maxSize timeToLive past).2
  refine ⟨?answer, ?stored, ?hit, ?drop, removeExpired_entries_eq kept now,
    removeExpired_count_eq kept now⟩
  case answer =>
    intro prompt systemPrompt reply
    rw [get, getKey_eq_some_iff kept, limit]
    refine exists_congr fun storedAt => ?_
    rw [and_comm (a := now - storedAt ≤ timeToLive), ← and_assoc]
    exact and_congr_left (reached_keeps_iff times)
  case stored =>
    intro time prompt systemPrompt k reply storedAt
    exact keeps_of_getKey kept
  case hit =>
    intro time prompt systemPrompt early prompt' systemPrompt'
    refine getKey_eq_of_keeps_iff kept (kept.after (.get time prompt systemPrompt))
      (after_limits _ (.get time prompt systemPrompt)).2 fun reply storedAt alive => ?_
    exact keeps_getKey_iff kept (by omega)
  case drop =>
    intro prompt systemPrompt
    refine getKey_eq_of_keeps_iff kept (kept.after (.removeExpired now)) rfl
      fun reply storedAt alive => ?_
    exact keeps_removeExpired_iff alive

/-- An entry stored first and looked up while it lived, one driven out meanwhile, and a third: the
last call stands first. -/
def lookedUpOnce : List CacheCall :=
  [.set 50 "third" "3" none, .get 40 "first" none, .set 1 "second" "2" none,
    .set 0 "first" "1" none]

/-- The look-up saved the first entry from being driven out, but not from expiring. -/
theorem lookedUpOnce_expires :
    (∀ call ∈ lookedUpOnce, call.time ≤ 61) ∧
      ((reached 2 60 lookedUpOnce).get 61 "third" none).1 = some "3" ∧
      ((reached 2 60 lookedUpOnce).get 61 "second" none).1 = none ∧
      drivenOut 2 60 (key "first" none) lookedUpOnce = false ∧
      ((reached 2 60 lookedUpOnce).get 61 "first" none).1 = none := by
  have times : ∀ call ∈ lookedUpOnce, call.time ≤ 61 := by decide
  have history : AnswersByHistory 2 60 lookedUpOnce 61 (reached 2 60 lookedUpOnce) :=
    reached_answersByHistory times
  have third : latestSet? (key "third" none) lookedUpOnce = some ("3", 50) ∧
      drivenOut 2 60 (key "third" none) lookedUpOnce = false := by decide +kernel
  have second : drivenOut 2 60 (key "second" none) lookedUpOnce = true := by decide +kernel
  have first : latestSet? (key "first" none) lookedUpOnce = some ("1", 0) ∧
      drivenOut 2 60 (key "first" none) lookedUpOnce = false := by decide +kernel
  refine ⟨times, ?_, ?_, first.2, ?_⟩
  · exact (history.get_eq_some_iff _ _ _).mpr ⟨50, third.1, by decide, third.2⟩
  · refine Option.eq_none_iff_forall_ne_some.mpr fun reply h => ?_
    obtain ⟨_, _, _, kept⟩ := (history.get_eq_some_iff _ _ _).mp h
    exact Bool.noConfusion (kept.symm.trans second)
  · refine Option.eq_none_iff_forall_ne_some.mpr fun reply h => ?_
    obtain ⟨storedAt, latest, early, _⟩ := (history.get_eq_some_iff _ _ _).mp h
    obtain ⟨_, rfl⟩ := Prod.mk.inj (Option.some.inj (first.1.symm.trans latest))
    omega

end ReplyCache

end CloudThreat

import CloudThreat.Proofs.RecentKeys

namespace CloudThreat

/-- Calls that look up or store. -/
def CacheCall.isAccess : CacheCall → Bool
  | get _ _ _ => true
  | set _ _ _ _ => true
  | clear _ => false
  | removeExpired _ => false

namespace ReplyCache

variable {c : ReplyCache} {k : String} {call : CacheCall} {past : List CacheCall}
  {maxSize timeToLive : Nat}

/-- Does a call look for an entry whose time is over? -/
def findsExpired (c : ReplyCache) : CacheCall → Bool
  | .get now prompt systemPrompt =>
    (c.entries.lookup (key prompt systemPrompt)).any (c.isExpired now)
  | _ => false

/-- No call of a run looks for an entry whose time is over. -/
def NothingExpires (maxSize timeToLive : Nat) : List CacheCall → Prop
  | [] => True
  | call :: past =>
    (reached maxSize timeToLive past).findsExpired call = false ∧
      NothingExpires maxSize timeToLive past

instance decidableNothingExpires (maxSize timeToLive : Nat) :
    ∀ past, Decidable (NothingExpires maxSize timeToLive past)
  | [] => inferInstanceAs (Decidable True)
  | _ :: past =>
    have := decidableNothingExpires maxSize timeToLive past
    inferInstanceAs (Decidable (_ ∧ _))

/-- What the look-ups of a run since the last clearing returned, the last one first. -/
def answers (maxSize timeToLive : Nat) : List CacheCall → List (Option String)
  | [] => []
  | .get now prompt systemPrompt :: past =>
    ((reached maxSize timeToLive past).get now prompt systemPrompt).1 ::
      answers maxSize timeToLive past
  | .set _ _ _ _ :: past => answers maxSize timeToLive past
  | .clear _ :: _ => []
  | .removeExpired _ :: past => answers maxSize timeToLive past

theorem after_entries_of_unused (kept : c.WellKept) (access : call.isAccess = true)
    (alive : c.findsExpired call = false) (unused : c.used? call = none) :
    (c.after call).entries = c.entries := by
  cases call with
  | get now prompt systemPrompt =>
    rcases getKey_cases kept now (key prompt systemPrompt) with
      ⟨_, hg⟩ | ⟨e, hm, expired, _⟩ | ⟨e, _, _, hg⟩
    · rw [after, get, hg]
    · have found := (lookup_eq_some_iff kept.keys_distinct).mpr hm
      simp [findsExpired, found, expired] at alive
    · simp [used?, get, hg] at unused
  | set now prompt reply systemPrompt => simp [used?] at unused
  | clear now => simp [CacheCall.isAccess] at access
  | removeExpired now => simp [CacheCall.isAccess] at access

theorem keys_reverse_eq_take (access : ∀ call ∈ past, call.isAccess = true)
    (alive : NothingExpires maxSize timeToLive past) :
    (reached maxSize timeToLive past).keys.reverse =
      (recentKeys maxSize timeToLive past).take (max maxSize 1) := by
  induction past with
  | nil => simp [reached, new, keys, recentKeys, uses]
  | cons call past ih =>
    have kept := reached_wellKept maxSize timeToLive past
    have size := (reached_limits maxSize timeToLive past).1
    have before := ih (fun call hc => access call (List.mem_cons_of_mem _ hc)) alive.2
    rcases after_cases kept call with ⟨k, reply, storedAt, hu, _, entries⟩ | ⟨hu, _, _⟩
    · have room : max maxSize 1 = max maxSize 1 - 1 + 1 := by omega
      rw [← size] at before
      have beside := others_keys_eq_take (k := k) kept (recentKeys_nodup _ _ _) before
      rw [reached, keys, entries, ← keys, renew_keys_reverse, recentKeys_cons_of_used hu, beside,
        size, room, List.take_succ_cons, Nat.add_sub_cancel]
    · have same := after_entries_of_unused kept (access call List.mem_cons_self) alive.1 hu
      rw [reached, keys, same, ← keys, before, recentKeys_cons_of_unused hu]

theorem getKey_counts (c : ReplyCache) (now : Nat) (k : String) :
    (c.getKey now k).2.hits = c.hits + (if (c.getKey now k).1.isSome = true then 1 else 0) ∧
      (c.getKey now k).2.hits + (c.getKey now k).2.misses = c.hits + c.misses + 1 := by
  unfold getKey
  split
  next => exact ⟨rfl, by simp only []; omega⟩
  next =>
    split
    · exact ⟨rfl, by simp only []; omega⟩
    · exact ⟨rfl, by simp only []; omega⟩

/-- Hits and misses count the look-ups since the last clearing. -/
theorem counts_eq (maxSize timeToLive : Nat) (past : List CacheCall) :
    (reached maxSize timeToLive past).hits =
        (answers maxSize timeToLive past).countP Option.isSome ∧
      (reached maxSize timeToLive past).hits + (reached maxSize timeToLive past).misses =
        (answers maxSize timeToLive past).length := by
  induction past with
  | nil => exact ⟨rfl, rfl⟩
  | cons call past ih =>
    obtain ⟨hits, lookups⟩ := ih
    cases call with
    | get now prompt systemPrompt =>
      obtain ⟨hit, lookup⟩ :=
        getKey_counts (reached maxSize timeToLive past) now (key prompt systemPrompt)
      rw [reached, after, answers, get, List.countP_cons, List.length_cons]
      exact ⟨by rw [hit, hits], by rw [lookup, lookups]⟩
    | set now prompt reply systemPrompt => exact ⟨hits, lookups⟩
    | clear now => exact ⟨rfl, rfl⟩
    | removeExpired now => exact ⟨hits, lookups⟩

/-- In a full cache the others beside a new key are all but the entry used before all of them. -/
theorem others_of_full (kept : c.WellKept) (absent : k ∉ c.keys) (full : c.size = c.maxSize) :
    ∃ old ∈ c.entries, (∀ x, x ∈ c.others k ↔ x ∈ c.entries ∧ x.1 ≠ old.1) ∧
      ∀ x ∈ c.entries, x.1 ≠ old.1 →
        old.2.lastUsed < x.2.lastUsed ∧ [x.1, old.1].Sublist c.keys.reverse := by
  have room := kept.room
  have beside : c.others k = c.entries.tail := by
    rw [others, if_neg absent, if_neg (by omega)]
  have distinct := kept.keys_distinct
  have rising := kept.stamps_rise
  cases he : c.entries with
  | nil => simp [size, he] at full; omega
  | cons old rest =>
    rw [keys, he, List.map_cons, List.nodup_cons] at distinct
    rw [he, List.map_cons, List.pairwise_cons] at rising
    have apart : ∀ x ∈ rest, x.1 ≠ old.1 := fun x hx same =>
      distinct.1 (same ▸ List.mem_map_of_mem hx)
    have later : ∀ x ∈ old :: rest, x.1 ≠ old.1 → x ∈ rest := fun x hx different =>
      (List.mem_cons.mp hx).resolve_left fun same => different (same ▸ rfl)
    refine ⟨old, List.mem_cons_self, fun x => ?_, fun x hx different => ?_⟩
    · rw [beside, he, List.tail_cons]
      exact ⟨fun hx => ⟨List.mem_cons_of_mem _ hx, apart x hx⟩, fun hx => later x hx.1 hx.2⟩
    · have hr := later x hx different
      have front : [x.1].Sublist (rest.map Prod.fst).reverse :=
        List.singleton_sublist.mpr (List.mem_reverse.mpr (List.mem_map_of_mem hr))
      refine ⟨rising.1 _ (List.mem_map_of_mem hr), ?_⟩
      rw [keys, he, List.map_cons, List.reverse_cons]
      exact front.append (List.Sublist.refl [old.1])

/-- How a cache after a run keeps its entries, counts its look-ups and makes room. -/
structure KeepsLastUsed (maxSize timeToLive : Nat) (past : List CacheCall) (c : ReplyCache) :
    Prop where
  size_le : c.size ≤ max maxSize 1
  keys_distinct : c.keys.Nodup
  stamps_distinct : (c.entries.map (·.2.lastUsed)).Nodup
  stamps_le_clock : ∀ x ∈ c.entries, x.2.lastUsed ≤ c.clock
  set_held : ∀ now prompt reply systemPrompt, key prompt systemPrompt ∈ c.keys →
    ∀ x, x ∈ (c.set now prompt reply systemPrompt).entries ↔
      x ∈ c.entries ∧ x.1 ≠ key prompt systemPrompt ∨
        x = (key prompt systemPrompt, ⟨reply, now, c.clock + 1⟩)
  set_room : ∀ now prompt reply systemPrompt, key prompt systemPrompt ∉ c.keys →
    c.size < max maxSize 1 → ∀ x, x ∈ (c.set now prompt reply systemPrompt).entries ↔
      x ∈ c.entries ∨ x = (key prompt systemPrompt, ⟨reply, now, c.clock + 1⟩)
  /-- Only the entry goes whose last use comes before those of all others. -/
  set_full : ∀ now prompt reply systemPrompt, key prompt systemPrompt ∉ c.keys →
    c.size = max maxSize 1 → ∃ old ∈ c.entries, old.1 ≠ key prompt systemPrompt ∧
      (∀ x, x ∈ (c.set now prompt reply systemPrompt).entries ↔
        x ∈ c.entries ∧ x.1 ≠ old.1 ∨
          x = (key prompt systemPrompt, ⟨reply, now, c.clock + 1⟩)) ∧
      ∀ x ∈ c.entries, x.1 ≠ old.1 → old.2.lastUsed < x.2.lastUsed ∧
        [x.1, old.1].Sublist (recentKeys maxSize timeToLive past)
  hits_eq : c.hits = (answers maxSize timeToLive past).countP Option.isSome
  lookups_eq : c.hits + c.misses = (answers maxSize timeToLive past).length
  keys_eq : (∀ call ∈ past, call.isAccess = true) → NothingExpires maxSize timeToLive past →
    c.keys.Perm ((recentKeys maxSize timeToLive past).take (max maxSize 1))

theorem reached_keepsLastUsed (maxSize timeToLive : Nat) (past : List CacheCall) :
    KeepsLastUsed maxSize timeToLive past (reached maxSize timeToLive past) := by
  have kept := reached_wellKept maxSize timeToLive past
  have limit := (reached_limits maxSize timeToLive past).1
  have counts := counts_eq maxSize timeToLive past
  refine ⟨?size, kept.keys_distinct, ?stamps, kept.stamps_le_clock, ?held, ?room, ?full, counts.1,
    counts.2, ?keys⟩
  case size => rw [← limit]; exact kept.size_le
  case stamps => exact kept.stamps_rise.imp fun h => Nat.ne_of_lt h
  case held =>
    intro now prompt reply systemPrompt held x
    rw [set, setKey_eq kept, mem_renew_iff, others, if_pos held, mem_without_iff]
  case room =>
    intro now prompt reply systemPrompt absent small x
    rw [← limit] at small
    rw [set, setKey_eq kept, mem_renew_iff, others, if_neg absent, if_pos small]
  case full =>
    intro now prompt reply systemPrompt absent full
    rw [← limit] at full
    obtain ⟨old, hold, beside, before⟩ := others_of_full kept absent full
    refine ⟨old, hold, fun same => absent (same ▸ mem_keys_of_mem hold), fun x => ?_,
      fun x hx different => ?_⟩
    · rw [set, setKey_eq kept, mem_renew_iff, beside]
    · obtain ⟨stamp, order⟩ := before x hx different
      exact ⟨stamp, order.trans (keys_sublist_recentKeys maxSize timeToLive past)⟩
  case keys =>
    intro access alive
    rw [← keys_reverse_eq_take access alive]
    exact (List.reverse_perm _).symm

/-- Two entries with room for two, one of them looked up, and then a third: the last call stands
first. -/
def thirdEntry : List CacheCall :=
  [.set 3 "third" "3" none, .get 2 "first" none, .set 1 "second" "2" none, .set 0 "first" "1" none]

theorem thirdEntry_keeps_first :
    (∀ call ∈ thirdEntry, call.isAccess = true) ∧ NothingExpires 2 60 thirdEntry ∧
      (reached 2 60 thirdEntry).keys.Perm [key "third" none, key "first" none] := by
  have access : ∀ call ∈ thirdEntry, call.isAccess = true := by decide
  have alive : NothingExpires 2 60 thirdEntry := by decide +kernel
  have used : (recentKeys 2 60 thirdEntry).take (max 2 1) =
      [key "third" none, key "first" none] := by decide +kernel
  exact ⟨access, alive, used ▸ (reached_keepsLastUsed 2 60 thirdEntry).keys_eq access alive⟩

end ReplyCache

end CloudThreat

import CloudThreat.Proofs.DistinctKeys
import CloudThreat.ReplyCache
import Mathlib.Data.List.Nodup
import Mathlib.Data.List.Pairwise

namespace CloudThreat

namespace ReplyCache

variable {c : ReplyCache} {k reply : String} {e : CacheEntry} {x : String × CacheEntry}
  {entries : List (String × CacheEntry)} {storedAt : Nat}

/-- The keys that have an entry, expired or not. -/
def keys (c : ReplyCache) : List String :=
  c.entries.map Prod.fst

theorem mem_keys_of_mem (h : x ∈ c.entries) : x.1 ∈ c.keys :=
  List.mem_map_of_mem h

theorem lookup_isNone_iff : (c.entries.lookup k).isNone = true ↔ k ∉ c.keys := by
  rw [Option.isNone_iff_eq_none, List.lookup_eq_none_iff, keys, List.mem_map]
  constructor
  · rintro absent ⟨p, hp, rfl⟩
    simpa using absent p hp
  · intro absent p hp
    have other : k ≠ p.1 := fun h => absent ⟨p, hp, h.symm⟩
    simpa using other

theorem mem_without_iff : x ∈ without k entries ↔ x ∈ entries ∧ x.1 ≠ k := by
  simp [without]

theorem without_sublist (k : String) (entries : List (String × CacheEntry)) :
    (without k entries).Sublist entries :=
  List.filter_sublist

theorem without_of_not_mem (h : k ∉ entries.map Prod.fst) : without k entries = entries := by
  refine List.filter_eq_self.mpr fun p hp => ?_
  have other : p.1 ≠ k := by
    rintro rfl
    exact h (List.mem_map_of_mem hp)
  simpa using other

theorem without_keys (k : String) (entries : List (String × CacheEntry)) :
    (without k entries).map Prod.fst = (entries.map Prod.fst).filter (· ≠ k) := by
  rw [List.filter_map, without]
  refine congrArg (List.map Prod.fst) (List.filter_congr fun p _ => ?_)
  by_cases h : p.1 = k <;> simp [h]

/-- Where the stamps rise along the entries, it is the first that gives way. -/
theorem evictOldest_eq_tail (rising : (entries.map (·.2.lastUsed)).Pairwise (· < ·)) :
    evictOldest entries = entries.tail := by
  cases entries with
  | nil => rfl
  | cons first rest =>
    obtain ⟨above, _⟩ := List.pairwise_cons.mp rising
    have least : ((first :: rest).map (·.2.lastUsed)).min? = some first.2.lastUsed := by
      refine List.min?_eq_some_iff.mpr ⟨by simp, fun stamp hs => ?_⟩
      rw [List.map_cons, List.mem_cons] at hs
      rcases hs with rfl | hs
      · exact Nat.le_refl _
      · exact Nat.le_of_lt (above stamp hs)
    have later : ∀ p ∈ rest, (p.2.lastUsed != first.2.lastUsed) = true := by
      intro p hp
      have hlt := above p.2.lastUsed (List.mem_map_of_mem hp)
      simpa using Nat.ne_of_gt hlt
    rw [evictOldest, least, List.tail_cons]
    simp only [List.filter_cons, bne_self_eq_false, Bool.false_eq_true, if_false]
    exact List.filter_eq_self.mpr later

/-- What holds of a cache at any time: one entry a key, the entries in the order of their last use,
and no more of them than there is room for. -/
structure WellKept (c : ReplyCache) : Prop where
  keys_distinct : c.keys.Nodup
  stamps_rise : (c.entries.map (·.2.lastUsed)).Pairwise (· < ·)
  stamps_le_clock : ∀ x ∈ c.entries, x.2.lastUsed ≤ c.clock
  room : 0 < c.maxSize
  size_le : c.size ≤ c.maxSize

theorem WellKept.new (maxSize timeToLive : Nat) : (new maxSize timeToLive).WellKept where
  keys_distinct := List.nodup_nil
  stamps_rise := List.Pairwise.nil
  stamps_le_clock := by simp [ReplyCache.new]
  room := by simp only [ReplyCache.new]; omega
  size_le := Nat.zero_le _

/-- Entries may go at any time. -/
theorem WellKept.sublist {c' : ReplyCache} (h : c.WellKept) (sub : c'.entries.Sublist c.entries)
    (size : c'.maxSize = c.maxSize) (clock : c.clock ≤ c'.clock) : c'.WellKept where
  keys_distinct := (sub.map Prod.fst).nodup h.keys_distinct
  stamps_rise := h.stamps_rise.sublist (sub.map _)
  stamps_le_clock := fun x hx => Nat.le_trans (h.stamps_le_clock x (sub.subset hx)) clock
  room := by rw [size]; exact h.room
  size_le := by
    have hl := sub.length_le
    have hs := h.size_le
    simp only [ReplyCache.size] at hs ⊢
    omega

/-- The entries beside the one that a key is given: without its own if it has one, else all of them
while there is room and all but the first when there is none. -/
def others (c : ReplyCache) (k : String) : List (String × CacheEntry) :=
  if k ∈ c.keys then without k c.entries
  else if c.size < c.maxSize then c.entries
  else c.entries.tail

/-- The cache with an entry used now, as the last of all. -/
def renew (c : ReplyCache) (k reply : String) (storedAt : Nat) : ReplyCache :=
  { c with
    clock := c.clock + 1
    entries := c.others k ++ [(k, ⟨reply, storedAt, c.clock + 1⟩)] }

theorem mem_renew_iff : x ∈ (c.renew k reply storedAt).entries ↔
    x ∈ c.others k ∨ x = (k, ⟨reply, storedAt, c.clock + 1⟩) := by
  rw [renew, List.mem_append, List.mem_singleton]

theorem others_sublist (c : ReplyCache) (k : String) : (c.others k).Sublist c.entries := by
  unfold others
  split
  · exact without_sublist k c.entries
  · split
    · exact List.Sublist.refl _
    · exact List.tail_sublist _

theorem not_mem_others_keys (c : ReplyCache) (k : String) : k ∉ (c.others k).map Prod.fst := by
  by_cases held : k ∈ c.keys
  · rw [others, if_pos held, without_keys]
    simp
  · exact fun h => held (((others_sublist c k).map Prod.fst).subset h)

theorem others_length_lt (h : c.WellKept) (k : String) : (c.others k).length < c.maxSize := by
  have hs := h.size_le
  have hr := h.room
  simp only [size] at hs
  unfold others
  split
  next held =>
    obtain ⟨p, hp, hk⟩ := List.mem_map.mp held
    have shorter : (without k c.entries).length < c.entries.length :=
      List.length_filter_lt_length_iff_exists.mpr ⟨p, hp, by simp [hk]⟩
    omega
  next =>
    split
    next small => exact small
    next => rw [List.length_tail]; omega

theorem WellKept.renew (h : c.WellKept) (k reply : String) (storedAt : Nat) :
    (c.renew k reply storedAt).WellKept where
  keys_distinct := by
    have own := (((others_sublist c k).map Prod.fst).nodup h.keys_distinct)
    rw [keys, ReplyCache.renew, List.map_append]
    refine List.nodup_append.mpr ⟨own, by simp, fun a ha b hb => ?_⟩
    rw [List.map_cons, List.map_nil, List.mem_singleton] at hb
    rintro rfl
    rw [hb] at ha
    exact not_mem_others_keys c k ha
  stamps_rise := by
    have own := h.stamps_rise.sublist ((others_sublist c k).map _)
    rw [ReplyCache.renew, List.map_append]
    refine List.pairwise_append.mpr ⟨own, by simp, fun a ha b hb => ?_⟩
    obtain ⟨x, hx, rfl⟩ := List.mem_map.mp ha
    have old := h.stamps_le_clock x ((others_sublist c k).subset hx)
    simp only [List.map_cons, List.map_nil, List.mem_singleton] at hb
    omega
  stamps_le_clock := by
    intro x hx
    simp only [ReplyCache.renew, List.mem_append, List.mem_singleton] at hx ⊢
    rcases hx with hx | rfl
    · have old := h.stamps_le_clock x ((others_sublist c k).subset hx)
      omega
    · exact Nat.le_refl _
  room := h.room
  size_le := by
    have hl := others_length_lt h k
    simp only [ReplyCache.renew, size, List.length_append, List.length_singleton]
    omega

/-- A write puts the entry last, whatever it has to leave out for it. -/
theorem setKey_eq (h : c.WellKept) (now : Nat) (k reply : String) :
    c.setKey now k reply = c.renew k reply now := by
  have evicted := evictOldest_eq_tail h.stamps_rise
  by_cases held : k ∈ c.keys
  · have found : (c.entries.lookup k).isNone = false := by
      rw [← Bool.not_eq_true, lookup_isNone_iff]
      exact not_not_intro held
    simp [setKey, renew, others, held, found, put]
  · have absent := lookup_isNone_iff.mpr held
    by_cases room : c.size < c.maxSize
    · have full : ¬ c.maxSize ≤ c.size := by omega
      simp [setKey, renew, others, held, absent, room, full, put, without_of_not_mem held]
    · have full : c.maxSize ≤ c.size := by omega
      have gone : k ∉ c.entries.tail.map Prod.fst :=
        fun hm => held (((List.tail_sublist _).map Prod.fst).subset hm)
      simp [setKey, renew, others, held, absent, room, full, put, evicted,
        without_of_not_mem gone]

/-- The three outcomes of a look-up. -/
theorem getKey_cases (h : c.WellKept) (now : Nat) (k : String) :
    (k ∉ c.keys ∧
      c.getKey now k = (none, { c with clock := c.clock + 1, misses := c.misses + 1 })) ∨
    (∃ e, (k, e) ∈ c.entries ∧ c.isExpired now e = true ∧
      c.getKey now k = (none, { c with
        clock := c.clock + 1, entries := without k c.entries, misses := c.misses + 1 })) ∨
    (∃ e, (k, e) ∈ c.entries ∧ c.isExpired now e = false ∧
      c.getKey now k = (some e.reply, { c.renew k e.reply e.storedAt with hits := c.hits + 1 })) := by
  cases found : c.entries.lookup k with
  | none =>
    have absent := lookup_isNone_iff.mp (Option.isNone_iff_eq_none.mpr found)
    exact .inl ⟨absent, by simp [getKey, found]⟩
  | some e =>
    have hm := (lookup_eq_some_iff h.keys_distinct).mp found
    have held := mem_keys_of_mem hm
    cases expired : c.isExpired now e with
    | true => exact .inr (.inl ⟨e, hm, expired, by simp [getKey, found, expired]⟩)
    | false =>
      exact .inr (.inr ⟨e, hm, expired,
        by simp [getKey, found, expired, renew, others, held, put]⟩)

end ReplyCache

end CloudThreat

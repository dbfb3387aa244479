import CloudThreat.Proofs.CacheHistory
import CloudThreat.Proofs.FirstOccurrences

namespace CloudThreat

namespace ReplyCache

variable {c : ReplyCache} {k : String} {recent : List String} {call : CacheCall}
  {past : List CacheCall} {maxSize timeToLive : Nat}

/-- The keys that the calls of a run use, that of the last call first. -/
def uses (maxSize timeToLive : Nat) : List CacheCall → List String
  | [] => []
  | call :: past =>
    ((reached maxSize timeToLive past).used? call).toList ++ uses maxSize timeToLive past

/-- The keys used in a run, each once; the earlier in the list, the later the last use. -/
def recentKeys (maxSize timeToLive : Nat) (past : List CacheCall) : List String :=
  (uses maxSize timeToLive past).eraseDups

theorem filter_ne_of_not_mem {keys : List String} (h : k ∉ keys) : keys.filter (· ≠ k) = keys := by
  refine List.filter_eq_self.mpr fun other hm => ?_
  have different : other ≠ k := by
    rintro rfl
    exact h hm
  simpa using different

theorem recentKeys_cons_of_used (h : (reached maxSize timeToLive past).used? call = some k) :
    recentKeys maxSize timeToLive (call :: past) =
      k :: (recentKeys maxSize timeToLive past).filter (· ≠ k) := by
  rw [recentKeys, uses, h, Option.toList_some, List.singleton_append, eraseDups_cons_eq, recentKeys]

theorem recentKeys_cons_of_unused (h : (reached maxSize timeToLive past).used? call = none) :
    recentKeys maxSize timeToLive (call :: past) = recentKeys maxSize timeToLive past := by
  rw [recentKeys, uses, h, Option.toList_none, List.nil_append, recentKeys]

theorem recentKeys_nodup (maxSize timeToLive : Nat) (past : List CacheCall) :
    (recentKeys maxSize timeToLive past).Nodup := by
  induction past with
  | nil => exact List.nodup_nil
  | cons call past ih =>
    cases hu : (reached maxSize timeToLive past).used? call with
    | none => rwa [recentKeys_cons_of_unused hu]
    | some k =>
      rw [recentKeys_cons_of_used hu]
      exact List.nodup_cons.mpr ⟨by simp, ih.filter _⟩

theorem renew_keys_reverse (c : ReplyCache) (k reply : String) (storedAt : Nat) :
    (c.renew k reply storedAt).keys.reverse = k :: ((c.others k).map Prod.fst).reverse := by
  simp [keys, renew]

/-- The entries stand in the order of the last uses of their keys. -/
theorem keys_sublist_recentKeys (maxSize timeToLive : Nat) (past : List CacheCall) :
    (reached maxSize timeToLive past).keys.reverse.Sublist
      (recentKeys maxSize timeToLive past) := by
  induction past with
  | nil => exact List.nil_sublist _
  | cons call past ih =>
    have kept := reached_wellKept maxSize timeToLive past
    rcases after_cases kept call with ⟨k, reply, storedAt, hu, _, entries⟩ | ⟨hu, _, sub⟩
    · have own := ((others_sublist (reached maxSize timeToLive past) k).map Prod.fst).reverse
      have absent : k ∉ (((reached maxSize timeToLive past).others k).map Prod.fst).reverse :=
        fun hm => not_mem_others_keys _ k (List.mem_reverse.mp hm)
      have later := (own.trans ih).filter (· ≠ k)
      rw [filter_ne_of_not_mem absent] at later
      rw [reached, keys, entries, ← keys, renew_keys_reverse, recentKeys_cons_of_used hu]
      exact later.cons_cons k
    · rw [recentKeys_cons_of_unused hu]
      exact ((sub.map Prod.fst).reverse).trans ih

/-- Taking one key out of the first keys moves up the next one. -/
theorem filter_take_of_mem {n : Nat} (distinct : recent.Nodup) (h : k ∈ recent.take n) :
    (recent.take n).filter (· ≠ k) = (recent.filter (· ≠ k)).take (n - 1) := by
  induction recent generalizing n with
  | nil => simp at h
  | cons first rest ih =>
    obtain ⟨absent, distinct⟩ := List.nodup_cons.mp distinct
    cases n with
    | zero => simp at h
    | succ n =>
      rw [List.take_succ_cons] at h ⊢
      by_cases hk : first = k
      · subst hk
        have part : first ∉ rest.take n := fun hm => absent (List.mem_of_mem_take hm)
        rw [List.filter_cons_of_neg (by simp), List.filter_cons_of_neg (by simp),
          filter_ne_of_not_mem absent, filter_ne_of_not_mem part, Nat.add_sub_cancel]
      · have hm : k ∈ rest.take n := (List.mem_cons.mp h).resolve_left (Ne.symm hk)
        cases n with
        | zero => simp at hm
        | succ n =>
          rw [List.filter_cons_of_pos (by simpa using hk),
            List.filter_cons_of_pos (by simpa using hk), ih distinct hm]
          simp

theorem take_filter_of_not_mem {n : Nat} (h : k ∉ recent.take n) :
    (recent.filter (· ≠ k)).take n = recent.take n := by
  induction recent generalizing n with
  | nil => rfl
  | cons first rest ih =>
    cases n with
    | zero => simp
    | succ n =>
      rw [List.take_succ_cons, List.mem_cons, not_or] at h
      rw [List.filter_cons_of_pos (by simpa using Ne.symm h.1), List.take_succ_cons,
        List.take_succ_cons, ih h.2]

/-- Where the entries are the first of the keys used, the others beside a key are the first but one
of the keys used beside it. -/
theorem others_keys_eq_take (kept : c.WellKept) (distinct : recent.Nodup)
    (held : c.keys.reverse = recent.take c.maxSize) :
    ((c.others k).map Prod.fst).reverse = (recent.filter (· ≠ k)).take (c.maxSize - 1) := by
  have room := kept.room
  have hsize : c.keys.length = c.size := List.length_map _
  have hlen : c.size = min c.maxSize recent.length := by
    rw [← hsize, ← List.length_reverse, held, List.length_take]
  by_cases hk : k ∈ c.keys
  · have front : k ∈ recent.take c.maxSize := by
      rw [← held]
      exact List.mem_reverse.mpr hk
    rw [others, if_pos hk, without_keys, ← keys, ← List.filter_reverse, held,
      filter_take_of_mem distinct front]
  · have front : k ∉ recent.take c.maxSize := by
      rw [← held]
      exact fun hm => hk (List.mem_reverse.mp hm)
    have fewer : k ∉ recent.take (c.maxSize - 1) := fun hm =>
      front (List.take_subset_take_left recent (Nat.sub_le _ _) hm)
    rw [take_filter_of_not_mem fewer, others, if_neg hk]
    by_cases small : c.size < c.maxSize
    · have all : recent.take c.maxSize = recent.take (c.maxSize - 1) := by
        rw [List.take_of_length_le (by omega), List.take_of_length_le (by omega)]
      rw [if_pos small, ← keys, held, all]
    · have full : (recent.take c.maxSize).length = c.maxSize := by
        rw [List.length_take]
        omega
      rw [if_neg small, List.map_tail, ← keys, ← List.dropLast_reverse, held,
        List.dropLast_eq_take, full, List.take_take, Nat.min_eq_left (Nat.sub_le _ _)]

end ReplyCache

end CloudThreat

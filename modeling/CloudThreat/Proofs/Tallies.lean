import CloudThreat.Proofs.DistinctKeys
import CloudThreat.Tally
import Mathlib.Data.List.Count
import Mathlib.Data.String.Basic

namespace CloudThreat

namespace Tally

variable {t : Tally} {name : String} {names : List String}

/-- Each name of a list stands once in the tally, with the number of times that it occurs. -/
structure Recounts (t : Tally) (names : List String) : Prop where
  ascending : (t.map Prod.fst).Pairwise (· < ·)
  count : ∀ name, t.count name = names.count name
  positive : ∀ entry ∈ t, 0 < entry.2
  total : t.total = names.length

theorem count_cons (k : String) (n : Nat) (rest : Tally) (name : String) :
    count ((k, n) :: rest) name = if name = k then n else count rest name := by
  by_cases h : name = k
  · simp [count, h]
  · have other : (name == k) = false := by simpa using h
    simp [count, List.lookup_cons, other, h]

theorem count_eq_zero_of_not_mem (absent : name ∉ t.map Prod.fst) : t.count name = 0 := by
  induction t with
  | nil => rfl
  | cons entry rest ih =>
    obtain ⟨other, later⟩ := List.ne_and_not_mem_of_not_mem_cons absent
    rw [count_cons, if_neg other, ih later]

theorem mem_add_keys {k : String} (h : k ∈ (t.add name).map Prod.fst) :
    k = name ∨ k ∈ t.map Prod.fst := by
  induction t with
  | nil => simpa [add] using h
  | cons entry rest ih =>
    rw [add] at h
    split at h
    · exact .inr h
    · split at h
      · simpa using h
      · rcases List.mem_cons.mp h with rfl | later
        · exact .inr List.mem_cons_self
        · exact (ih later).imp_right (List.mem_cons_of_mem _)

theorem add_ascending (ascending : (t.map Prod.fst).Pairwise (· < ·)) (name : String) :
    ((t.add name).map Prod.fst).Pairwise (· < ·) := by
  induction t with
  | nil => simp [add]
  | cons entry rest ih =>
    obtain ⟨below, later⟩ := List.pairwise_cons.mp ascending
    rw [add]
    split
    · exact ascending
    next other =>
    split
    next before =>
      refine List.pairwise_cons.mpr ⟨fun k hk => ?_, ascending⟩
      rcases List.mem_cons.mp hk with rfl | hk
      · exact before
      · exact before.trans (below k hk)
    next notBefore =>
      refine List.pairwise_cons.mpr ⟨fun k hk => ?_, ih later⟩
      rcases mem_add_keys hk with rfl | hk
      · exact lt_of_le_of_ne (not_lt.mp notBefore) (Ne.symm other)
      · exact below k hk

theorem count_add (ascending : (t.map Prod.fst).Pairwise (· < ·)) (name k : String) :
    (t.add name).count k = t.count k + if k = name then 1 else 0 := by
  induction t with
  | nil =>
    rw [add, count_cons]
    split <;> rfl
  | cons entry rest ih =>
    obtain ⟨first, n⟩ := entry
    obtain ⟨below, later⟩ := List.pairwise_cons.mp ascending
    rw [add]
    split
    next same =>
      subst same
      rw [count_cons, count_cons]
      split <;> rfl
    next other =>
    split
    next before =>
      have absent : name ∉ ((first, n) :: rest).map Prod.fst := by
        intro hm
        rcases List.mem_cons.mp hm with same | hm
        · exact other same
        · exact lt_irrefl name (before.trans (below name hm))
      rw [count_cons]
      split
      next same =>
        subst same
        rw [count_eq_zero_of_not_mem absent]
      next => rfl
    next =>
      rw [count_cons, count_cons, ih later]
      split
      next same =>
        subst same
        rw [if_neg (Ne.symm other), Nat.add_zero]
      next => rfl

theorem add_positive (positive : ∀ entry ∈ t, 0 < entry.2) (name : String) :
    ∀ entry ∈ t.add name, 0 < entry.2 := by
  induction t with
  | nil => simp [add]
  | cons entry rest ih =>
    obtain ⟨first, others⟩ := List.forall_mem_cons.mp positive
    rw [add]
    split
    · exact List.forall_mem_cons.mpr ⟨Nat.succ_pos _, others⟩
    · split
      · exact List.forall_mem_cons.mpr ⟨Nat.one_pos, positive⟩
      · exact List.forall_mem_cons.mpr ⟨first, ih others⟩

theorem total_add (t : Tally) (name : String) : (t.add name).total = t.total + 1 := by
  induction t with
  | nil => rfl
  | cons entry rest ih =>
    simp only [total] at ih
    rw [add]
    split
    · simp only [total, List.foldr_cons]
      omega
    · split
      · simp only [total, List.foldr_cons]
        omega
      · simp only [total, List.foldr_cons, ih]
        omega

theorem Recounts.nil : Recounts [] [] :=
  ⟨.nil, fun _ => rfl, by simp, rfl⟩

theorem Recounts.add (h : t.Recounts names) (name : String) :
    (t.add name).Recounts (names ++ [name]) where
  ascending := add_ascending h.ascending name
  count := by
    intro k
    rw [count_add h.ascending, h.count, List.count_append, List.count_singleton]
    by_cases same : k = name
    · simp [same]
    · simp [same, Ne.symm same]
  positive := add_positive h.positive name
  total := by rw [total_add, h.total, List.length_append, List.length_singleton]

/-- Counting more elements by name goes on with the names that were counted before. -/
theorem Recounts.foldl_add {α : Type} (nameOf : α → String) (xs : List α)
    (h : t.Recounts names) :
    (xs.foldl (fun t x => t.add (nameOf x)) t).Recounts (names ++ xs.map nameOf) := by
  induction xs generalizing t names with
  | nil => simpa using h
  | cons x xs ih =>
    rw [List.foldl_cons, List.map_cons, List.append_cons]
    exact ih (h.add (nameOf x))

theorem Recounts.perm {names' : List String} (h : t.Recounts names) (p : names.Perm names') :
    t.Recounts names' :=
  ⟨h.ascending, fun name => (h.count name).trans (p.count_eq name), h.positive,
    h.total.trans p.length_eq⟩

theorem Recounts.keys_nodup (h : t.Recounts names) : (t.map Prod.fst).Nodup :=
  h.ascending.imp fun before => ne_of_lt before

theorem count_of_mem {n : Nat} (distinct : (t.map Prod.fst).Nodup) (h : (name, n) ∈ t) :
    t.count name = n := by
  rw [count, (lookup_eq_some_iff distinct).mpr h, Option.getD_some]

/-- The tally holds the name of each kind in a list once, with the number of times that the kind
occurs. -/
structure CountsKinds {κ : Type} [DecidableEq κ] (t : Tally) (nameOf : κ → String)
    (kinds : List κ) : Prop where
  once : (t.map Prod.fst).Nodup
  named : ∀ entry ∈ t, ∃ k ∈ kinds, entry.1 = nameOf k
  count : ∀ k, t.count (nameOf k) = kinds.count k
  total : t.total = kinds.length

theorem Recounts.countsKinds {κ : Type} [DecidableEq κ] {nameOf : κ → String} {kinds : List κ}
    (h : t.Recounts (kinds.map nameOf)) (apart : Function.Injective nameOf) :
    t.CountsKinds nameOf kinds where
  once := h.keys_nodup
  named := by
    rintro ⟨name, n⟩ hn
    have occurs : 0 < (kinds.map nameOf).count name := by
      rw [← h.count, count_of_mem h.keys_nodup hn]
      exact h.positive _ hn
    obtain ⟨k, hk, rfl⟩ := List.mem_map.mp (List.count_pos_iff.mp occurs)
    exact ⟨k, hk, rfl⟩
  count := by
    intro k
    rw [h.count, List.count_map_of_injective kinds nameOf apart]
  total := by rw [h.total, List.length_map]

end Tally

end CloudThreat

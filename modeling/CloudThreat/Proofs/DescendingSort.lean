import Mathlib.Order.Lattice

namespace CloudThreat

variable {α β : Type} [LinearOrder β] {key : α → β}

/-- The greatest key first; elements with one key keep their order. -/
def sortDescending (key : α → β) (xs : List α) : List α :=
  xs.mergeSort fun a b => decide (key b ≤ key a)

theorem descending_trans (key : α → β) (a b c : α) :
    decide (key b ≤ key a) = true → decide (key c ≤ key b) = true →
      decide (key c ≤ key a) = true := by
  simp only [decide_eq_true_eq]
  exact fun hba hcb => hcb.trans hba

theorem descending_total (key : α → β) (a b : α) :
    (decide (key b ≤ key a) || decide (key a ≤ key b)) = true := by
  simpa using le_total (key b) (key a)

theorem mergeSort_eq_sortDescending {le : α → α → Bool} {xs : List α}
    (agree : ∀ a ∈ xs, ∀ b ∈ xs, le a b = decide (key b ≤ key a)) :
    xs.mergeSort le = sortDescending key xs := by
  have same : (xs.mergeSort le).map id =
      (xs.map id).mergeSort fun a b => decide (key b ≤ key a) := List.map_mergeSort agree
  rwa [List.map_id, List.map_id] at same

theorem sortDescending_perm (key : α → β) (xs : List α) : (sortDescending key xs).Perm xs :=
  List.mergeSort_perm xs _

theorem sortDescending_pairwise (key : α → β) (xs : List α) :
    (sortDescending key xs).Pairwise fun a b => key b ≤ key a := by
  have sorted := List.pairwise_mergeSort (descending_trans key) (descending_total key) xs
  exact sorted.imp fun h => of_decide_eq_true h

/-- The elements with one key come in the order that they had. -/
theorem sortDescending_filter_key (key : α → β) (xs : List α) (k : β) :
    (sortDescending key xs).filter (fun a => key a = k) = xs.filter fun a => key a = k := by
  have equal : (xs.filter fun a => key a = k).Pairwise
      fun a b => decide (key b ≤ key a) = true := by
    refine List.pairwise_of_forall_mem_list fun a ha b hb => ?_
    have ha' := of_decide_eq_true (List.mem_filter.mp ha).2
    have hb' := of_decide_eq_true (List.mem_filter.mp hb).2
    simp [ha', hb']
  have kept := List.sublist_mergeSort (descending_trans key) (descending_total key) equal
    List.filter_sublist
  have hs := kept.filter fun a => decide (key a = k)
  rw [List.filter_filter] at hs
  simp only [Bool.and_self] at hs
  have hp := (sortDescending_perm key xs).filter fun a => decide (key a = k)
  exact (hs.eq_of_length hp.length_eq.symm).symm

/-- No element with the same keys as a descending list comes before its head. -/
theorem key_le_key_head {x y : α} {xs ys : List α} (below : ∀ a ∈ xs, key a ≤ key x)
    (same : ∀ k, (x :: xs).filter (fun a => key a = k) = (y :: ys).filter fun a => key a = k) :
    key y ≤ key x := by
  have found : y ∈ (x :: xs).filter fun a => key a = key y := by
    rw [same (key y)]
    simp
  rcases List.mem_cons.mp (List.mem_filter.mp found).1 with rfl | hm
  · exact le_rfl
  · exact below y hm

/-- Of descending lists there is one for each choice of the elements with each key. -/
theorem eq_of_filter_key_eq {xs ys : List α} (hx : xs.Pairwise fun a b => key b ≤ key a)
    (hy : ys.Pairwise fun a b => key b ≤ key a)
    (same : ∀ k, xs.filter (fun a => key a = k) = ys.filter fun a => key a = k) : xs = ys := by
  induction xs generalizing ys with
  | nil =>
    refine (List.eq_nil_iff_forall_not_mem.mpr fun y hm => ?_).symm
    have found : y ∈ ys.filter fun a => key a = key y := List.mem_filter.mpr ⟨hm, by simp⟩
    rw [← same (key y)] at found
    cases found
  | cons x xs ih =>
    cases ys with
    | nil =>
      have none := same (key x)
      simp at none
    | cons y ys =>
      obtain ⟨belowX, restX⟩ := List.pairwise_cons.mp hx
      obtain ⟨belowY, restY⟩ := List.pairwise_cons.mp hy
      have equal : key y = key x :=
        le_antisymm (key_le_key_head belowX same) (key_le_key_head belowY fun k => (same k).symm)
      have heads := same (key x)
      simp only [List.filter_cons, equal, decide_true, if_true, List.cons.injEq] at heads
      obtain ⟨rfl, _⟩ := heads
      congr 1
      refine ih restX restY fun k => ?_
      have tails := same k
      rw [List.filter_cons, List.filter_cons] at tails
      split at tails
      · exact (List.cons.inj tails).2
      · exact tails

theorem sortDescending_filter (key : α → β) (p : α → Bool) (xs : List α) :
    sortDescending key (xs.filter p) = (sortDescending key xs).filter p := by
  have kept : ((sortDescending key xs).filter p).Pairwise fun a b => key b ≤ key a :=
    (sortDescending_pairwise key xs).filter p
  refine eq_of_filter_key_eq (sortDescending_pairwise key _) kept fun k => ?_
  rw [sortDescending_filter_key, List.filter_filter, List.filter_filter]
  simp only [Bool.and_comm _ (p _)]
  rw [← List.filter_filter, ← List.filter_filter, sortDescending_filter_key]

theorem sortDescending_map {γ : Type} (key : α → β) (f : γ → α) (xs : List γ) :
    sortDescending key (xs.map f) = (sortDescending (fun c => key (f c)) xs).map f :=
  (List.map_mergeSort (f := f) (l := xs) fun _ _ _ _ => rfl).symm

theorem sortDescending_eq_self_iff {xs : List α} :
    sortDescending key xs = xs ↔ xs.Pairwise fun a b => key b ≤ key a := by
  constructor
  · intro h
    rw [← h]
    exact sortDescending_pairwise key xs
  · intro h
    exact eq_of_filter_key_eq (sortDescending_pairwise key xs) h (sortDescending_filter_key key xs)

/-- A property that later elements pass on to earlier ones selects the front of a list. -/
theorem filter_isPrefix_of_pairwise {p : α → Bool} {xs : List α}
    (closed : xs.Pairwise fun a b => p b = true → p a = true) : xs.filter p <+: xs := by
  induction xs with
  | nil => exact List.prefix_rfl
  | cons x rest ih =>
    obtain ⟨first, others⟩ := List.pairwise_cons.mp closed
    cases hx : p x with
    | true =>
      rw [List.filter_cons_of_pos hx]
      exact List.cons_prefix_cons.mpr ⟨rfl, ih others⟩
    | false =>
      have none : (x :: rest).filter p = [] := by
        refine List.filter_eq_nil_iff.mpr fun y hy hp => ?_
        rcases List.mem_cons.mp hy with rfl | hy
        · simp [hx] at hp
        · simp [hx] at first
          simp [first y hy] at hp
      rw [none]
      exact List.nil_prefix

end CloudThreat

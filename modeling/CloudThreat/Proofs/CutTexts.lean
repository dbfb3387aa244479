import CloudThreat.Cut
import Mathlib.Data.List.Basic

namespace CloudThreat

variable {α : Type} [DecidableEq α] {sep : α} {xs part : List α}

theorem cut_ne_nil (sep : α) (xs : List α) : cut sep xs ≠ [] := by
  cases xs with
  | nil => simp [cut]
  | cons c rest =>
    rw [cut]
    split
    · simp
    · split <;> simp

theorem cut_of_not_mem (h : sep ∉ part) : cut sep part = [part] := by
  induction part with
  | nil => rfl
  | cons c rest ih =>
    obtain ⟨other, later⟩ := List.ne_and_not_mem_of_not_mem_cons h
    rw [cut, if_neg (Ne.symm other), ih later]

theorem cut_append (sep : α) (xs ys : List α) :
    cut sep (xs ++ sep :: ys) = cut sep xs ++ cut sep ys := by
  induction xs with
  | nil => simp [cut]
  | cons c rest ih =>
    rw [List.cons_append, cut, cut, ih]
    split
    · rfl
    · cases parts : cut sep rest with
      | nil => exact absurd parts (cut_ne_nil sep rest)
      | cons first others => rfl

/-- A separator that none follows cuts off the last part. -/
theorem cut_append_cons (xs : List α) (h : sep ∉ part) :
    cut sep (xs ++ sep :: part) = cut sep xs ++ [part] := by
  rw [cut_append, cut_of_not_mem h]

theorem cut_eq_singleton_nil_iff : cut sep xs = [[]] ↔ xs = [] := by
  constructor
  · intro h
    cases xs with
    | nil => rfl
    | cons c rest =>
      rw [cut] at h
      split at h
      · simp [cut_ne_nil] at h
      · split at h <;> simp at h
  · rintro rfl
    rfl

omit [DecidableEq α] in
/-- The last place of a separator. -/
theorem exists_last_of_mem (h : sep ∈ xs) :
    ∃ before part, xs = before ++ sep :: part ∧ sep ∉ part := by
  obtain ⟨after, before, reversed, first⟩ := List.eq_append_cons_of_mem (List.mem_reverse.mpr h)
  refine ⟨before.reverse, after.reverse, ?_, fun h => first (List.mem_reverse.mp h)⟩
  rw [← List.reverse_reverse xs, reversed]
  simp

end CloudThreat

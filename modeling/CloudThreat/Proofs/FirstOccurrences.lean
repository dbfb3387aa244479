import Mathlib.Data.List.Induction
import Mathlib.Data.List.Nodup

namespace CloudThreat

variable {α : Type} [DecidableEq α] {a : α} {l : List α}

theorem eraseDups_concat_of_mem (h : a ∈ l) : (l ++ [a]).eraseDups = l.eraseDups := by
  simp [List.eraseDups_append, List.removeAll, h]

theorem eraseDups_concat_of_not_mem (h : a ∉ l) :
    (l ++ [a]).eraseDups = l.eraseDups ++ [a] := by
  simp [List.eraseDups_append, List.removeAll, List.eraseDups_cons, h]

theorem eraseDups_nodup (l : List α) : l.eraseDups.Nodup := by
  induction l using List.reverseRecOn with
  | nil => exact List.nodup_nil
  | append_singleton l a ih =>
    by_cases h : a ∈ l
    · rw [eraseDups_concat_of_mem h]
      exact ih
    · rw [eraseDups_concat_of_not_mem h]
      refine List.nodup_append.mpr ⟨ih, by simp, ?_⟩
      intro b hb b' hb'
      obtain rfl := List.mem_singleton.mp hb'
      rintro rfl
      exact h (List.mem_eraseDups.mp hb)

theorem eraseDups_of_nodup (h : l.Nodup) : l.eraseDups = l := by
  induction l with
  | nil => rfl
  | cons a l ih =>
    obtain ⟨fresh, h⟩ := List.nodup_cons.mp h
    have kept : l.filter (fun b => !b == a) = l := by
      refine List.filter_eq_self.mpr fun b hb => ?_
      have different : b ≠ a := by
        rintro rfl
        exact fresh hb
      simpa using different
    rw [List.eraseDups_cons, kept, ih h]

theorem eraseDups_filter (p : α → Bool) (l : List α) :
    (l.filter p).eraseDups = l.eraseDups.filter p := by
  match l with
  | [] => rfl
  | a :: l =>
    have shorter := eraseDups_filter p (l.filter fun b => !b == a)
    by_cases ha : p a = true
    · have swap : (l.filter p).filter (fun b => !b == a) =
          (l.filter fun b => !b == a).filter p := by
        rw [List.filter_filter, List.filter_filter]
        exact List.filter_congr fun b _ => Bool.and_comm _ _
      rw [List.filter_cons_of_pos ha, List.eraseDups_cons, List.eraseDups_cons,
        List.filter_cons_of_pos ha, swap, shorter]
    · have none : (l.filter fun b => !b == a).filter p = l.filter p := by
        rw [List.filter_filter]
        refine List.filter_congr fun b _ => ?_
        by_cases hb : b = a
        · simp [hb, ha]
        · simp [hb]
      rw [List.filter_cons_of_neg ha, List.eraseDups_cons, List.filter_cons_of_neg ha, ← shorter,
        none]
termination_by l.length
decreasing_by
  have hl := List.length_filter_le (fun b => !b == a) l
  simp only [List.length_cons]
  omega

theorem eraseDups_cons_eq (a : α) (l : List α) :
    (a :: l).eraseDups = a :: l.eraseDups.filter (· ≠ a) := by
  have same : l.filter (fun b => !b == a) = l.filter (· ≠ a) :=
    List.filter_congr fun b _ => by by_cases h : b = a <;> simp [h]
  rw [List.eraseDups_cons, same, eraseDups_filter]

theorem filter_unseen_filter_ne (l seen : List α) (a : α) :
    (l.filter (· ∉ seen)).filter (fun b => !b == a) = l.filter (· ∉ a :: seen) := by
  rw [List.filter_filter]
  refine List.filter_congr fun b _ => ?_
  by_cases h : b = a <;> simp [h]

end CloudThreat

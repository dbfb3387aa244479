import Mathlib.Data.List.Nodup
import Mathlib.Data.List.Pairwise
import Mathlib.Data.List.Perm.Basic

namespace CloudThreat

variable {κ ε : Type} [BEq κ] [LawfulBEq κ] {k : κ} {e e' : ε} {entries : List (κ × ε)}

theorem lookup_eq_some_iff (distinct : (entries.map Prod.fst).Nodup) :
    entries.lookup k = some e ↔ (k, e) ∈ entries := by
  constructor
  · intro h
    obtain ⟨before, after, rfl, _⟩ := List.lookup_eq_some_iff.mp h
    simp
  · intro h
    obtain ⟨before, after, rfl⟩ := List.append_of_mem h
    refine List.lookup_eq_some_iff.mpr ⟨before, after, rfl, fun p hp => ?_⟩
    rw [List.map_append, List.map_cons] at distinct
    have apart := (List.nodup_append.mp distinct).2.2 p.1 (List.mem_map_of_mem hp) k
      List.mem_cons_self
    simpa using apart.symm

theorem entry_eq_of_mem (distinct : (entries.map Prod.fst).Nodup) (h : (k, e) ∈ entries)
    (h' : (k, e') ∈ entries) : e = e' := by
  rw [← lookup_eq_some_iff distinct] at h h'
  exact Option.some.inj (h.symm.trans h')

/-- Names that are all different in a list of everything that has one are nowhere the same. -/
theorem injective_of_listed {α β : Type} {f : α → β} {l : List α} (listed : ∀ a, a ∈ l)
    (distinct : (l.map f).Nodup) : Function.Injective f :=
  fun a b h => List.inj_on_of_nodup_map distinct (listed a) (listed b) h

/-- Elements that are gathered by their keys are all there, each as often as before. -/
theorem flatMap_filter_perm {α β : Type} [DecidableEq β] {key : α → β} {keys : List β}
    {l : List α} (distinct : keys.Nodup) (covered : ∀ a ∈ l, key a ∈ keys) :
    (keys.flatMap fun k => l.filter (key · = k)).Perm l := by
  induction keys generalizing l with
  | nil =>
    have empty : l = [] := by
      refine List.eq_nil_iff_forall_not_mem.mpr fun a ha => ?_
      simpa using covered a ha
    rw [empty, List.flatMap_nil]
  | cons k keys ih =>
    obtain ⟨fresh, distinct⟩ := List.nodup_cons.mp distinct
    have others : (keys.flatMap fun k' => l.filter (key · = k')) =
        keys.flatMap fun k' => (l.filter (key · ≠ k)).filter (key · = k') := by
      refine List.flatMap_congr fun k' hk' => ?_
      rw [List.filter_filter]
      refine List.filter_congr fun a _ => ?_
      have apart : k' ≠ k := fun same => fresh (same ▸ hk')
      by_cases h : key a = k' <;> simp [h, apart]
    have rest := ih (l := l.filter (key · ≠ k)) distinct fun a ha => by
      obtain ⟨ha, other⟩ := List.mem_filter.mp ha
      exact (List.mem_cons.mp (covered a ha)).resolve_left (by simpa using other)
    rw [List.flatMap_cons, others]
    refine (rest.append_left _).trans ?_
    have parts := List.filter_append_perm (fun a => decide (key a = k)) l
    simpa using parts

end CloudThreat

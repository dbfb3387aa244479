import CloudThreat.Proofs.RuleEvaluation
import Mathlib.Logic.Relation

namespace CloudThreat

namespace LogicGroup

variable {g g' : LogicGroup} {before : List LogicGroup}

/-- A nested group dissolved into the group around it, `before` being the groups that precede it.
Without parts it would not hold, so it has some. -/
inductive Inlined (before : List LogicGroup) : LogicGroup → LogicGroup → Prop
  | mk {conditions : List Condition} {nested : LogicGroup} {after : List LogicGroup} :
      nested.isEmpty = false →
      Inlined before ⟨nested.logic, conditions, before ++ nested :: after⟩
        ⟨nested.logic, conditions ++ nested.conditions, before ++ nested.groups ++ after⟩

/-- A change to one group that keeps its meaning. -/
inductive Rewritten : LogicGroup → LogicGroup → Prop
  | reordered {logic : Logic} {conditions conditions' : List Condition}
      {groups groups' : List LogicGroup} : conditions.Perm conditions' → groups.Perm groups' →
      Rewritten ⟨logic, conditions, groups⟩ ⟨logic, conditions', groups'⟩
  | inlined {before : List LogicGroup} {g g' : LogicGroup} : Inlined before g g' → Rewritten g g'

/-- A change to a group itself, or to one of the groups in it, however deep. -/
inductive AtSomeLevel (change : LogicGroup → LogicGroup → Prop) : LogicGroup → LogicGroup → Prop
  | here {g g' : LogicGroup} : change g g' → AtSomeLevel change g g'
  | inside {logic : Logic} {conditions : List Condition} {before after : List LogicGroup}
      {g g' : LogicGroup} : AtSomeLevel change g g' →
      AtSomeLevel change ⟨logic, conditions, before ++ g :: after⟩
        ⟨logic, conditions, before ++ g' :: after⟩

/-- Both groups hold for the same documents, and have similar lists of conditions. -/
structure Agrees (similar : List Condition → List Condition → Prop) (g g' : LogicGroup) : Prop where
  holds_iff : ∀ document, g.Holds document ↔ g'.Holds document
  similar_leaves : similar g.leaves g'.leaves

theorem isEmpty_eq_false_iff : g.isEmpty = false ↔ g.conditions ≠ [] ∨ g.groups ≠ [] := by
  rw [isEmpty, Bool.and_eq_false_iff, List.isEmpty_eq_false_iff, List.isEmpty_eq_false_iff]

theorem Inlined.holds_iff (h : Inlined before g g') (document : Json) :
    g.Holds document ↔ g'.Holds document := by
  cases h with
  | @mk conditions nested after filled =>
    obtain ⟨logic, conditions', groups'⟩ := nested
    cases logic with
    | all =>
      have parts : conditions' ≠ [] ∨ groups' ≠ [] := isEmpty_eq_false_iff.mp filled
      simp only [holds_all_iff, List.forall_mem_append, List.forall_mem_cons]
      constructor
      · rintro ⟨_, hc, hb, ⟨_, hc', hg'⟩, ha⟩
        refine ⟨?_, ⟨hc, hc'⟩, ⟨hb, hg'⟩, ha⟩
        rcases parts with some | some
        · exact Or.inl (List.append_ne_nil_of_right_ne_nil _ some)
        · refine Or.inr (List.append_ne_nil_of_left_ne_nil ?_ _)
          exact List.append_ne_nil_of_right_ne_nil _ some
      · rintro ⟨_, ⟨hc, hc'⟩, ⟨hb, hg'⟩, ha⟩
        exact ⟨Or.inr (by simp), hc, hb, ⟨parts, hc', hg'⟩, ha⟩
    | any =>
      simp only [holds_any_iff, List.mem_append, List.mem_cons]
      constructor
      · rintro (⟨c, hm, hc⟩ | ⟨inner, hm | rfl | hm, hg⟩)
        · exact Or.inl ⟨c, Or.inl hm, hc⟩
        · exact Or.inr ⟨inner, Or.inl (Or.inl hm), hg⟩
        · rcases holds_any_iff.mp hg with ⟨c, hm, hc⟩ | ⟨deeper, hm, hd⟩
          · exact Or.inl ⟨c, Or.inr hm, hc⟩
          · exact Or.inr ⟨deeper, Or.inl (Or.inr hm), hd⟩
        · exact Or.inr ⟨inner, Or.inr hm, hg⟩
      · rintro (⟨c, hm | hm, hc⟩ | ⟨inner, (hm | hm) | hm, hg⟩)
        · exact Or.inl ⟨c, hm, hc⟩
        · exact Or.inr ⟨_, Or.inr (Or.inl rfl), .condition hm hc⟩
        · exact Or.inr ⟨inner, Or.inl hm, hg⟩
        · exact Or.inr ⟨_, Or.inr (Or.inl rfl), .group hm hg⟩
        · exact Or.inr ⟨inner, Or.inr (Or.inr hm), hg⟩

/-- The conditions of the nested group come right after those of the group around it, before those
of the groups that precede it. -/
theorem Inlined.leaves_perm (h : Inlined before g g') : g.leaves.Perm g'.leaves := by
  cases h with
  | @mk conditions nested after _ =>
    obtain ⟨logic, conditions', groups'⟩ := nested
    simp only [leaves_mk, List.flatMap_append, List.flatMap_cons, List.append_assoc]
    refine List.Perm.append_left conditions ?_
    exact List.perm_append_comm_assoc _ _ _

theorem Inlined.leaves_eq (h : Inlined [] g g') : g.leaves = g'.leaves := by
  cases h with
  | @mk conditions nested after _ =>
    obtain ⟨logic, conditions', groups'⟩ := nested
    simp only [leaves_mk, List.flatMap_append, List.flatMap_cons, List.nil_append,
      List.append_assoc]

theorem Rewritten.agrees (h : Rewritten g g') : Agrees List.Perm g g' := by
  cases h with
  | @reordered logic conditions conditions' groups groups' hc hg =>
    refine ⟨fun document => ?_, ?_⟩
    · have some : conditions ≠ [] ∨ groups ≠ [] ↔ conditions' ≠ [] ∨ groups' ≠ [] := by
        simp only [← List.length_pos_iff, hc.length_eq, hg.length_eq]
      cases logic with
      | all => simp only [holds_all_iff, some, hc.mem_iff, hg.mem_iff]
      | any => simp only [holds_any_iff, hc.mem_iff, hg.mem_iff]
    · rw [leaves_mk, leaves_mk]
      exact hc.append (hg.flatMap_right leaves)
  | inlined h => exact ⟨h.holds_iff, h.leaves_perm⟩

/-- Groups that agree can stand for one another inside a group. -/
theorem Agrees.inside {similar : List Condition → List Condition → Prop} (h : Agrees similar g g')
    (surround : ∀ {xs ys}, similar xs ys → ∀ left right, similar (left ++ xs ++ right)
      (left ++ ys ++ right)) (logic : Logic) (conditions : List Condition)
    (before after : List LogicGroup) :
    Agrees similar ⟨logic, conditions, before ++ g :: after⟩
      ⟨logic, conditions, before ++ g' :: after⟩ := by
  refine ⟨fun document => ?_, ?_⟩
  · cases logic with
    | all =>
      simp only [holds_all_iff, List.forall_mem_append, List.forall_mem_cons, h.holds_iff document]
      simp
    | any => simp only [holds_any_iff, List.mem_append, List.mem_cons, or_and_right, exists_or,
        exists_eq_left, h.holds_iff document]
  · have around := surround h.similar_leaves (conditions ++ before.flatMap leaves)
      (after.flatMap leaves)
    simpa only [leaves_mk, List.flatMap_append, List.flatMap_cons, List.append_assoc] using around

theorem AtSomeLevel.agrees {change : LogicGroup → LogicGroup → Prop}
    {similar : List Condition → List Condition → Prop}
    (surround : ∀ {xs ys}, similar xs ys → ∀ left right, similar (left ++ xs ++ right)
      (left ++ ys ++ right)) (each : ∀ {g g'}, change g g' → Agrees similar g g')
    (h : AtSomeLevel change g g') : Agrees similar g g' := by
  induction h with
  | here h => exact each h
  | inside _ ih => exact ih.inside surround _ _ _ _

theorem Agrees.outcome {similar : List Condition → List Condition → Prop}
    (h : Agrees similar g g') (document : Json) (trail : List String) :
    (g.evaluate document trail).1 = (g'.evaluate document trail).1 := by
  rw [Bool.eq_iff_iff, evaluate_iff_holds, evaluate_iff_holds]
  exact h.holds_iff document

theorem Agrees.trail_perm (h : Agrees List.Perm g g') (document : Json) (trail : List String) :
    (g.evaluate document trail).2.Perm (g'.evaluate document trail).2 := by
  rw [evaluate_trail, evaluate_trail]
  exact ((h.similar_leaves.filter _).map _).append_left trail

theorem Agrees.trail_eq (h : Agrees Eq g g') (document : Json) (trail : List String) :
    (g.evaluate document trail).2 = (g'.evaluate document trail).2 := by
  rw [evaluate_trail, evaluate_trail, h.similar_leaves]

/-- However a rule is rewritten, at whatever levels and however often, it keeps its outcome on every
document and the texts in its trail. Where only first nested groups are dissolved, these even keep
their order. -/
theorem evaluate_rewritten :
    (∀ g g' : LogicGroup, Relation.ReflTransGen (AtSomeLevel Rewritten) g g' →
      ∀ (document : Json) (trail : List String),
        (g'.evaluate document trail).1 = (g.evaluate document trail).1 ∧
          (g'.evaluate document trail).2.Perm (g.evaluate document trail).2) ∧
      ∀ g g' : LogicGroup, Relation.ReflTransGen (AtSomeLevel (Inlined [])) g g' →
        ∀ (document : Json) (trail : List String),
          g'.evaluate document trail = g.evaluate document trail := by
  refine ⟨fun g g' rewriting document trail => ?_, fun g g' rewriting document trail => ?_⟩
  · induction rewriting with
    | refl => exact ⟨rfl, .rfl⟩
    | tail _ last ih =>
      have agrees : Agrees List.Perm _ _ :=
        last.agrees (fun same left right => (same.append_left left).append_right right)
          Rewritten.agrees
      exact ⟨(agrees.outcome document trail).symm.trans ih.1,
        (agrees.trail_perm document trail).symm.trans ih.2⟩
  · induction rewriting with
    | refl => rfl
    | tail _ last ih =>
      have agrees : Agrees Eq _ _ :=
        last.agrees (fun same left right => by rw [same]) fun h => ⟨h.holds_iff, h.leaves_eq⟩
      rw [← ih]
      exact Prod.ext (agrees.outcome document trail).symm (agrees.trail_eq document trail).symm

def unlogged : LogicGroup :=
  ⟨.all, [⟨"logging", .absent, .null⟩], [⟨.any, [⟨"tags", .equals, .str "x"⟩], []⟩]⟩

/-- A rule that nests four levels deep. -/
def layered : LogicGroup :=
  ⟨.any, [⟨"acl", .present, .null⟩], [⟨.all, [⟨"versioning", .equals, .str "on"⟩], [unlogged]⟩]⟩

/-- With its two inner groups of one kind made one. -/
def flattened : LogicGroup :=
  ⟨.any, [⟨"acl", .present, .null⟩],
    [⟨.all, [⟨"versioning", .equals, .str "on"⟩, ⟨"logging", .absent, .null⟩],
      [⟨.any, [⟨"tags", .equals, .str "x"⟩], []⟩]⟩]⟩

def reversed : LogicGroup :=
  ⟨.any, [⟨"acl", .present, .null⟩],
    [⟨.all, [⟨"logging", .absent, .null⟩, ⟨"versioning", .equals, .str "on"⟩],
      [⟨.any, [⟨"tags", .equals, .str "x"⟩], []⟩]⟩]⟩

def taggedBucket : Json := .obj [("tags", .str "x"), ("versioning", .str "on")]

theorem layered_rewritten :
    Relation.ReflTransGen (AtSomeLevel (Inlined [])) layered flattened ∧
    Relation.ReflTransGen (AtSomeLevel Rewritten) layered reversed ∧
    flattened.evaluate taggedBucket [] =
      (true, ["versioning == on", "logging not_exists null", "tags == x"]) ∧
    (reversed.evaluate taggedBucket []).1 = true ∧
    (reversed.evaluate taggedBucket []).2.Perm
      ["versioning == on", "logging not_exists null", "tags == x"] := by
  have inlined : Inlined [] (layered.groups.headD empty) (flattened.groups.headD empty) :=
    @Inlined.mk [] [⟨"versioning", .equals, .str "on"⟩] unlogged [] rfl
  have swapped : Rewritten (flattened.groups.headD empty) (reversed.groups.headD empty) :=
    .reordered (.swap _ _ _) .rfl
  have first : Relation.ReflTransGen (AtSomeLevel (Inlined [])) layered flattened :=
    .single (@AtSomeLevel.inside _ .any _ [] [] _ _ (.here inlined))
  have second : Relation.ReflTransGen (AtSomeLevel Rewritten) layered reversed :=
    .tail (.single (@AtSomeLevel.inside _ .any _ [] [] _ _ (.here (.inlined inlined))))
      (@AtSomeLevel.inside _ .any _ [] [] _ _ (.here swapped))
  have outcome : layered.evaluate taggedBucket [] =
      (true, ["versioning == on", "logging not_exists null", "tags == x"]) := by decide +kernel
  obtain ⟨similar, same⟩ := evaluate_rewritten
  obtain ⟨kept, texts⟩ := similar _ _ second taggedBucket []
  rw [outcome] at kept texts
  exact ⟨first, second, (same _ _ first taggedBucket []).trans outcome, kept, texts⟩

end LogicGroup

end CloudThreat

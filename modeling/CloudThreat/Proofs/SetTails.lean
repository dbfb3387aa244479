import CloudThreat.Proofs.PatternTails

namespace CloudThreat.PatternParser

variable {m : Mode} {cs left : List Char}

/-- A set by name after its colon and the mark that negates it. -/
def namedAfter? (negated : Bool) (cs : List Char) : Option (Bool × CharSet × List Char) :=
  match cs.dropWhile (· ≠ ':') with
  | ':' :: ']' :: after =>
    (namedSets.lookup (String.ofList (cs.takeWhile (· ≠ ':')))).map fun s => (negated, s, after)
  | _ => none

theorem namedAfter?_close (negated : Bool) (cs : List Char) :
    namedAfter? negated (cs ++ [')']) = (namedAfter? negated cs).map fun (negated, s, after) =>
      (negated, s, after ++ [')']) := by
  unfold namedAfter?
  rcases dropWhile_close (p := (· ≠ ':')) (by decide) cs with ⟨gone, gone'⟩ | ⟨_, dropped, taken⟩
  · rw [gone, gone']
    rfl
  · rw [dropped, taken]
    generalize cs.dropWhile (· ≠ ':') = left
    split
    · next after same =>
      rcases left with _ | ⟨c, _ | ⟨d, left⟩⟩
      · simp at same
      · simp at same
      · simp only [List.cons_append, List.cons.injEq] at same
        obtain ⟨rfl, rfl, rfl⟩ := same
        simp [Function.comp_def]
    · next other =>
      split
      · next after => exact absurd rfl (other (after ++ [')']))
      · rfl

def nameMark : List Char → Bool × List Char
  | '^' :: rest => (true, rest)
  | rest => (false, rest)

theorem nameMark_length_le (cs : List Char) : (nameMark cs).2.length ≤ cs.length := by
  unfold nameMark
  split
  · exact Nat.le_succ _
  · exact Nat.le_refl _

theorem nameMark_close (cs : List Char) :
    nameMark (cs ++ [')']) = ((nameMark cs).1, (nameMark cs).2 ++ [')']) := by
  by_cases mark : ∃ rest, cs = '^' :: rest
  · obtain ⟨cs, rfl⟩ := mark
    rfl
  · have plain {cs : List Char} (mark : ∀ rest, cs ≠ '^' :: rest) : nameMark cs = (false, cs) := by
      unfold nameMark
      split
      · next rest => exact absurd rfl (mark rest)
      · rfl
    rw [plain (close_ne_cons (by decide) (not_exists.mp mark)), plain (not_exists.mp mark)]

theorem namedSet?_colon (cs : List Char) :
    namedSet? (':' :: cs) = namedAfter? (nameMark cs).1 (nameMark cs).2 :=
  rfl

theorem namedSet?_of_ne {c : Char} (colon : c ≠ ':') (cs : List Char) :
    namedSet? (c :: cs) = none := by
  unfold namedSet?
  split
  · next same => exact absurd (List.cons.inj same).1 colon
  · rfl

theorem namedSet?_length_le {negated : Bool} {s : CharSet}
    (h : namedSet? cs = some (negated, s, left)) : left.length ≤ cs.length := by
  have after {negated' : Bool} {cs : List Char}
      (h : namedAfter? negated' cs = some (negated, s, left)) : left.length ≤ cs.length := by
    have shorter := (List.dropWhile_sublist (· ≠ ':') (l := cs)).length_le
    unfold namedAfter? at h
    split at h
    · next after same =>
      obtain ⟨_, _, same'⟩ := Option.map_eq_some_iff.mp h
      cases same'
      rw [same, List.length_cons, List.length_cons] at shorter
      omega
    · cases h
  cases cs with
  | nil => cases h
  | cons c cs =>
    by_cases colon : c = ':'
    · subst colon
      rw [namedSet?_colon] at h
      exact Nat.le_succ_of_le (Nat.le_trans (after h) (nameMark_length_le cs))
    · rw [namedSet?_of_ne colon] at h
      cases h

theorem namedSet?_close (cs : List Char) :
    namedSet? (cs ++ [')']) = (namedSet? cs).map fun (negated, s, after) =>
      (negated, s, after ++ [')']) := by
  cases cs with
  | nil => rfl
  | cons c cs =>
    rw [List.cons_append]
    by_cases colon : c = ':'
    · subst colon
      rw [namedSet?_colon, namedSet?_colon, nameMark_close]
      exact namedAfter?_close _ _
    · rw [namedSet?_of_ne colon, namedSet?_of_ne colon]
      rfl

theorem setAtom_cons {c : Char} (slash : c ≠ '\\') (cs : List Char) :
    setAtom m (c :: cs) = some (.literal c false, cs) := by
  unfold setAtom
  split
  · next same => exact absurd (List.cons.inj same).1 slash
  · next same => cases same; rfl
  · next same => cases same

theorem AlmostLocal.setAtom (m : Mode) : AlmostLocal m Escape.IsAssertion (setAtom m) := by
  refine AlmostLocal.of_cons rfl fun c => ?_
  by_cases slash : c = '\\'
  · subst slash
    exact AlmostLocal.escape m
  · rw [funext (setAtom_cons slash)]
    exact (Local.pure (Escape.literal c false)).almost

section Item

variable {first last : Escape} {rest : List Char} {part : SetPart}

end Item

/-- A set after its bracket, up to a mark that negates it. -/
def negation (m : Mode) (cs : List Char) : Bool × List Char :=
  match m.skip cs with
  | '^' :: rest => (true, m.skip rest)
  | cs => (false, cs)

/-- The characters that stand for themselves at the beginning of a set. -/
def dashed (m : Mode) (negated : Bool) (dashes : List Char) (cs : List Char) :
    Bool × List SetPart × List Char :=
  match dashes, cs with
  | [], ']' :: rest => (negated, [⟨.single ']', 0⟩], m.skip rest)
  | dashes, cs => (negated, dashes.map fun c => ⟨.single c, 0⟩, cs)

theorem Local.negation (m : Mode) : Local fun cs => some (negation m cs) := by
  refine Local.ifNext (w := ['^']) (m := m) (by decide) ((Local.pure true).skip m)
    (Local.pure false) (fun cs rest h => ?_) fun cs h => ?_
  · unfold PatternParser.negation
    rw [h]
    rfl
  · unfold PatternParser.negation
    split
    · next rest same => exact absurd ⟨rest, same.symm⟩ h
    · rfl

theorem Local.dashed (m : Mode) (negated : Bool) (dashes : List Char) :
    Local fun cs => some (dashed m negated dashes cs) := by
  have opened (first : List SetPart) : Local fun cs => some (negated, first, cs) :=
    (Local.pure first).map (Prod.mk negated) (fun _ => rfl) fun _ => rfl
  cases dashes with
  | nil =>
    refine Local.ifPrefix (w := [']']) (by decide) ((opened [⟨.single ']', 0⟩]).skip m)
      (opened []) (fun cs => rfl) fun cs h => ?_
    unfold PatternParser.dashed
    split
    · next rest _ => exact absurd ⟨rest, rfl⟩ h
    · rfl
  | cons c dashes => exact opened ((c :: dashes).map fun c => ⟨.single c, 0⟩)

theorem Local.setOpening (m : Mode) : Local fun cs => some (setOpening m cs) := by
  have first (negated : Bool) : Local fun cs => (some (m.spaced (· = '-') cs)).bind fun p =>
      some (PatternParser.dashed m negated p.1 p.2) :=
    Local.bind (Local.spaced m _) fun dashes => Local.dashed m negated dashes
  exact Local.bind (k := fun p => (some (m.spaced (· = '-') p.2)).bind fun q =>
    some (PatternParser.dashed m p.1 q.1 q.2)) (Local.negation m) first

/-- What comes next in a set. -/
inductive SetToken where
  | finish
  | operation (op : SetOperation)
  | part (p : SetPart)
  | named (negated : Bool) (s : CharSet)
  | opening (negated : Bool) (first : List SetPart)

/-- A set in a set, by its name or after its bracket. -/
def bracket (m : Mode) (cs : List Char) : SetToken × List Char :=
  match namedSet? cs with
  | some (negated, s, rest) => (.named negated s, rest)
  | none => (.opening (setOpening m cs).1 (setOpening m cs).2.1, (setOpening m cs).2.2)

theorem bracket_named {negated : Bool} {s : CharSet} (h : namedSet? cs = some (negated, s, left)) :
    bracket m cs = (.named negated s, left) := by
  rw [bracket, h]

theorem bracket_opening (h : namedSet? cs = none) :
    bracket m cs = (.opening (setOpening m cs).1 (setOpening m cs).2.1, (setOpening m cs).2.2) := by
  rw [bracket, h]

theorem Local.bracket (m : Mode) : Local fun cs => some (bracket m cs) := by
  have opened := (Local.setOpening m).map
    (fun b : Bool × List SetPart × List Char => (SetToken.opening b.1 b.2.1, b.2.2))
    (fun _ => rfl) fun _ => rfl
  constructor
  · intro cs b h
    cases named : namedSet? cs with
    | some found =>
      obtain ⟨negated, s, left⟩ := found
      rw [bracket_named named] at h
      cases h
      exact namedSet?_length_le named
    | none =>
      rw [bracket_opening named] at h
      exact opened.length_le h
  · intro cs b h more
    have named' := namedSet?_close cs
    cases named : namedSet? cs with
    | some found =>
      obtain ⟨negated, s, left⟩ := found
      rw [named, Option.map_some] at named'
      rw [bracket_named named'] at h
      rw [bracket_named named]
      cases h
      exact ⟨_, rfl, rfl⟩
    | none =>
      rw [named, Option.map_none] at named'
      rw [bracket_opening named'] at h
      rw [bracket_opening named]
      exact opened.of_close h more

end CloudThreat.PatternParser

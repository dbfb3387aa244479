import CloudThreat.Proofs.SetTails

namespace CloudThreat.PatternParser

open Remainder

variable {m : Mode} {cs left : List Char}

theorem dropBlanks_close (cs : List Char) :
    (cs ++ [')']).dropWhile isBlank = cs.dropWhile isBlank ++ [')'] := by
  induction cs with
  | nil => rfl
  | cons c cs ih =>
    by_cases blank : isBlank c
    · simpa [List.dropWhile_cons, blank] using ih
    · simp [blank]

theorem Local.dropBlanks {β : Type} [Remainder β] {f : List Char → Option β} (hf : Local f) :
    Local fun cs => f (cs.dropWhile isBlank) := by
  constructor
  · intro cs b h
    exact Nat.le_trans (hf.length_le h) (List.dropWhile_sublist isBlank).length_le
  · intro cs b h left
    rw [dropBlanks_close] at h
    exact hf.of_close h left

theorem Local.decimal (m : Mode) : Local (decimal m) := by
  have number (digits : List Char) : Local fun cs =>
      if digits.isEmpty || WordSize.maxUnsigned 32 < DecimalNumeral.valueOf digits then Option.none
      else some (DecimalNumeral.valueOf digits, (m.spaced isBlank cs).2) := by
    split
    · exact Local.none
    · exact (Local.spaced m isBlank).map (fun p => (DecimalNumeral.valueOf digits, p.2))
        (fun _ => rfl) fun _ => rfl
  exact (Local.bind (k := fun p =>
    if p.1.isEmpty || WordSize.maxUnsigned 32 < DecimalNumeral.valueOf p.1 then Option.none
    else some (DecimalNumeral.valueOf p.1, (m.spaced isBlank p.2).2))
      (Local.spaced m Char.isDigit) number).dropBlanks

theorem Local.limits (least : Nat) (most : Option Nat) :
    Local fun cs => some (least, most, cs) :=
  (Local.pure most).map (Prod.mk least) (fun _ => rfl) fun _ => rfl

/-- The end of a repetition, after its upper bound. -/
def closing (least most : Nat) (cs : List Char) : Option (Nat × Option Nat × List Char) :=
  match cs with
  | '\x7d' :: rest => if least ≤ most then some (least, some most, rest) else none
  | _ => none

/-- The upper bound of a repetition, after a comma. -/
def upperBound (m : Mode) (least : Nat) (cs : List Char) : Option (Nat × Option Nat × List Char) :=
  match m.skip cs with
  | '\x7d' :: rest => some (least, none, rest)
  | cs => (decimal m cs).bind fun p => closing least p.1 p.2

/-- The bounds of a repetition, after the lower one. -/
def bounded (m : Mode) (least : Nat) (cs : List Char) : Option (Nat × Option Nat × List Char) :=
  match cs with
  | '\x7d' :: rest => some (least, some least, rest)
  | ',' :: rest => upperBound m least rest
  | _ => none

theorem Local.closing (least most : Nat) : Local (closing least most) := by
  have last : Local fun cs =>
      if least ≤ most then some (least, some most, cs) else Option.none := by
    split
    · exact Local.limits least most
    · exact Local.none
  refine Local.ifPrefix (w := ['\x7d']) (by decide) last Local.none (fun cs => rfl)
    fun cs h => ?_
  unfold PatternParser.closing
  split
  · next rest => exact absurd ⟨rest, rfl⟩ h
  · rfl

theorem Local.upperBound (m : Mode) (least : Nat) : Local (upperBound m least) := by
  have both : Local fun cs => (PatternParser.decimal m cs).bind fun p =>
      PatternParser.closing least p.1 p.2 :=
    Local.bind (Local.decimal m) (Local.closing least)
  refine Local.ifNext (w := ['\x7d']) (m := m) (by decide) (Local.limits least Option.none) both
    (fun cs rest h => ?_) fun cs h => ?_
  · unfold PatternParser.upperBound
    rw [h]
    rfl
  · unfold PatternParser.upperBound
    split
    · next rest same => exact absurd ⟨rest, same.symm⟩ h
    · rfl

theorem bounded_eq (m : Mode) (least : Nat) (cs : List Char) :
    bounded m least cs = firstOf (fun _ => none)
      [(['\x7d'], fun rest => some (least, some least, rest)), ([','], upperBound m least)] cs := by
  unfold bounded
  split <;> simp_all [firstOf, List.cons_prefix_iff]

theorem Local.bounded (m : Mode) (least : Nat) : Local (bounded m least) := by
  rw [funext (bounded_eq m least)]
  refine Local.firstOf (fun w read h => ?_) Local.none
  simp only [List.mem_cons, Prod.mk.injEq, List.not_mem_nil, or_false] at h
  rcases h with ⟨rfl, rfl⟩ | ⟨rfl, rfl⟩
  · exact ⟨by decide, Local.limits least least⟩
  · exact ⟨by decide, Local.upperBound m least⟩

theorem bounds_eq (m : Mode) (cs : List Char) :
    bounds m cs = (decimal m (m.skip cs)).bind fun p => bounded m p.1 p.2 :=
  rfl

theorem Local.bounds (m : Mode) : Local (bounds m) := by
  rw [funext (bounds_eq m)]
  exact Local.bind ((Local.decimal m).skip m) (Local.bounded m)

theorem Local.cutOnce? {c : Char} (free : c ≠ ')') : Local (cutOnce? c) := by
  constructor
  · intro cs b h
    have shorter := (List.dropWhile_sublist (· ≠ c) (l := cs)).length_le
    unfold CloudThreat.cutOnce? at h
    split at h
    · next rest same =>
      cases h
      rw [same] at shorter
      exact Nat.le_of_succ_le shorter
    · cases h
  · intro cs b h more
    unfold CloudThreat.cutOnce? at h
    unfold CloudThreat.cutOnce?
    rcases dropWhile_close (p := (· ≠ c)) (by simpa using Ne.symm free) cs with
      ⟨_, gone⟩ | ⟨stays, dropped, taken⟩
    · rw [gone] at h
      cases h
    · rw [dropped, taken] at h
      cases rest : cs.dropWhile (· ≠ c) with
      | nil => exact absurd rest stays
      | cons d rest' =>
        rw [rest] at h
        cases h
        exact ⟨_, rfl, rfl⟩

theorem Local.groupName : Local groupName := by
  refine Local.bind (Local.cutOnce? (by decide)) fun name => ?_
  cases name with
  | nil => exact Local.none
  | cons c more =>
    dsimp only
    split
    · exact Local.pure (c :: more)
    · exact Local.none

theorem Local.flags? (m : Mode) (seen : List Char) : Local (m.flags? seen) := by
  constructor
  · intro cs b h
    induction cs generalizing m seen with
    | nil => cases h
    | cons c cs ih =>
      refine Nat.le_succ_of_le ?_
      rw [Mode.flags?] at h
      split at h
      · split at h
        · cases h
        · cases h
          exact Nat.le_refl _
      · split at h
        · cases h
        · split at h
          · exact ih _ _ h
          · split at h
            · exact ih _ _ h
            · cases h
  · intro cs b h more
    induction cs generalizing m seen with
    | nil =>
      rw [List.nil_append, Mode.flags?, if_pos (by decide)] at h
      split at h
      · cases h
      · cases h
        exact absurd rfl more
    | cons c cs ih =>
      rw [List.cons_append, Mode.flags?] at h
      rw [Mode.flags?]
      split at h
      · next last =>
        rw [if_pos last]
        split at h
        · cases h
        · next dash =>
          rw [if_neg dash]
          cases h
          exact ⟨_, rfl, rfl⟩
      · next last =>
        rw [if_neg last]
        split at h
        · cases h
        · next twice =>
          rw [if_neg twice]
          split at h
          · next dash =>
            rw [if_pos dash]
            exact ih _ _ h
          · next dash =>
            rw [if_neg dash]
            split at h
            · next set => exact ih _ _ h
            · cases h

instance : Remainder GroupOpening where
  rest
    | .capturing r => r
    | .named _ r => r
    | .scoped _ r => r
    | .switch _ r => r
  close
    | .capturing r => .capturing (r ++ [')'])
    | .named name r => .named name (r ++ [')'])
    | .scoped mode r => .scoped mode (r ++ [')'])
    | .switch mode r => .switch mode (r ++ [')'])

def namedOpening (cs : List Char) : Option GroupOpening :=
  (groupName cs).map fun (name, rest) => .named name rest

/-- What the flags before a colon or a parenthesis begin. -/
def afterFlags (flags : Mode × Bool × Char) (rest : List Char) : Option GroupOpening :=
  if flags.2.2 = ':' then some (.scoped flags.1 rest)
  else if flags.2.1 then some (.switch flags.1 rest)
  else none

def flagsOpening (m : Mode) (cs : List Char) : Option GroupOpening :=
  ((m.flags? [] cs).map fun p => ((p.1, p.2.1, p.2.2.1), p.2.2.2)).bind fun p =>
    afterFlags p.1 p.2

/-- The marks after which a group begins in its own way. -/
def openings (m : Mode) : List (List Char × (List Char → Option GroupOpening)) := [
  (['?', '='], fun _ => none),
  (['?', '!'], fun _ => none),
  (['?', '<', '='], fun _ => none),
  (['?', '<', '!'], fun _ => none),
  (['?', 'P', '<'], namedOpening),
  (['?', '<'], namedOpening),
  (['?'], flagsOpening m)]

theorem groupOpening_eq (m : Mode) (cs : List Char) :
    groupOpening m cs = firstOf (fun cs => some (.capturing cs)) (openings m) (m.skip cs) := by
  unfold groupOpening
  generalize m.skip cs = cs
  split
  case h_7 =>
    simp_all [openings, firstOf, List.cons_prefix_iff]
    rw [flagsOpening]
    cases m.flags? [] _ <;> rfl
  all_goals simp_all [openings, firstOf, List.cons_prefix_iff, namedOpening]

theorem Local.namedOpening : Local namedOpening :=
  Local.groupName.map (fun p => GroupOpening.named p.1 p.2) (fun _ => rfl) fun _ => rfl

theorem Local.afterFlags (flags : Mode × Bool × Char) : Local (afterFlags flags) := by
  unfold PatternParser.afterFlags
  split
  · exact (Local.pure ()).map (fun p => GroupOpening.scoped flags.1 p.2) (fun _ => rfl)
      fun _ => rfl
  · split
    · exact (Local.pure ()).map (fun p => GroupOpening.switch flags.1 p.2) (fun _ => rfl)
        fun _ => rfl
    · exact Local.none

theorem Local.flagsOpening (m : Mode) : Local (flagsOpening m) :=
  Local.bind ((Local.flags? m []).map _ (fun _ => rfl) fun _ => rfl) Local.afterFlags

theorem Local.groupOpening (m : Mode) : Local (groupOpening m) := by
  have capturing : Local fun cs => some (GroupOpening.capturing cs) :=
    (Local.pure ()).map (fun p => GroupOpening.capturing p.2) (fun _ => rfl) fun _ => rfl
  rw [funext (groupOpening_eq m)]
  refine (Local.firstOf (fun w read h => ?_) capturing).skip m
  simp only [openings, List.mem_cons, Prod.mk.injEq, List.not_mem_nil, or_false] at h
  rcases h with ⟨rfl, rfl⟩ | ⟨rfl, rfl⟩ | ⟨rfl, rfl⟩ | ⟨rfl, rfl⟩ | ⟨rfl, rfl⟩ | ⟨rfl, rfl⟩ |
    ⟨rfl, rfl⟩
  · exact ⟨by decide, Local.none⟩
  · exact ⟨by decide, Local.none⟩
  · exact ⟨by decide, Local.none⟩
  · exact ⟨by decide, Local.none⟩
  · exact ⟨by decide, Local.namedOpening⟩
  · exact ⟨by decide, Local.namedOpening⟩
  · exact ⟨by decide, Local.flagsOpening m⟩

end CloudThreat.PatternParser

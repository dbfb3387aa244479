import CloudThreat.PatternParser
import Mathlib.Data.List.Basic

namespace CloudThreat.PatternParser

/-- Results that end in the text not yet read. -/
class Remainder (β : Type) where
  rest : β → List Char
  /-- With a closing parenthesis behind the rest. -/
  close : β → β

namespace Remainder

instance : Remainder (List Char) := ⟨id, fun cs => cs ++ [')']⟩

instance {α β : Type} [Remainder β] : Remainder (α × β) :=
  ⟨fun p => rest p.2, fun p => (p.1, close p.2)⟩

end Remainder

open Remainder

/-- A reader that gives a text back shorter, and reads the same without a closing parenthesis behind
the text if it leaves the parenthesis there. -/
structure Local {β : Type} [Remainder β] (f : List Char → Option β) : Prop where
  length_le {t : List Char} {b : β} : f t = some b → (rest b).length ≤ t.length
  of_close {t : List Char} {b : β} : f (t ++ [')']) = some b → rest b ≠ [] →
    ∃ b', close b' = b ∧ f t = some b'

theorem not_prefix_close {w cs : List Char} (free : ')' ∉ w) (start : ¬ w <+: cs) :
    ¬ w <+: cs ++ [')'] := by
  intro start'
  rcases List.prefix_concat_iff.mp start' with same | start'
  · exact free (same ▸ by simp)
  · exact start start'

section FirstOf

variable {β : Type} {other : List Char → Option β} {w : List Char} {read : List Char → Option β}
variable {branches : List (List Char × (List Char → Option β))} {cs : List Char}

/-- The first reader whose mark begins the text; it reads on behind the mark. -/
def firstOf (other : List Char → Option β) :
    List (List Char × (List Char → Option β)) → List Char → Option β
  | [], cs => other cs
  | (w, read) :: more, cs =>
    if w <+: cs then read (cs.drop w.length) else firstOf other more cs

theorem firstOf_hit (cs : List Char) :
    firstOf other ((w, read) :: branches) (w ++ cs) = read cs := by
  rw [firstOf, if_pos (List.prefix_append w cs), List.drop_left]

theorem firstOf_miss (start : ¬ w <+: cs) :
    firstOf other ((w, read) :: branches) cs = firstOf other branches cs :=
  if_neg start

end FirstOf

section Combinators

variable {α β γ : Type} [Remainder β] [Remainder γ]

theorem Local.none : Local fun _ => (Option.none : Option β) :=
  ⟨nofun, nofun⟩

theorem Local.pure (a : α) : Local fun cs => some (a, cs) := by
  constructor
  · intro cs b h
    cases h
    exact Nat.le_refl _
  · intro cs b h _
    cases h
    exact ⟨(a, cs), rfl, rfl⟩

theorem Local.bind {f : List Char → Option (α × List Char)} {k : α × List Char → Option β}
    (hf : Local f) (hk : ∀ a, Local fun cs => k (a, cs)) : Local fun cs => (f cs).bind k := by
  constructor
  · intro cs b h
    obtain ⟨⟨a, cs'⟩, first, second⟩ := Option.bind_eq_some_iff.mp h
    exact Nat.le_trans ((hk a).length_le second) (hf.length_le first)
  · intro cs b h left
    obtain ⟨⟨a, cs'⟩, first, second⟩ := Option.bind_eq_some_iff.mp h
    have some : cs' ≠ [] := by
      rintro rfl
      exact left (List.eq_nil_of_length_eq_zero (Nat.le_zero.mp ((hk a).length_le second)))
    obtain ⟨⟨a', r⟩, same, first'⟩ := hf.of_close first some
    cases same
    obtain ⟨b', same, second'⟩ := (hk a').of_close second left
    exact ⟨b', same, Option.bind_eq_some_iff.mpr ⟨(a', r), first', second'⟩⟩

/-- The rest is passed on by what is made of the result. -/
theorem Local.map {f : List Char → Option β} (hf : Local f) (g : β → γ)
    (rest_eq : ∀ b, rest (g b) = rest b) (close_eq : ∀ b, g (close b) = close (g b)) :
    Local fun cs => (f cs).map g := by
  constructor
  · intro cs c h
    obtain ⟨b, first, rfl⟩ := Option.map_eq_some_iff.mp h
    rw [rest_eq]
    exact hf.length_le first
  · intro cs c h left
    obtain ⟨b, first, rfl⟩ := Option.map_eq_some_iff.mp h
    rw [rest_eq] at left
    obtain ⟨b', rfl, first'⟩ := hf.of_close first left
    exact ⟨g b', (close_eq b').symm, Option.map_eq_some_iff.mpr ⟨b', first', rfl⟩⟩

/-- A reader that takes the first character at least. -/
theorem Local.of_cons {f : List Char → Option β} (nil : f [] = .none)
    (cons : ∀ c, Local fun cs => f (c :: cs)) : Local f := by
  constructor
  · intro cs b h
    cases cs with
    | nil => rw [nil] at h; cases h
    | cons c cs => exact Nat.le_succ_of_le ((cons c).length_le h)
  · intro cs b h left
    cases cs with
    | nil =>
      have bound := (cons ')').length_le (t := []) h
      exact absurd (List.eq_nil_of_length_eq_zero (Nat.le_zero.mp bound)) left
    | cons c cs => exact (cons c).of_close h left

section FirstOf

variable {other : List Char → Option β}
variable {branches : List (List Char × (List Char → Option β))} {cs : List Char} {b : β}

theorem firstOf_length_le (locals : ∀ w read, (w, read) ∈ branches → ')' ∉ w ∧ Local read)
    (last : other cs = some b → (rest b).length ≤ cs.length)
    (h : firstOf other branches cs = some b) : (rest b).length ≤ cs.length := by
  induction branches with
  | nil => exact last h
  | cons branch branches ih =>
    obtain ⟨w, read⟩ := branch
    by_cases start : w <+: cs
    · obtain ⟨cs, rfl⟩ := start
      rw [firstOf_hit] at h
      have taken := (locals w read List.mem_cons_self).2.length_le h
      rw [List.length_append]
      omega
    · rw [firstOf_miss start] at h
      exact ih (fun w read h => locals w read (List.mem_cons_of_mem _ h)) h

/-- With a parenthesis behind the text the same reader is the first one. -/
theorem firstOf_close (locals : ∀ w read, (w, read) ∈ branches → ')' ∉ w ∧ Local read)
    (h : firstOf other branches (cs ++ [')']) = some b) (left : rest b ≠ []) :
    (∃ b', close b' = b ∧ firstOf other branches cs = some b') ∨
      other (cs ++ [')']) = some b ∧ firstOf other branches cs = other cs := by
  induction branches with
  | nil => exact Or.inr ⟨h, rfl⟩
  | cons branch branches ih =>
    obtain ⟨w, read⟩ := branch
    obtain ⟨free, localRead⟩ := locals w read List.mem_cons_self
    by_cases start : w <+: cs
    · obtain ⟨cs, rfl⟩ := start
      rw [List.append_assoc, firstOf_hit] at h
      rw [firstOf_hit]
      exact Or.inl (localRead.of_close h left)
    · rw [firstOf_miss (not_prefix_close free start)] at h
      rw [firstOf_miss start]
      exact ih (fun w read h => locals w read (List.mem_cons_of_mem _ h)) h

theorem Local.firstOf (locals : ∀ w read, (w, read) ∈ branches → ')' ∉ w ∧ Local read)
    (ho : Local other) : Local (firstOf other branches) := by
  constructor
  · intro cs b h
    exact firstOf_length_le locals ho.length_le h
  · intro cs b h left
    rcases firstOf_close locals h left with found | ⟨h, same⟩
    · exact found
    · rw [same]
      exact ho.of_close h left

end FirstOf

/-- A reader that goes one way after a certain beginning and another way without it. -/
theorem Local.ifPrefix {f g other : List Char → Option β} {w : List Char} (free : ')' ∉ w)
    (hg : Local g) (ho : Local other) (hit : ∀ cs, f (w ++ cs) = g cs)
    (miss : ∀ cs, ¬ w <+: cs → f cs = other cs) : Local f := by
  have branches : f = PatternParser.firstOf other [(w, g)] := by
    funext cs
    by_cases start : w <+: cs
    · obtain ⟨cs, rfl⟩ := start
      rw [hit, firstOf_hit]
    · rw [miss cs start, firstOf_miss start]
      rfl
  rw [branches]
  refine Local.firstOf (fun w' read h => ?_) ho
  obtain ⟨rfl, rfl⟩ := Prod.mk.inj (List.mem_singleton.mp h)
  exact ⟨free, hg⟩

/-- A result that does not hang on the text, if there is one. -/
theorem Local.const (o : Option α) : Local fun cs => o.map fun a => (a, cs) := by
  cases o with
  | none => exact Local.none
  | some a => exact Local.pure a

end Combinators

variable {m : Mode} {cs taken : List Char}

theorem close_ne_cons {c : Char} (free : c ≠ ')') (other : ∀ rest, cs ≠ c :: rest) :
    ∀ rest, cs ++ [')'] ≠ c :: rest := by
  intro rest same
  cases cs with
  | nil => exact free (List.cons.inj same).1.symm
  | cons d cs => exact other cs (congrArg (· :: cs) (List.cons.inj same).1)

/-- What stops before the parenthesis stops there without it. -/
theorem dropWhile_close {p : Char → Bool} (hp : p ')') (cs : List Char) :
    (cs.dropWhile p = [] ∧ (cs ++ [')']).dropWhile p = []) ∨
      cs.dropWhile p ≠ [] ∧ (cs ++ [')']).dropWhile p = cs.dropWhile p ++ [')'] ∧
        (cs ++ [')']).takeWhile p = cs.takeWhile p := by
  induction cs with
  | nil => exact Or.inl ⟨rfl, by simp [hp]⟩
  | cons c cs ih =>
    by_cases hc : p c
    · simpa [List.dropWhile_cons, List.takeWhile_cons, hc] using ih
    · exact Or.inr (by simp [hc])

theorem skipBlanks_length_le (inComment : Bool) (cs : List Char) :
    (Mode.skipBlanks inComment cs).length ≤ cs.length := by
  induction cs generalizing inComment with
  | nil => exact Nat.le_refl _
  | cons c cs ih =>
    unfold Mode.skipBlanks
    split
    · exact Nat.le_succ_of_le (ih _)
    · split
      · exact Nat.le_succ_of_le (ih _)
      · split
        · exact Nat.le_succ_of_le (ih _)
        · exact Nat.le_refl _

theorem skip_length_le (m : Mode) (cs : List Char) : (m.skip cs).length ≤ cs.length := by
  unfold Mode.skip
  split
  · exact skipBlanks_length_le false cs
  · exact Nat.le_refl _

theorem skip_nil (m : Mode) : m.skip [] = [] :=
  List.eq_nil_of_length_eq_zero (Nat.le_zero.mp (skip_length_le m []))

/-- A comment at the end of the text takes the parenthesis, and nothing else does. -/
theorem skipBlanks_close (inComment : Bool) (cs : List Char) :
    Mode.skipBlanks inComment (cs ++ [')']) = [] ∨
      Mode.skipBlanks inComment (cs ++ [')']) = Mode.skipBlanks inComment cs ++ [')'] := by
  induction cs generalizing inComment with
  | nil => cases inComment <;> decide
  | cons c cs ih =>
    rw [List.cons_append]
    unfold Mode.skipBlanks
    split
    · exact ih _
    · split
      · exact ih _
      · split
        · exact ih _
        · exact Or.inr rfl

theorem skip_close (m : Mode) (cs : List Char) :
    m.skip (cs ++ [')']) = [] ∨ m.skip (cs ++ [')']) = m.skip cs ++ [')'] := by
  unfold Mode.skip
  split
  · exact skipBlanks_close false cs
  · exact Or.inr rfl

theorem Local.skip {β : Type} [Remainder β] {f : List Char → Option β} (hf : Local f) (m : Mode) :
    Local fun cs => f (m.skip cs) := by
  constructor
  · intro cs b h
    exact Nat.le_trans (hf.length_le h) (skip_length_le m cs)
  · intro cs b h left
    rcases skip_close m cs with none | some
    · have bound := hf.length_le h
      rw [none] at bound
      exact absurd (List.eq_nil_of_length_eq_zero (Nat.le_zero.mp bound)) left
    · rw [some] at h
      exact hf.of_close h left

theorem Local.ifNext {β : Type} [Remainder β] {f g other : List Char → Option β} {w : List Char}
    (free : ')' ∉ w) (hg : Local g) (ho : Local other)
    (hit : ∀ cs rest, m.skip cs = w ++ rest → f cs = g rest)
    (miss : ∀ cs, ¬ w <+: m.skip cs → f cs = other (m.skip cs)) : Local f := by
  have next : f = fun cs => PatternParser.firstOf other [(w, g)] (m.skip cs) := by
    funext cs
    by_cases start : w <+: m.skip cs
    · obtain ⟨rest, same⟩ := start
      rw [hit cs rest same.symm, ← same, firstOf_hit]
    · rw [miss cs start, firstOf_miss start]
      rfl
  rw [next]
  exact (Local.ifPrefix free hg ho firstOf_hit fun _ start => (firstOf_miss start).trans rfl).skip m

theorem takeSpaced_length_le (m : Mode) (p : Char → Bool) (fuel : Nat) (cs : List Char) :
    (m.takeSpaced p fuel cs).2.length ≤ cs.length := by
  induction fuel generalizing cs with
  | zero => exact Nat.le_refl _
  | succ fuel ih =>
    cases cs with
    | nil => exact Nat.le_refl _
    | cons c cs =>
      unfold Mode.takeSpaced
      dsimp only
      split
      · exact Nat.le_succ_of_le (Nat.le_trans (ih _) (skip_length_le m cs))
      · exact Nat.le_refl _

theorem takeSpaced_nil (m : Mode) (p : Char → Bool) (fuel : Nat) :
    m.takeSpaced p fuel [] = ([], []) := by
  cases fuel <;> rfl

/-- More fuel than there are characters makes no difference. -/
theorem takeSpaced_close {p : Char → Bool} {fuel fuel' : Nat} {left : List Char}
    (enough : cs.length < fuel) (enough' : cs.length ≤ fuel')
    (h : m.takeSpaced p fuel (cs ++ [')']) = (taken, left)) (some : left ≠ []) :
    ∃ r, r ++ [')'] = left ∧ m.takeSpaced p fuel' cs = (taken, r) := by
  induction fuel generalizing cs fuel' taken with
  | zero => omega
  | succ fuel ih =>
    cases cs with
    | nil =>
      rw [List.nil_append, Mode.takeSpaced] at h
      split at h
      · rw [skip_nil, takeSpaced_nil] at h
        cases h
        exact absurd rfl some
      · cases h
        exact ⟨[], rfl, takeSpaced_nil m p fuel'⟩
    | cons c cs =>
      rw [List.length_cons] at enough enough'
      obtain ⟨k, rfl⟩ : ∃ k, fuel' = k + 1 := ⟨fuel' - 1, by omega⟩
      rw [List.cons_append, Mode.takeSpaced] at h
      rw [Mode.takeSpaced]
      split at h
      · next hp =>
        rw [if_pos hp]
        rcases skip_close m cs with none | more
        · rw [none, takeSpaced_nil] at h
          cases h
          exact absurd rfl some
        · have shorter := skip_length_le m cs
          obtain ⟨⟨taken', left'⟩, rest⟩ :
              ∃ pair, m.takeSpaced p fuel (m.skip cs ++ [')']) = pair := ⟨_, rfl⟩
          rw [more, rest] at h
          cases h
          have enough : (m.skip cs).length ≤ k := by omega
          obtain ⟨r, rfl, whole⟩ := ih (by omega) enough rest
          refine ⟨r, rfl, ?_⟩
          rw [whole]
      · next hp =>
        rw [if_neg hp]
        cases h
        exact ⟨c :: cs, rfl, rfl⟩

theorem Local.spaced (m : Mode) (p : Char → Bool) : Local fun cs => some (m.spaced p cs) := by
  constructor
  · intro cs b h
    cases h
    exact takeSpaced_length_le m p cs.length cs
  · rintro cs ⟨taken, left⟩ h more
    have enough : cs.length < (cs ++ [')']).length := by simp
    obtain ⟨r, same, whole⟩ := takeSpaced_close enough (Nat.le_refl _) (Option.some.inj h) more
    exact ⟨(taken, r), congrArg (Prod.mk taken) same, congrArg some whole⟩

/-- One more character, which is the next, and a number of others. -/
def takeNext (m : Mode) (n : Nat) : List Char → Option (List Char × List Char)
  | c :: rest => (takeExactly m n rest).map fun p => (c :: p.1, p.2)
  | [] => none

theorem Local.takeExactly (m : Mode) (n : Nat) : Local (takeExactly m n) := by
  induction n with
  | zero => exact Local.pure []
  | succ n ih =>
    refine Local.skip (f := takeNext m n) (Local.of_cons rfl fun c => ?_) m
    exact ih.map (fun p => (c :: p.1, p.2)) (fun _ => rfl) fun _ => rfl

/-- The rest after a closing brace. -/
def dropBrace (taken : List Char) : List Char → Option (List Char × List Char)
  | _ :: rest => some (taken, rest)
  | [] => none

theorem braced_eq (m : Mode) (cs : List Char) : braced m cs =
    (some (m.spaced (· ≠ '\x7d') (m.skip cs))).bind fun p => dropBrace p.1 p.2 := by
  unfold braced
  rcases m.spaced (· ≠ '\x7d') (m.skip cs) with ⟨taken, _ | ⟨c, rest⟩⟩ <;> rfl

theorem Local.braced (m : Mode) : Local (braced m) := by
  rw [funext (braced_eq m)]
  refine Local.bind ((Local.spaced m _).skip m) fun taken => ?_
  exact Local.of_cons rfl fun _ => Local.pure taken

/-- The character that hexadecimal digits stand for. -/
def hexCharacter (digits : List Char) (byte : Bool) (rest : List Char) :
    Option (Escape × List Char) := do
  let c ← charOf? (← Hexadecimal.number? digits)
  some (.literal c byte, rest)

theorem Local.hexCharacter (digits : List Char) (byte : Bool) :
    Local (hexCharacter digits byte) := by
  unfold PatternParser.hexCharacter
  cases Hexadecimal.number? digits with
  | none => exact Local.none
  | some n =>
    cases code : charOf? n with
    | none => simpa [code] using Local.none
    | some c => simpa [code] using Local.pure (Escape.literal c byte)

theorem Local.hexEscape (m : Mode) (width : Nat) : Local (hexEscape m width) := by
  have fixed : Local fun cs => (PatternParser.takeExactly m width cs).bind fun p =>
      PatternParser.hexCharacter p.1 (width = 2) p.2 :=
    Local.bind (Local.takeExactly m width) fun digits => Local.hexCharacter digits _
  have any : Local fun cs => (PatternParser.braced m cs).bind fun p =>
      if p.1.isEmpty then Option.none else PatternParser.hexCharacter p.1 false p.2 := by
    refine Local.bind (Local.braced m) fun digits => ?_
    cases digits with
    | nil => exact Local.none
    | cons c more => exact Local.hexCharacter (c :: more) false
  refine Local.ifNext (w := ['\x7b']) (m := m) (by decide) any fixed ?_ ?_
  · intro cs rest h
    unfold PatternParser.hexEscape
    rw [h]
    rfl
  · intro cs h
    unfold PatternParser.hexEscape
    split
    · next rest same => exact absurd ⟨rest, same.symm⟩ h
    · rfl

/-- The escape for a set of characters with a property, if it is one. -/
def propertyOf (m : Mode) (negated : Bool) (property : Option CharSet) (rest : List Char) :
    Option (Escape × List Char) := do
  let set ← m.negate? negated (m.fold (← property))
  some (.set set, rest)

/-- A property of one letter. -/
def shortProperty (m : Mode) (negated : Bool) : List Char → Option (Escape × List Char)
  | c :: rest =>
    if c = '\\' then none else propertyOf m negated (CharProperty.named? [c]) rest
  | [] => none

theorem Local.propertyOf (m : Mode) (negated : Bool) (property : Option CharSet) :
    Local (propertyOf m negated property) := by
  unfold PatternParser.propertyOf
  cases property with
  | none => exact Local.none
  | some s =>
    cases set : m.negate? negated (m.fold s) with
    | none => simpa [set] using Local.none
    | some s => simpa [set] using Local.pure (Escape.set s)

theorem Local.propertyEscape (m : Mode) (negated : Bool) : Local (propertyEscape m negated) := by
  have long : Local fun cs => (PatternParser.braced m cs).bind fun p =>
      PatternParser.propertyOf m negated (propertySet p.1) p.2 :=
    Local.bind (Local.braced m) fun name => Local.propertyOf m negated (propertySet name)
  have short : Local (shortProperty m negated) := by
    refine Local.of_cons rfl fun c => ?_
    by_cases slash : c = '\\'
    · simpa [shortProperty, slash] using Local.none
    · simpa [shortProperty, slash] using Local.propertyOf m negated (CharProperty.named? [c])
  by_cases unicode : m.unicode
  · refine Local.ifNext (w := ['\x7b']) (m := m) (by decide) long short ?_ ?_
    · intro cs rest h
      unfold PatternParser.propertyEscape
      rw [h, unicode]
      rfl
    · intro cs h
      unfold PatternParser.propertyEscape
      rw [unicode]
      simp only [Bool.not_true, Bool.false_eq_true, if_false]
      split
      · next rest same => exact absurd ⟨rest, same.symm⟩ h
      · next same =>
        rw [same]
        rfl
      · next same =>
        rw [same]
        rfl
  · have refused : PatternParser.propertyEscape m negated = fun _ => Option.none := by
      funext cs
      simp [PatternParser.propertyEscape, unicode]
    rw [refused]
    exact Local.none

/-- The named kind of a word boundary, up to its closing brace. -/
def boundaryKind (m : Mode) (cs : List Char) : Option (Escape × List Char) :=
  match m.spaced (fun c => c.isAlpha || c = '-') cs with
  | (name, '\x7d' :: rest) =>
    (boundaryNames.lookup (String.ofList name)).map fun b =>
      (.assertion (.wordBoundary m.wordKind b), rest)
  | _ => none

theorem Local.boundaryKind (m : Mode) : Local (boundaryKind m) := by
  refine Local.bind (f := fun cs => some (m.spaced (fun c => c.isAlpha || c = '-') cs))
    (k := fun named => match named with
      | (name, '\x7d' :: rest) => (boundaryNames.lookup (String.ofList name)).map fun b =>
          (Escape.assertion (.wordBoundary m.wordKind b), rest)
      | _ => Option.none) (Local.spaced m _) fun name => ?_
  refine Local.ifPrefix (w := ['\x7d']) (by decide)
    (Local.const ((boundaryNames.lookup (String.ofList name)).map fun b =>
      Escape.assertion (.wordBoundary m.wordKind b))) Local.none (fun cs => ?_) fun cs h => ?_
  · rw [Option.map_map]
    rfl
  · split
    · next same =>
      cases same
      exact absurd ⟨_, rfl⟩ h
    · rfl

def Escape.IsAssertion (e : Escape) : Prop :=
  ∃ a, e = .assertion a

/-- An opening brace of which nothing but a closing parenthesis is left. A word boundary without a
kind may come to stand before it; no pattern goes on there. -/
def Stuck (m : Mode) (left : List Char) : Prop :=
  ∃ rest, left = '\x7b' :: rest ∧ m.skip rest = [')']

theorem boundaryEscape_brace (m : Mode) (cs : List Char) :
    boundaryEscape m ('\x7b' :: cs) = match m.skip cs with
      | [] => none
      | c :: rest =>
        if !(c.isAlpha || c = '-') then
          some (.assertion (.wordBoundary m.wordKind .either), '\x7b' :: cs)
        else boundaryKind m (c :: rest) :=
  rfl

theorem boundaryEscape_of_ne (brace : ∀ rest, cs ≠ '\x7b' :: rest) :
    boundaryEscape m cs = some (.assertion (.wordBoundary m.wordKind .either), cs) := by
  unfold boundaryEscape
  dsimp only
  split
  · next rest => exact absurd rfl (brace rest)
  · rfl

/-- Readers that may also stop before such a brace, with results of one kind. -/
structure AlmostLocal {α : Type} (m : Mode) (kind : α → Prop)
    (f : List Char → Option (α × List Char)) : Prop where
  length_le {t : List Char} {a : α} {left : List Char} :
    f t = some (a, left) → left.length ≤ t.length
  of_close {t : List Char} {a : α} {left : List Char} :
    f (t ++ [')']) = some (a, left) → left ≠ [] →
      (∃ r, r ++ [')'] = left ∧ f t = some (a, r)) ∨ Stuck m left ∧ kind a

section Almost

variable {α β : Type} {kind : α → Prop} {f : List Char → Option (α × List Char)}

theorem Local.almost (h : Local f) : AlmostLocal m kind f := by
  refine ⟨h.length_le, fun read more => Or.inl ?_⟩
  obtain ⟨⟨a, r⟩, same, read'⟩ := h.of_close read more
  cases same
  exact ⟨r, rfl, read'⟩

theorem AlmostLocal.of_cons (nil : f [] = none)
    (cons : ∀ c, AlmostLocal m kind fun cs => f (c :: cs)) : AlmostLocal m kind f := by
  constructor
  · intro cs a left h
    cases cs with
    | nil => rw [nil] at h; cases h
    | cons c cs => exact Nat.le_succ_of_le ((cons c).length_le h)
  · intro cs a left h more
    cases cs with
    | nil =>
      have bound := (cons ')').length_le (t := []) h
      exact absurd (List.eq_nil_of_length_eq_zero (Nat.le_zero.mp bound)) more
    | cons c cs => exact (cons c).of_close h more

/-- What is made of the result, if anything. -/
theorem AlmostLocal.filterMap {kind' : β → Prop} (h : AlmostLocal m kind f) (g : α → Option β)
    (keeps : ∀ a b, kind a → g a = some b → kind' b) :
    AlmostLocal m kind' fun cs => (f cs).bind fun (a, rest) => (g a).map fun b => (b, rest) := by
  constructor
  · intro cs b left read
    obtain ⟨⟨a, rest⟩, first, second⟩ := Option.bind_eq_some_iff.mp read
    obtain ⟨_, _, same⟩ := Option.map_eq_some_iff.mp second
    cases same
    exact h.length_le first
  · intro cs b left read more
    obtain ⟨⟨a, rest⟩, first, second⟩ := Option.bind_eq_some_iff.mp read
    obtain ⟨b', made, same⟩ := Option.map_eq_some_iff.mp second
    cases same
    rcases h.of_close first more with ⟨r, same, first'⟩ | ⟨stuck, last⟩
    · exact Or.inl ⟨r, same, Option.bind_eq_some_iff.mpr
        ⟨(a, r), first', Option.map_eq_some_iff.mpr ⟨b, made, rfl⟩⟩⟩
    · exact Or.inr ⟨stuck, keeps a b last made⟩

end Almost

theorem AlmostLocal.boundaryEscape (m : Mode) :
    AlmostLocal m Escape.IsAssertion (boundaryEscape m) := by
  constructor
  · intro cs e left h
    by_cases brace : ∃ rest, cs = '\x7b' :: rest
    · obtain ⟨cs, rfl⟩ := brace
      rw [boundaryEscape_brace] at h
      have shorter := skip_length_le m cs
      split at h
      · cases h
      · next c rest same =>
        rw [same] at shorter
        split at h
        · cases h
          exact Nat.le_refl _
        · exact Nat.le_trans ((Local.boundaryKind m).length_le h) (Nat.le_succ_of_le shorter)
    · rw [boundaryEscape_of_ne (not_exists.mp brace)] at h
      cases h
      exact Nat.le_refl _
  · intro cs e left h more
    by_cases brace : ∃ rest, cs = '\x7b' :: rest
    · obtain ⟨cs, rfl⟩ := brace
      rw [List.cons_append, boundaryEscape_brace] at h
      rw [boundaryEscape_brace]
      rcases skip_close m cs with gone | stays
      · rw [gone] at h
        cases h
      rw [stays] at h
      cases after : m.skip cs with
      | nil =>
        rw [after] at stays h
        cases h
        exact Or.inr ⟨⟨cs ++ [')'], rfl, stays⟩, _, rfl⟩
      | cons c rest =>
        rw [after, List.cons_append] at h
        refine Or.inl ?_
        dsimp only at h ⊢
        split at h
        · next plain =>
          cases h
          exact ⟨'\x7b' :: cs, rfl, by rw [if_pos plain]⟩
        · next kind =>
          rw [if_neg kind]
          obtain ⟨⟨e', r⟩, same, h'⟩ := (Local.boundaryKind m).of_close (t := c :: rest) h more
          cases same
          exact ⟨r, rfl, h'⟩
    · have brace' := close_ne_cons (by decide) (not_exists.mp brace)
      rw [boundaryEscape_of_ne brace'] at h
      rw [boundaryEscape_of_ne (not_exists.mp brace)]
      cases h
      exact Or.inl ⟨cs, rfl, rfl⟩

/-- Most escapes are one character and no more. -/
theorem escape_cons {c : Char} (short : c ∉ ['x', 'u', 'U', 'p', 'P', 'b']) (rest : List Char) :
    escape m (c :: rest) = ((escape m [c]).map Prod.fst).map fun e => (e, rest) := by
  unfold escape
  dsimp only
  split
  case h_24 => split <;> rfl
  all_goals simp [Function.comp_def] at short ⊢

theorem AlmostLocal.escape (m : Mode) : AlmostLocal m Escape.IsAssertion (escape m) := by
  refine AlmostLocal.of_cons rfl fun c => ?_
  by_cases long : c ∈ ['x', 'u', 'U', 'p', 'P', 'b']
  · simp only [List.mem_cons, List.not_mem_nil, or_false] at long
    rcases long with rfl | rfl | rfl | rfl | rfl | rfl
    · exact (Local.hexEscape m 2).almost
    · exact (Local.hexEscape m 4).almost
    · exact (Local.hexEscape m 8).almost
    · exact (Local.propertyEscape m false).almost
    · exact (Local.propertyEscape m true).almost
    · exact AlmostLocal.boundaryEscape m
  · have short := funext (escape_cons (m := m) long)
    rw [short]
    exact (Local.const _).almost

end CloudThreat.PatternParser

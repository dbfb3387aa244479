import CloudThreat.Proofs.GroupTails

namespace CloudThreat.PatternParser

open Remainder

variable {m : Mode} {cs left : List Char}

/-- What comes next in a group. -/
inductive Token where
  | finish
  | bar
  | part (p : Pattern) (depth : Nat)
  | repeated (least : Nat) (most : Option Nat)
  | group (mode : Mode) (name : Option (List Char))
  | switch (mode : Mode)

namespace Token

def opening (m : Mode) : GroupOpening → Token × List Char
  | .capturing rest => (.group m none, rest)
  | .named name rest => (.group m (some name), rest)
  | .scoped mode rest => (.group mode none, rest)
  | .switch mode rest => (.switch mode, rest)

def escaped? (m : Mode) : Escape → Option Token
  | .literal c byte => if refusesByte m c byte then none else some (.part (.set (m.literal c)) 0)
  | .set s => some (.part (.set s) 0)
  | .assertion a => some (.part (.assertion a) 0)

end Token

theorem Local.lazy {α : Type} (a : α) : Local fun cs => some (a, dropLazyMark cs) := by
  refine Local.ifPrefix (w := ['?']) (by decide) (Local.pure a) (Local.pure a) (fun cs => rfl)
    fun cs h => ?_
  unfold dropLazyMark
  split
  · next rest => exact absurd ⟨rest, rfl⟩ h
  · rfl

/-- The bounds of a repetition and its lazy mark. -/
theorem Local.braces (m : Mode) : Local fun cs =>
    (PatternParser.bounds m cs).map fun (least, most, rest) =>
      (Token.repeated least most, dropLazyMark (m.skip rest)) := by
  have parts : (fun cs => (PatternParser.bounds m cs).map fun (least, most, rest) =>
      (Token.repeated least most, dropLazyMark (m.skip rest))) = fun cs =>
        ((PatternParser.bounds m cs).map fun p => ((p.1, p.2.1), p.2.2)).bind fun q =>
          some (Token.repeated q.1.1 q.1.2, dropLazyMark (m.skip q.2)) := by
    funext cs
    cases PatternParser.bounds m cs <;> rfl
  rw [parts]
  exact Local.bind ((Local.bounds m).map _ (fun _ => rfl) fun _ => rfl) fun limits =>
    (Local.lazy (Token.repeated limits.1 limits.2)).skip m

namespace Token

end Token

section Body

variable {fuel : Nat} {names : List (List Char)} {pieces : List Piece} {earlier : List Nested}
variable {t : Token} {b : Body}

end Body

end CloudThreat.PatternParser

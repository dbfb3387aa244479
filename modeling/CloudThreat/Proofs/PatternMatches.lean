import CloudThreat.Pattern

namespace CloudThreat

/-- A number of steps in turn. -/
inductive Steps (step : Place → Place → Prop) : Nat → Place → Place → Prop where
  | refl (a : Place) : Steps step 0 a a
  | next {n : Nat} {a b c : Place} : step a b → Steps step n b c → Steps step (n + 1) a c

theorem Steps.trans {step : Place → Place → Prop} {n k : Nat} {a b c : Place}
    (first : Steps step n a b) (second : Steps step k b c) : Steps step (k + n) a c := by
  induction first with
  | refl a => exact second
  | next one _ ih => exact Steps.next one (ih second)

namespace Pattern

/-- Does a match of the pattern lead from the one place to the other? A repetition goes on after its
least number of times for as long as it may. -/
def Leads : Pattern → Place → Place → Prop
  | empty, a, b => a = b
  | set s, a, b => ∃ c, s.contains c.toNat ∧ a.rest = c :: b.rest ∧ b.before = some c
  | assertion x, a, b => x.holds a ∧ a = b
  | seq p q, a, c => ∃ b, p.Leads a b ∧ q.Leads b c
  | alt p q, a, b => p.Leads a b ∨ q.Leads a b
  | repeated p least most, a, b =>
    ∃ more, (∀ m ∈ most, more ≤ m - least) ∧ Steps p.Leads (more + least) a b

section Steps

variable {leads : Place → Place → Prop} {step : List Place → List Place} {q : Place}

end Steps

end Pattern

end CloudThreat

namespace CloudThreat

variable {α β σ : Type}

/-- A service that also keeps a record of its exchanges, the first one first. -/
def recorded (serve : α → σ → β × σ) (a : α) (s : σ × List (α × β)) : β × σ × List (α × β) :=
  let (b, next) := serve a s.1
  (b, next, s.2 ++ [(a, b)])

theorem recorded_eq (serve : α → σ → β × σ) (a : α) (s : σ × List (α × β)) :
    recorded serve a s = ((serve a s.1).1, (serve a s.1).2, s.2 ++ [(a, (serve a s.1).1)]) :=
  rfl

end CloudThreat

import CloudThreat.Proofs.CacheEntries

namespace CloudThreat

/-- A call to a cache at some time. -/
inductive CacheCall where
  | get (now : Nat) (prompt : String) (systemPrompt : Option String)
  | set (now : Nat) (prompt reply : String) (systemPrompt : Option String)
  | clear (now : Nat)
  | removeExpired (now : Nat)
deriving Repr, DecidableEq

namespace CacheCall

def time : CacheCall → Nat
  | get now _ _ => now
  | set now _ _ _ => now
  | clear now => now
  | removeExpired now => now

end CacheCall

namespace ReplyCache

variable {c : ReplyCache} {k : String} {call : CacheCall} {past : List CacheCall}
  {maxSize timeToLive : Nat}

/-- The cache after a call. -/
def after (c : ReplyCache) : CacheCall → ReplyCache
  | .get now prompt systemPrompt => (c.get now prompt systemPrompt).2
  | .set now prompt reply systemPrompt => c.set now prompt reply systemPrompt
  | .clear _ => c.clear
  | .removeExpired now => (c.removeExpired now).2

/-- The cache after a run. -/
def reached (maxSize timeToLive : Nat) : List CacheCall → ReplyCache
  | [] => .new maxSize timeToLive
  | call :: past => (reached maxSize timeToLive past).after call

/-- The key that a call uses: it is stored under, or found with its entry. -/
def used? (c : ReplyCache) : CacheCall → Option String
  | .get now prompt systemPrompt =>
    if (c.get now prompt systemPrompt).1.isSome then some (key prompt systemPrompt) else none
  | .set _ prompt _ systemPrompt => some (key prompt systemPrompt)
  | .clear _ => none
  | .removeExpired _ => none

/-- A call that uses a key puts its entry last, and any other call leaves a part of the entries. -/
theorem after_cases (h : c.WellKept) (call : CacheCall) :
    (∃ k reply storedAt, c.used? call = some k ∧ (c.after call).clock = c.clock + 1 ∧
      (c.after call).entries = (c.renew k reply storedAt).entries) ∨
    (c.used? call = none ∧ c.clock ≤ (c.after call).clock ∧
      (c.after call).entries.Sublist c.entries) := by
  cases call with
  | get now prompt systemPrompt =>
    rcases getKey_cases h now (key prompt systemPrompt) with
      ⟨_, hg⟩ | ⟨e, _, _, hg⟩ | ⟨e, _, _, hg⟩
    · exact .inr (by simp [used?, after, get, hg])
    · exact .inr ⟨by simp [used?, get, hg], by simp [after, get, hg],
        by simpa [after, get, hg] using without_sublist _ _⟩
    · exact .inl ⟨key prompt systemPrompt, e.reply, e.storedAt, by simp [used?, get, hg],
        by simp [after, get, hg, renew], by simp [after, get, hg]⟩
  | set now prompt reply systemPrompt =>
    refine .inl ⟨key prompt systemPrompt, reply, now, rfl, rfl, ?_⟩
    rw [after, set, setKey_eq h]
  | clear now => exact .inr ⟨rfl, Nat.le_refl _, List.nil_sublist _⟩
  | removeExpired now => exact .inr ⟨rfl, Nat.le_refl _, List.filter_sublist⟩

theorem after_limits (c : ReplyCache) (call : CacheCall) :
    (c.after call).maxSize = c.maxSize ∧ (c.after call).timeToLive = c.timeToLive := by
  cases call with
  | get now prompt systemPrompt =>
    simp only [after, get, getKey]
    split
    · exact ⟨rfl, rfl⟩
    · split <;> exact ⟨rfl, rfl⟩
  | set now prompt reply systemPrompt => exact ⟨rfl, rfl⟩
  | clear now => exact ⟨rfl, rfl⟩
  | removeExpired now => exact ⟨rfl, rfl⟩

theorem WellKept.after (h : c.WellKept) (call : CacheCall) : (c.after call).WellKept := by
  have size := (after_limits c call).1
  rcases after_cases h call with ⟨k, reply, storedAt, _, clock, entries⟩ | ⟨_, clock, sub⟩
  · have renewed := h.renew k reply storedAt
    exact renewed.sublist (by rw [entries]) size (Nat.le_of_eq clock.symm)
  · exact h.sublist sub size clock

theorem reached_limits (maxSize timeToLive : Nat) (past : List CacheCall) :
    (reached maxSize timeToLive past).maxSize = max maxSize 1 ∧
      (reached maxSize timeToLive past).timeToLive = timeToLive := by
  induction past with
  | nil => exact ⟨rfl, rfl⟩
  | cons call past ih =>
    have same := after_limits (reached maxSize timeToLive past) call
    exact ⟨same.1.trans ih.1, same.2.trans ih.2⟩

theorem reached_wellKept (maxSize timeToLive : Nat) (past : List CacheCall) :
    (reached maxSize timeToLive past).WellKept := by
  induction past with
  | nil => exact WellKept.new maxSize timeToLive
  | cons call past ih => exact ih.after call

end ReplyCache

end CloudThreat

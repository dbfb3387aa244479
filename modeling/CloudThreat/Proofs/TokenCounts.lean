import CloudThreat.ModelApi
import CloudThreat.Proofs.JsonNumbers
import Mathlib.Algebra.BigOperators.Group.List.Basic
import Mathlib.Algebra.GroupWithZero.Nat

namespace CloudThreat

namespace WordSize

variable {a b c : UInt64} {words : List UInt64}

theorem add?_eq_some_iff : add? a b = some c ↔ c.toNat = a.toNat + b.toNat := by
  have limit : maxUnsigned 64 = 2 ^ 64 - 1 := rfl
  unfold add?
  split
  next fits =>
    have exact_sum : (a + b).toNat = a.toNat + b.toNat := by
      rw [UInt64.toNat_add, Nat.mod_eq_of_lt (by omega)]
    rw [Option.some_inj, ← UInt64.toNat_inj, exact_sum]
    exact eq_comm
  next exceeds =>
    have bound := c.toNat_lt
    exact ⟨fun h => (nomatch h), fun same => absurd same (by omega)⟩

theorem add?_eq_none_iff : add? a b = none ↔ 2 ^ 64 ≤ a.toNat + b.toNat := by
  have limit : maxUnsigned 64 = 2 ^ 64 - 1 := rfl
  unfold add?
  split
  next fits => exact ⟨fun h => (nomatch h), fun exceeds => absurd exceeds (by omega)⟩
  next exceeds => exact ⟨fun _ => by omega, fun _ => rfl⟩

theorem foldlM_add?_eq_some_iff {start total : UInt64} : words.foldlM add? start = some total ↔
    total.toNat = start.toNat + (words.map UInt64.toNat).sum := by
  induction words generalizing start with
  | nil =>
    rw [List.foldlM_nil, List.map_nil, List.sum_nil, Nat.add_zero, UInt64.toNat_inj]
    exact Option.some_inj.trans eq_comm
  | cons w rest ih =>
    rw [List.foldlM_cons, List.map_cons, List.sum_cons, ← Nat.add_assoc]
    cases next : add? start w with
    | none =>
      have exceeds := add?_eq_none_iff.mp next
      have bound := total.toNat_lt
      exact ⟨fun h => (nomatch h), fun same => absurd same (by omega)⟩
    | some s =>
      rw [← add?_eq_some_iff.mp next]
      exact ih

theorem sum?_eq_some_iff {total : UInt64} :
    sum? words = some total ↔ total.toNat = (words.map UInt64.toNat).sum := by
  rw [sum?, foldlM_add?_eq_some_iff, UInt64.toNat_zero, Nat.zero_add]

/-- No sum on the way overflows unless the whole one does. -/
theorem sum?_isSome_iff : (sum? words).isSome = true ↔ (words.map UInt64.toNat).sum < 2 ^ 64 := by
  rw [Option.isSome_iff_exists]
  constructor
  · rintro ⟨total, summed⟩
    rw [← sum?_eq_some_iff.mp summed]
    exact total.toNat_lt
  · intro small
    exact ⟨UInt64.ofNat _, sum?_eq_some_iff.mpr (UInt64.toNat_ofNat_of_lt small)⟩

end WordSize

/-- The JSON in an answer that brings any. -/
def HttpOutcome.payload? : HttpOutcome → Option Json
  | .reply status text =>
    if Http.isSuccess status && !Http.isBodiless status then Json.ofText? text else none
  | _ => none

namespace ModelApi

variable {p : ModelProvider} {a : HttpOutcome} {payload : Json} {keys : List String}

/-- A count in an answer, however large; what is no count is zero. -/
def usage (payload : Json) (name : String) : Nat :=
  ((at? payload ["usage", name]).bind Json.nat?).getD 0

/-- The tokens of an answer by the counts in it. -/
def counted (p : ModelProvider) (payload : Json) : Nat :=
  match p with
  | .claude => usage payload "input_tokens" + usage payload "output_tokens"
  | .openai => usage payload "total_tokens"

/-- The answer has a text, and more tokens than a word can count. -/
def Overflows (p : ModelProvider) (a : HttpOutcome) : Prop :=
  ∃ payload, a.payload? = some payload ∧ (textOf? p payload).isSome = true ∧
    2 ^ 64 ≤ counted p payload

theorem at?_whole {value : Json} (whole : payload.Whole) (found : at? payload keys = some value) :
    value.Whole := by
  induction keys generalizing payload with
  | nil =>
    obtain rfl := Option.some.inj found
    exact whole
  | cons key keys ih =>
    rw [at?, List.foldlM_cons] at found
    obtain ⟨inner, field, found⟩ := Option.bind_eq_some_iff.mp found
    exact ih (whole.get? field) found

theorem usage_lt (whole : payload.Whole) (name : String) : usage payload name < 2 ^ 64 := by
  rw [usage]
  cases found : (at? payload ["usage", name]).bind Json.nat? with
  | none => exact Nat.two_pow_pos 64
  | some n =>
    obtain ⟨value, there, count⟩ := Option.bind_eq_some_iff.mp found
    exact (at?_whole whole there).nat?_lt count

theorem tokensAt_toNat (whole : payload.Whole) (name : String) :
    (tokensAt payload ["usage", name]).toNat = usage payload name :=
  UInt64.toNat_ofNat_of_lt (usage_lt whole name)

theorem tokens?_eq_some_iff (whole : payload.Whole) {n : UInt64} :
    tokens? p payload = some n ↔ n.toNat = counted p payload := by
  cases p with
  | claude =>
    rw [tokens?, WordSize.add?_eq_some_iff, tokensAt_toNat whole, tokensAt_toNat whole]
    rfl
  | openai =>
    rw [tokens?, Option.some_inj, ← UInt64.toNat_inj, tokensAt_toNat whole]
    exact eq_comm

theorem tokens?_eq_none_iff (whole : payload.Whole) :
    tokens? p payload = none ↔ 2 ^ 64 ≤ counted p payload := by
  cases p with
  | claude =>
    rw [tokens?, WordSize.add?_eq_none_iff, tokensAt_toNat whole, tokensAt_toNat whole]
    rfl
  | openai =>
    have bound : counted .openai payload < 2 ^ 64 := usage_lt whole _
    exact ⟨fun h => (nomatch h), fun exceeds => absurd bound (Nat.not_lt.mpr exceeds)⟩

theorem payload?_whole (found : a.payload? = some payload) : payload.Whole := by
  cases a with
  | lost reason => cases found
  | late => cases found
  | reply status text =>
    rw [HttpOutcome.payload?] at found
    split at found
    next => exact Json.whole_of_ofText? found
    next => cases found

theorem read_of_payload (found : a.payload? = some payload) : read p a = completion p payload := by
  cases a with
  | lost reason => cases found
  | late => cases found
  | reply status text =>
    rw [HttpOutcome.payload?] at found
    split at found
    next success =>
      obtain ⟨success, body⟩ := Bool.and_eq_true_iff.mp success
      have below : status < 300 := of_decide_eq_true (Bool.and_eq_true_iff.mp success).2
      have limited : status ≠ 429 := by omega
      have timed : status ≠ 408 := by omega
      have gateway : status ≠ 504 := by omega
      have bodied : Http.isBodiless status = false := by simpa using body
      simp [read, limited, timed, gateway, success, bodied, found]
    next => cases found

theorem read_of_no_payload (p : ModelProvider) (missing : a.payload? = none) :
    ∃ e, read p a = .error (.told e) := by
  have bodiless : Json.ofText? "" = none := rfl
  cases a with
  | lost reason => exact ⟨_, rfl⟩
  | late => exact ⟨_, rfl⟩
  | reply status text =>
    simp only [read]
    split
    next => exact ⟨_, rfl⟩
    next =>
    split
    next => exact ⟨_, rfl⟩
    next =>
    split
    next => exact ⟨_, rfl⟩
    next succeeded =>
    have success : Http.isSuccess status = true := by simpa using succeeded
    have unread : Json.ofText? (if Http.isBodiless status = true then "" else text) = none := by
      cases bodied : Http.isBodiless status with
      | true => exact bodiless
      | false => simpa [HttpOutcome.payload?, bodied, success] using missing
    rw [unread]
    exact ⟨_, rfl⟩

theorem read_eq_ok_iff {c : Completion} : read p a = .ok c ↔
    ∃ payload, a.payload? = some payload ∧ textOf? p payload = some c.text ∧
      c.tokens.toNat = counted p payload := by
  cases found : a.payload? with
  | none =>
    obtain ⟨e, failed⟩ := read_of_no_payload p found
    simp [failed]
  | some payload =>
    have whole := payload?_whole found
    obtain ⟨text, tokens⟩ := c
    rw [read_of_payload found]
    simp only [Option.some.injEq, exists_eq_left', ← tokens?_eq_some_iff whole]
    unfold completion
    cases textOf? p payload with
    | none => simp
    | some text' => cases tokens? p payload <;> simp

theorem read_eq_overflow_iff : read p a = .error .overflow ↔ Overflows p a := by
  unfold Overflows
  cases found : a.payload? with
  | none =>
    obtain ⟨e, failed⟩ := read_of_no_payload p found
    simp [failed]
  | some payload =>
    have whole := payload?_whole found
    rw [read_of_payload found]
    simp only [Option.some.injEq, exists_eq_left', ← tokens?_eq_none_iff whole]
    unfold completion
    cases textOf? p payload with
    | none => simp
    | some text' => cases tokens? p payload <;> simp

end ModelApi

end CloudThreat

import CloudThreat.Proofs.HashedTexts
import CloudThreat.Utf8

namespace CloudThreat

namespace Utf8

/-- The bytes of a character. -/
def codeOf (c : Char) : List Nat :=
  (String.utf8EncodeChar c).map UInt8.toNat

theorem encode_eq_flatMap (s : String) : encode s = s.toList.flatMap codeOf := by
  have bytes : s.toUTF8.toList = s.toList.flatMap String.utf8EncodeChar := by
    rw [ByteArray.toList, toList_loop_eq, String.toUTF8, ← String.utf8Encode_toList,
      List.utf8Encode]
    simp
  rw [encode, bytes, List.map_flatMap]
  rfl

theorem isValidChar_toNat (c : Char) :
    c.toNat < 0xD800 ∨ 0xDFFF < c.toNat ∧ c.toNat < 0x110000 :=
  c.valid

theorem toNat_lt (c : Char) : c.toNat < 0x110000 := by
  have := isValidChar_toNat c
  omega

theorem codeOf_eq (c : Char) : codeOf c =
    if c.toNat ≤ 0x7F then [c.toNat]
    else if c.toNat ≤ 0x7FF then [c.toNat / 64 + 0xC0, c.toNat % 64 + 0x80]
    else if c.toNat ≤ 0xFFFF then
      [c.toNat / 4096 + 0xE0, c.toNat / 64 % 64 + 0x80, c.toNat % 64 + 0x80]
    else
      [c.toNat / 262144 + 0xF0, c.toNat / 4096 % 64 + 0x80, c.toNat / 64 % 64 + 0x80,
        c.toNat % 64 + 0x80] := by
  have bound := toNat_lt c
  have value : c.val.toNat = c.toNat := rfl
  simp only [codeOf, String.utf8EncodeChar, value]
  generalize c.toNat = v at bound
  split
  · simp
    omega
  · split
    · simp
      omega
    · split
      · simp
        omega
      · simp
        omega

/-- At the first place where two lists differ, the first has the smaller number. -/
inductive Below : List Nat → List Nat → Prop
  | head {m n : Nat} {bs cs : List Nat} : m < n → Below (m :: bs) (n :: cs)
  | tail {n : Nat} {bs cs : List Nat} : Below bs cs → Below (n :: bs) (n :: cs)

theorem below_cons_iff {m n : Nat} {bs cs : List Nat} :
    Below (m :: bs) (n :: cs) ↔ m < n ∨ m = n ∧ Below bs cs := by
  constructor
  · intro h
    cases h with
    | head h => exact .inl h
    | tail h => exact .inr ⟨rfl, h⟩
  · rintro (h | ⟨rfl, h⟩)
    · exact .head h
    · exact .tail h

theorem not_below_nil (cs : List Nat) : ¬ Below [] cs :=
  nofun

theorem Below.append_lt {bs cs : List Nat} (h : Below bs cs) (more after : List Nat) :
    bs ++ more < cs ++ after := by
  induction h with
  | head h => exact List.Lex.rel h
  | tail _ ih => exact List.Lex.cons ih

theorem codeOf_below {c d : Char} (h : c < d) : Below (codeOf c) (codeOf d) := by
  have less : c.toNat < d.toNat := h
  rw [codeOf_eq, codeOf_eq]
  generalize c.toNat = v at less
  generalize d.toNat = w at less
  repeat' split
  all_goals
    simp only [below_cons_iff, not_below_nil, and_false, or_false]
    omega

theorem codeOf_ne_nil (c : Char) : codeOf c ≠ [] := by
  rw [codeOf_eq]
  repeat' split
  all_goals simp

theorem encode_lt {s t : String} (h : s < t) : encode s < encode t := by
  have chars : s.toList < t.toList := h
  rw [encode_eq_flatMap, encode_eq_flatMap]
  generalize s.toList = cs at chars
  generalize t.toList = ds at chars
  induction chars with
  | @nil d ds =>
    obtain ⟨b, bs, code⟩ := List.exists_cons_of_ne_nil (codeOf_ne_nil d)
    rw [List.flatMap_nil, List.flatMap_cons, code]
    exact List.Lex.nil
  | @rel c cs d ds less => exact (codeOf_below less).append_lt _ _
  | @cons c cs ds _ ih =>
    rw [List.flatMap_cons, List.flatMap_cons]
    exact List.append_left_lt ih

variable {begun : Begun} {bytes rest : List Nat} {b : Nat}

theorem decodeFrom_whole {c : Char} (h : opening b = .whole c) (rest : List Nat) :
    decodeFrom .nothing (b :: rest) = some c :: decodeFrom .nothing rest := by
  simp [decodeFrom, Begun.nothing, h]

theorem decodeFrom_lead (h : opening b = .lead begun) (rest : List Nat) :
    decodeFrom .nothing (b :: rest) = decodeFrom begun rest := by
  simp [decodeFrom, Begun.nothing, h]

theorem decodeFrom_last {value low high : Nat} (hl : low ≤ b) (hh : b ≤ high) (rest : List Nat) :
    decodeFrom ⟨1, value, low, high⟩ (b :: rest) =
      some (Char.ofNat (value * 0x40 + (b - 0x80))) :: decodeFrom .nothing rest := by
  simp [decodeFrom, hl, hh]

theorem decodeFrom_more {missing value low high : Nat} (hl : low ≤ b) (hh : b ≤ high)
    (rest : List Nat) : decodeFrom ⟨missing + 2, value, low, high⟩ (b :: rest) =
      decodeFrom ⟨missing + 1, value * 0x40 + (b - 0x80), 0x80, 0xBF⟩ rest := by
  simp [decodeFrom, hl, hh]

theorem opening_two (h : 0xC2 ≤ b) (h' : b < 0xE0) :
    opening b = .lead ⟨1, b - 0xC0, 0x80, 0xBF⟩ := by
  rw [opening, if_neg (by omega), if_neg (by omega), if_pos h']

theorem opening_three (h : 0xE0 ≤ b) (h' : b < 0xF0) : opening b = .lead
    ⟨2, b - 0xE0, if b = 0xE0 then 0xA0 else 0x80, if b = 0xED then 0x9F else 0xBF⟩ := by
  rw [opening, if_neg (by omega), if_neg (by omega), if_neg (by omega), if_pos h']

theorem opening_four (h : 0xF0 ≤ b) (h' : b < 0xF5) : opening b = .lead
    ⟨3, b - 0xF0, if b = 0xF0 then 0x90 else 0x80, if b = 0xF4 then 0x8F else 0xBF⟩ := by
  rw [opening, if_neg (by omega), if_neg (by omega), if_neg (by omega), if_neg (by omega),
    if_pos h']

theorem decodeFrom_codeOf (c : Char) (rest : List Nat) :
    decodeFrom .nothing (codeOf c ++ rest) = some c :: decodeFrom .nothing rest := by
  have valid := isValidChar_toNat c
  have back : Char.ofNat c.toNat = c := Char.ofNat_toNat c
  rw [codeOf_eq]
  generalize c.toNat = v at valid back
  split
  · have first : opening v = .whole c := by
      rw [opening, if_pos (by omega), back]
    exact decodeFrom_whole first rest
  split
  · have value : (v / 64 + 0xC0 - 0xC0) * 0x40 + (v % 64 + 0x80 - 0x80) = v := by omega
    simp only [List.cons_append, List.nil_append]
    rw [decodeFrom_lead (opening_two (by omega) (by omega)), decodeFrom_last (by omega) (by omega),
      value, back]
  split
  · have value : ((v / 4096 + 0xE0 - 0xE0) * 0x40 + (v / 64 % 64 + 0x80 - 0x80)) * 0x40 +
        (v % 64 + 0x80 - 0x80) = v := by omega
    simp only [List.cons_append, List.nil_append]
    rw [decodeFrom_lead (opening_three (by omega) (by omega)),
      decodeFrom_more (by split <;> omega) (by split <;> omega),
      decodeFrom_last (by omega) (by omega), value, back]
  · have value : (((v / 262144 + 0xF0 - 0xF0) * 0x40 + (v / 4096 % 64 + 0x80 - 0x80)) * 0x40 +
        (v / 64 % 64 + 0x80 - 0x80)) * 0x40 + (v % 64 + 0x80 - 0x80) = v := by omega
    simp only [List.cons_append, List.nil_append]
    rw [decodeFrom_lead (opening_four (by omega) (by omega)),
      decodeFrom_more (by split <;> omega) (by split <;> omega),
      decodeFrom_more (by omega) (by omega), decodeFrom_last (by omega) (by omega), value, back]

theorem decodeFrom_flatMap (cs : List Char) :
    decodeFrom .nothing (cs.flatMap codeOf) = cs.map some := by
  induction cs with
  | nil => rfl
  | cons c cs ih => rw [List.flatMap_cons, decodeFrom_codeOf, ih, List.map_cons]

/-- Bytes that go on with a character which is begun, as none of them is a fault. -/
theorem exists_next_of_decodeFrom {missing value low high : Nat} {cs : List Char}
    (h : decodeFrom ⟨missing + 1, value, low, high⟩ bytes = cs.map some) :
    ∃ b rest, bytes = b :: rest ∧ low ≤ b ∧ b ≤ high := by
  cases bytes with
  | nil =>
    cases cs <;> simp [decodeFrom] at h
  | cons b rest =>
    refine ⟨b, rest, rfl, ?_⟩
    by_contra outside
    cases cs <;> simp [decodeFrom, outside] at h

theorem toNat_ofNat_of_valid {v : Nat} (h : v < 0xD800 ∨ 0xDFFF < v ∧ v < 0x110000) :
    (Char.ofNat v).toNat = v := by
  rw [Char.ofNat, dif_pos h]
  rfl

theorem exists_code_of_decodeFrom {cs : List Char}
    (h : decodeFrom .nothing (b :: bytes) = cs.map some) :
    ∃ c cs' rest, cs = c :: cs' ∧ b :: bytes = codeOf c ++ rest ∧
      decodeFrom .nothing rest = cs'.map some := by
  have first : ∀ {v : Nat} {rest : List Nat}, some (Char.ofNat v) :: decodeFrom .nothing rest =
      cs.map some → ∃ cs', cs = Char.ofNat v :: cs' ∧ decodeFrom .nothing rest = cs'.map some := by
    intro v rest h
    cases cs with
    | nil => simp at h
    | cons c cs' =>
      simp only [List.map_cons, List.cons.injEq, Option.some.injEq] at h
      exact ⟨cs', by rw [h.1], h.2⟩
  have whole (h1 : b < 0x80) : opening b = .whole (Char.ofNat b) := by rw [opening, if_pos h1]
  by_cases h1 : b < 0x80
  · rw [decodeFrom_whole (whole h1)] at h
    obtain ⟨cs', rfl, others⟩ := first h
    refine ⟨_, cs', bytes, rfl, ?_, others⟩
    rw [codeOf_eq, toNat_ofNat_of_valid (by omega), if_pos (by omega)]
    rfl
  by_cases h2 : 0xC2 ≤ b ∧ b < 0xE0
  · rw [decodeFrom_lead (opening_two h2.1 h2.2)] at h
    obtain ⟨b₁, rest, rfl, l1, u1⟩ := exists_next_of_decodeFrom h
    rw [decodeFrom_last l1 u1] at h
    obtain ⟨cs', rfl, others⟩ := first h
    refine ⟨_, cs', rest, rfl, ?_, others⟩
    rw [codeOf_eq, toNat_ofNat_of_valid (by omega), if_neg (by omega), if_pos (by omega)]
    simp only [List.cons_append, List.nil_append, List.cons.injEq, and_true]
    omega
  by_cases h3 : 0xE0 ≤ b ∧ b < 0xF0
  · rw [decodeFrom_lead (opening_three h3.1 h3.2)] at h
    obtain ⟨b₁, rest₁, rfl, l1, u1⟩ := exists_next_of_decodeFrom h
    rw [decodeFrom_more l1 u1] at h
    obtain ⟨b₂, rest, rfl, l2, u2⟩ := exists_next_of_decodeFrom h
    rw [decodeFrom_last l2 u2] at h
    obtain ⟨cs', rfl, others⟩ := first h
    have second : 0x80 ≤ b₁ ∧ b₁ ≤ 0xBF ∧ (b = 0xE0 → 0xA0 ≤ b₁) ∧ (b = 0xED → b₁ ≤ 0x9F) := by
      split at l1 <;> split at u1 <;> omega
    clear l1 u1
    refine ⟨_, cs', rest, rfl, ?_, others⟩
    rw [codeOf_eq, toNat_ofNat_of_valid (by omega), if_neg (by omega), if_neg (by omega),
      if_pos (by omega)]
    simp only [List.cons_append, List.nil_append, List.cons.injEq, and_true]
    omega
  by_cases h4 : 0xF0 ≤ b ∧ b < 0xF5
  · rw [decodeFrom_lead (opening_four h4.1 h4.2)] at h
    obtain ⟨b₁, rest₁, rfl, l1, u1⟩ := exists_next_of_decodeFrom h
    rw [decodeFrom_more l1 u1] at h
    obtain ⟨b₂, rest₂, rfl, l2, u2⟩ := exists_next_of_decodeFrom h
    rw [decodeFrom_more l2 u2] at h
    obtain ⟨b₃, rest, rfl, l3, u3⟩ := exists_next_of_decodeFrom h
    rw [decodeFrom_last l3 u3] at h
    obtain ⟨cs', rfl, others⟩ := first h
    have second : 0x80 ≤ b₁ ∧ b₁ ≤ 0xBF ∧ (b = 0xF0 → 0x90 ≤ b₁) ∧ (b = 0xF4 → b₁ ≤ 0x8F) := by
      split at l1 <;> split at u1 <;> omega
    clear l1 u1
    refine ⟨_, cs', rest, rfl, ?_, others⟩
    rw [codeOf_eq, toNat_ofNat_of_valid (by omega), if_neg (by omega), if_neg (by omega),
      if_neg (by omega)]
    simp only [List.cons_append, List.nil_append, List.cons.injEq, and_true]
    omega
  · have fault : opening b = .fault := by
      rw [opening, if_neg h1]
      repeat' split
      all_goals first | rfl | omega
    cases cs <;> simp [decodeFrom, Begun.nothing, fault] at h

theorem eq_flatMap_of_decodeFrom {cs : List Char} (h : decodeFrom .nothing bytes = cs.map some) :
    bytes = cs.flatMap codeOf := by
  induction cs generalizing bytes with
  | nil =>
    cases bytes with
    | nil => rfl
    | cons b bytes =>
      obtain ⟨_, _, _, absurd, _⟩ := exists_code_of_decodeFrom h
      cases absurd
  | cons c cs ih =>
    cases bytes with
    | nil => simp [decodeFrom, Begun.nothing] at h
    | cons b bytes =>
      obtain ⟨_, _, rest, ⟨⟩, code, h⟩ := exists_code_of_decodeFrom h
      rw [code, ih h, List.flatMap_cons]

theorem mapM_id_eq_some_iff {chars : List (Option Char)} {cs : List Char} :
    chars.mapM id = some cs ↔ chars = cs.map some := by
  induction chars generalizing cs with
  | nil => cases cs <;> simp
  | cons first others ih =>
    rw [List.mapM_cons]
    cases first with
    | none => cases cs <;> simp
    | some c =>
      cases cs with
      | nil => simp [Option.bind_eq_some_iff]
      | cons d cs => simp [Option.bind_eq_some_iff, ih, and_comm]

/-- Bytes are read as a text exactly when they are its bytes. -/
theorem decode?_eq_some_iff {bytes : List Nat} {s : String} :
    decode? bytes = some s ↔ bytes = encode s := by
  rw [encode_eq_flatMap, decode?, Option.map_eq_some_iff]
  constructor
  · rintro ⟨cs, all, rfl⟩
    rw [String.toList_ofList]
    exact eq_flatMap_of_decodeFrom (mapM_id_eq_some_iff.mp all)
  · rintro rfl
    exact ⟨s.toList, mapM_id_eq_some_iff.mpr (decodeFrom_flatMap _), String.ofList_toList⟩

end Utf8

end CloudThreat

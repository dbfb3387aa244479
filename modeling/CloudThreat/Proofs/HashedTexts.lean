import CloudThreat.Sha256
import Mathlib.Data.List.Basic

namespace CloudThreat

namespace Hexadecimal

theorem digit_injective : ∀ m < 16, ∀ n < 16, digit m = digit n → m = n := by decide

theorem byteDigits_injective {b c : Nat} (hb : b < 256) (hc : c < 256)
    (h : byteDigits b = byteDigits c) : b = c := by
  obtain ⟨high, low⟩ := List.cons.inj h
  have highs := digit_injective (b / 16) (by omega) (c / 16) (by omega) high
  have lows := digit_injective (b % 16) (by omega) (c % 16) (by omega) (List.cons.inj low).1
  omega

theorem flatMap_byteDigits_injective {bs cs : List Nat} (hb : ∀ b ∈ bs, b < 256)
    (hc : ∀ c ∈ cs, c < 256) (h : bs.flatMap byteDigits = cs.flatMap byteDigits) : bs = cs := by
  induction bs generalizing cs with
  | nil =>
    cases cs with
    | nil => rfl
    | cons c cs => simp [byteDigits] at h
  | cons b bs ih =>
    cases cs with
    | nil => simp [byteDigits] at h
    | cons c cs =>
      obtain ⟨firstB, restB⟩ := List.forall_mem_cons.mp hb
      obtain ⟨firstC, restC⟩ := List.forall_mem_cons.mp hc
      rw [List.flatMap_cons, List.flatMap_cons] at h
      obtain ⟨first, rest⟩ := List.append_inj h rfl
      rw [byteDigits_injective firstB firstC first, ih restB restC rest]

end Hexadecimal

namespace Utf8

/-- The bytes from a place on are put before what was read already. -/
theorem toList_loop_eq (bytes : ByteArray) (i : Nat) (read : List UInt8) :
    ByteArray.toList.loop bytes i read = read.reverse ++ bytes.data.toList.drop i := by
  fun_induction ByteArray.toList.loop bytes i read with
  | case1 i read inside ih =>
    have there : i < bytes.data.toList.length := by simpa using inside
    have byte : bytes.get! i = bytes.data.toList[i] :=
      getElem!_pos bytes.data i (by simpa using there)
    rw [ih, List.drop_eq_getElem_cons there, byte, List.reverse_cons, List.append_assoc,
      List.singleton_append]
  | case2 i read outside =>
    have past : bytes.data.toList.length ≤ i := by simpa using outside
    rw [List.drop_eq_nil_of_le past, List.append_nil]

theorem toList_eq (bytes : ByteArray) : bytes.toList = bytes.data.toList := by
  rw [ByteArray.toList, toList_loop_eq, List.reverse_nil, List.nil_append, List.drop_zero]

theorem encode_eq_map (s : String) : encode s = s.toUTF8.data.toList.map UInt8.toNat := by
  rw [encode, toList_eq]

theorem toList_injective {a b : ByteArray} (h : a.toList = b.toList) : a = b := by
  rw [toList_eq, toList_eq] at h
  exact ByteArray.ext (Array.toList_inj.mp h)

theorem encode_injective {s t : String} (h : encode s = encode t) : s = t := by
  have bytes : s.toUTF8.toList = t.toUTF8.toList :=
    (List.map_inj_right fun _ _ => UInt8.toNat_inj.mp).mp h
  exact String.toByteArray_inj.mp (toList_injective bytes)

end Utf8

namespace Sha256

/-- No two of the messages have the same hash. -/
def CollisionFree (messages : List (List Nat)) : Prop :=
  ∀ m ∈ messages, ∀ m' ∈ messages, hash m = hash m' → m = m'

instance (messages : List (List Nat)) : Decidable (CollisionFree messages) :=
  inferInstanceAs (Decidable (∀ m ∈ messages, ∀ m' ∈ messages, hash m = hash m' → m = m'))

theorem CollisionFree.of_apart {m m' : List Nat} {messages : List (List Nat)}
    (apart : hash m ≠ hash m') (only : ∀ x ∈ messages, x = m ∨ x = m') :
    CollisionFree messages := by
  intro x hx y hy same
  rcases only x hx with rfl | rfl
  · rcases only y hy with rfl | rfl
    · rfl
    · exact absurd same apart
  · rcases only y hy with rfl | rfl
    · exact absurd same.symm apart
    · rfl

theorem bigEndian_lt (n v : Nat) : ∀ b ∈ bigEndian n v, b < 256 := by
  induction n generalizing v with
  | zero => simp [bigEndian]
  | succ n ih =>
    intro b hb
    rcases List.mem_append.mp hb with hb | hb
    · exact ih (v / 256) b hb
    · rw [List.mem_singleton.mp hb]
      exact Nat.mod_lt v (by decide)

theorem hash_lt (m : List Nat) : ∀ b ∈ hash m, b < 256 := by
  intro b hb
  obtain ⟨w, _, hw⟩ := List.mem_flatMap.mp hb
  exact bigEndian_lt 4 w.toNat b hw

theorem eq_of_hexOf_eq {texts : List String} (free : CollisionFree (texts.map Utf8.encode))
    {s t : String} (hs : s ∈ texts) (ht : t ∈ texts) (h : hexOf s = hexOf t) : s = t := by
  have digits := String.ofList_injective h
  have hashes := Hexadecimal.flatMap_byteDigits_injective (hash_lt _) (hash_lt _) digits
  have bytes := free _ (List.mem_map_of_mem hs) _ (List.mem_map_of_mem ht) hashes
  exact Utf8.encode_injective bytes

end Sha256

end CloudThreat

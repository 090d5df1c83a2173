import CaptureSieve.ByteOrder
import Mathlib.Tactic.Common

/-!
Words inside longer byte strings: behind other bytes, in a part of the string, and with one byte changed.
-/

namespace CaptureSieve

lemma byteAt_append (a b : List UInt8) (i : Nat) : byteAt (a ++ b) (a.length + i) = byteAt b i := by
  simp [byteAt, List.getD_eq_getElem?_getD, List.getElem?_append_right]

lemma byteAt_take {i k : Nat} (h : i < k) (bytes : List UInt8) : byteAt (bytes.take k) i = byteAt bytes i := by
  simp only [byteAt, List.getD_eq_getElem?_getD, List.getElem?_take_of_lt h]

lemma byteAt_drop (bytes : List UInt8) (k i : Nat) : byteAt (bytes.drop k) i = byteAt bytes (k + i) := by
  simp [byteAt]

lemma byteAt_set_of_ne {i j : Nat} (h : i ≠ j) (bytes : List UInt8) (b : UInt8) :
    byteAt (bytes.set i b) j = byteAt bytes j := by
  rw [byteAt, byteAt, List.getD_eq_getElem?_getD, List.getD_eq_getElem?_getD, List.getElem?_set_ne h]

namespace ByteOrder

lemma word16_append (o : ByteOrder) (a b : List UInt8) (i : Nat) :
    o.word16 (a ++ b) (a.length + i) = o.word16 b i := by
  simp only [word16, Nat.add_assoc, byteAt_append]

lemma word32_append (o : ByteOrder) (a b : List UInt8) (i : Nat) :
    o.word32 (a ++ b) (a.length + i) = o.word32 b i := by
  simp only [word32, Nat.add_assoc, word16_append]

lemma word32_between (o : ByteOrder) {n : Nat} (h : n < 4294967296) {a : List UInt8} {i : Nat} (ha : a.length = i)
    (rest : List UInt8) : o.word32 (a ++ (o.bytes32 n ++ rest)) i = n := by
  subst ha
  rw [← Nat.add_zero a.length, word32_append, word32_bytes32 o h]

section Behind

variable (o o' : ByteOrder) (n i : Nat) (rest : List UInt8)

lemma word16_behind {a : List UInt8} {k : Nat} (ha : a.length = k) : o.word16 (a ++ rest) (i + k) = o.word16 rest i := by
  rw [← ha, Nat.add_comm, word16_append]

lemma word32_behind {a : List UInt8} {k : Nat} (ha : a.length = k) : o.word32 (a ++ rest) (i + k) = o.word32 rest i := by
  rw [← ha, Nat.add_comm, word32_append]

@[simp] lemma word32_behind_bytes32 : o.word32 (o'.bytes32 n ++ rest) (i + 4) = o.word32 rest i :=
  o.word32_behind i rest (o'.length_bytes32 n)

@[simp] lemma word32_behind_bytes16 : o.word32 (o'.bytes16 n ++ rest) (i + 2) = o.word32 rest i :=
  o.word32_behind i rest (o'.length_bytes16 n)

@[simp] lemma word16_behind_bytes32 : o.word16 (o'.bytes32 n ++ rest) (i + 4) = o.word16 rest i :=
  o.word16_behind i rest (o'.length_bytes32 n)

@[simp] lemma word16_behind_bytes16 : o.word16 (o'.bytes16 n ++ rest) (i + 2) = o.word16 rest i :=
  o.word16_behind i rest (o'.length_bytes16 n)

@[simp] lemma drop_behind_bytes32 : (o'.bytes32 n ++ rest).drop (i + 4) = rest.drop i := by
  rw [Nat.add_comm, ← List.drop_drop, List.drop_left' (o'.length_bytes32 n)]

end Behind

lemma word16_take (o : ByteOrder) {i k : Nat} (h : i + 2 ≤ k) (bytes : List UInt8) :
    o.word16 (bytes.take k) i = o.word16 bytes i := by
  simp only [word16, byteAt_take (Nat.lt_of_lt_of_le (Nat.lt_succ_self (i + 1)) h),
    byteAt_take (Nat.lt_of_lt_of_le (Nat.lt_add_of_pos_right (by decide)) h)]

lemma word32_take (o : ByteOrder) {i k : Nat} (h : i + 4 ≤ k) (bytes : List UInt8) :
    o.word32 (bytes.take k) i = o.word32 bytes i := by
  have hlow : i + 2 ≤ k := by omega
  simp only [word32, o.word16_take h, o.word16_take hlow]

lemma word16_drop (o : ByteOrder) (bytes : List UInt8) (k i : Nat) :
    o.word16 (bytes.drop k) i = o.word16 bytes (k + i) := by
  simp only [word16, byteAt_drop, Nat.add_assoc]

lemma word32_drop (o : ByteOrder) (bytes : List UInt8) (i : Nat) : o.word32 (bytes.drop i) 0 = o.word32 bytes i := by
  simp only [word32, word16_drop, Nat.add_zero, Nat.zero_add]

lemma bytes32_of_four (o : ByteOrder) (a b c d : UInt8) (rest : List UInt8) :
    o.bytes32 (o.word32 (a :: b :: c :: d :: rest) 0) = [a, b, c, d] := by
  have ha := a.toNat_lt
  have hb := b.toNat_lt
  have hc := c.toNat_lt
  have hd := d.toNat_lt
  cases o <;>
  · simp only [bytes32, bytes16, word32, word16, join, byteAt, List.getD_cons_zero, List.getD_cons_succ,
      List.cons_append, List.nil_append, List.cons.injEq, ← UInt8.toNat_inj, UInt8.toNat_ofNat']
    refine ⟨?_, ?_, ?_, ?_, trivial⟩ <;> omega

lemma bytes32_word32 (o : ByteOrder) {bytes : List UInt8} {i : Nat} (h : i + 4 ≤ bytes.length) :
    o.bytes32 (o.word32 bytes i) = (bytes.drop i).take 4 := by
  rw [← word32_drop]
  have hlength : 4 ≤ (bytes.drop i).length := by
    rw [List.length_drop]
    omega
  match bytes.drop i, hlength with
  | a :: b :: c :: d :: rest, _ => exact o.bytes32_of_four a b c d rest

lemma word16_set_of_lt (o : ByteOrder) {i j : Nat} (h : j + 2 ≤ i) (bytes : List UInt8) (b : UInt8) :
    o.word16 (bytes.set i b) j = o.word16 bytes j := by
  rw [word16, word16, byteAt_set_of_ne (by omega), byteAt_set_of_ne (by omega)]

end ByteOrder

end CaptureSieve

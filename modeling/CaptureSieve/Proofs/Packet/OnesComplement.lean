import CaptureSieve.Packet.Checksum
import Mathlib.Tactic.Common

/-!
The checksum of RFC 1071, word by word. Here every addition brings its carry around at once, and the words are those of
one byte string, filled up with a zero if it is odd.
-/

namespace CaptureSieve.Checksum

def words : List UInt8 → List Nat
  | [] => []
  | [high] => [256 * high.toNat]
  | high :: low :: rest => (256 * high.toNat + low.toNat) :: words rest

def onesAdd (a b : Nat) : Nat := if a + b < 65536 then a + b else a + b - 65535

def ofWords (ws : List Nat) : Nat := 65535 - ws.foldl onesAdd 0

def ofBytes (bytes : List UInt8) : Nat := ofWords (words bytes)

lemma carryAround_of_pos {total : Nat} (h : 0 < total) : carryAround total = (total - 1) % 65535 + 1 :=
  if_neg (Nat.ne_of_gt h)

lemma onesAdd_carryAround (total : Nat) {word : Nat} (h : word < 65536) :
    onesAdd (carryAround total) word = carryAround (total + word) := by
  rcases Nat.eq_zero_or_pos total with rfl | htotal
  · rcases Nat.eq_zero_or_pos word with rfl | hword
    · rfl
    · rw [Nat.zero_add, carryAround_of_pos hword, Nat.mod_eq_of_lt (by omega), Nat.sub_add_cancel hword]
      simp [onesAdd, carryAround, h]
  · rw [carryAround_of_pos htotal, carryAround_of_pos (Nat.add_pos_left htotal word), onesAdd]
    split <;> omega

lemma foldl_words (bytes : List UInt8) (total : Nat) :
    (words bytes).foldl onesAdd (carryAround total) = carryAround (addWords total bytes) := by
  fun_induction addWords total bytes with
  | case1 total => rfl
  | case2 total high =>
    have hword : 256 * high.toNat < 65536 := by have := high.toNat_lt; omega
    rw [words, List.foldl_cons, List.foldl_nil, onesAdd_carryAround total hword]
  | case3 total high low rest ih =>
    have hword : 256 * high.toNat + low.toNat < 65536 := by
      have := high.toNat_lt
      have := low.toNat_lt
      omega
    rw [words, List.foldl_cons, onesAdd_carryAround total hword, ih]

lemma addWords_append {front : List UInt8} (h : 2 ∣ front.length) (total : Nat) (back : List UInt8) :
    addWords total (front ++ back) = addWords (addWords total front) back := by
  fun_induction addWords total front with
  | case1 total => rfl
  | case2 total high =>
    rw [List.length_singleton] at h
    omega
  | case3 total high low rest ih =>
    simp only [List.length_cons] at h
    rw [← ih (by omega)]
    rfl

lemma foldl_addWords {parts : List (List UInt8)} (h : ∀ part ∈ parts.dropLast, 2 ∣ part.length) (total : Nat) :
    parts.foldl addWords total = addWords total parts.flatten := by
  induction parts generalizing total with
  | nil => rfl
  | cons part rest ih =>
    rw [List.foldl_cons, List.flatten_cons]
    cases rest with
    | nil => simp
    | cons next rest =>
      obtain ⟨hpart, hrest⟩ := List.forall_mem_cons.mp h
      rw [ih hrest, addWords_append hpart]

lemma internet_of_even {parts : List (List UInt8)} (h : ∀ part ∈ parts.dropLast, 2 ∣ part.length) :
    internet parts = ofBytes parts.flatten := by
  have hfold := foldl_words parts.flatten 0
  rw [internet, foldl_addWords h, ← hfold]
  rfl

lemma internet_singleton (bytes : List UInt8) : internet [bytes] = ofBytes bytes := by
  rw [internet_of_even (by simp), List.flatten_singleton]

lemma internet_pair {front : List UInt8} (h : 2 ∣ front.length) (back : List UInt8) :
    internet [front, back] = ofBytes (front ++ back) := by
  rw [internet_of_even (by simpa using h)]
  simp

lemma addWords_add (a b : Nat) (bytes : List UInt8) : addWords (a + b) bytes = a + addWords b bytes := by
  fun_induction addWords b bytes with
  | case1 b => rfl
  | case2 b high => rw [addWords, Nat.add_assoc]
  | case3 b high low rest ih => rw [addWords, Nat.add_assoc, ih]

lemma addWords_eq (total : Nat) (bytes : List UInt8) : addWords total bytes = total + addWords 0 bytes :=
  addWords_add total 0 bytes

lemma addWords_append_odd {front : List UInt8} (h : ¬ 2 ∣ front.length) (total : Nat) (back : List UInt8) :
    addWords total (front ++ back) = addWords (addWords total front) (0 :: back) := by
  fun_induction addWords total front with
  | case1 total => simp at h
  | case2 total high =>
    cases back with
    | nil => rfl
    | cons low rest =>
      have hword : total + 256 * high.toNat + (256 * (0 : UInt8).toNat + low.toNat) =
          total + (256 * high.toNat + low.toNat) := by
        rw [UInt8.toNat_zero]
        omega
      rw [List.singleton_append, addWords, addWords, hword]
  | case3 total high low rest ih =>
    simp only [List.length_cons] at h
    rw [← ih (by omega)]
    rfl

lemma sum_append (front back : List UInt8) : addWords 0 (front ++ back) =
    addWords 0 front + addWords 0 (if 2 ∣ front.length then back else 0 :: back) := by
  split
  · next heven => rw [addWords_append heven, addWords_eq]
  · next hodd => rw [addWords_append_odd hodd, addWords_eq]

lemma addWords_of_zeros {bytes : List UInt8} (h : ∀ b ∈ bytes, b = 0) (total : Nat) : addWords total bytes = total := by
  fun_induction addWords total bytes with
  | case1 total => rfl
  | case2 total high =>
    obtain rfl := h high (List.mem_singleton_self high)
    rfl
  | case3 total high low rest ih =>
    obtain ⟨rfl, hlater⟩ := List.forall_mem_cons.mp h
    obtain ⟨rfl, hrest⟩ := List.forall_mem_cons.mp hlater
    exact ih hrest

lemma ofBytes_eq_zero_iff (bytes : List UInt8) :
    ofBytes bytes = 0 ↔ 0 < addWords 0 bytes ∧ 65535 ∣ addWords 0 bytes := by
  have hfold : (words bytes).foldl onesAdd 0 = carryAround (addWords 0 bytes) := foldl_words bytes 0
  rw [ofBytes, ofWords, hfold, carryAround]
  split <;> omega

def weight (i : Nat) : Nat := if 2 ∣ i then 256 else 1

lemma weight_add_two (i : Nat) : weight (i + 2) = weight i :=
  if_congr (Nat.dvd_add_left (Nat.dvd_refl 2)) rfl rfl

lemma addWords_set (b : UInt8) (bytes : List UInt8) (total : Nat) {i : Nat} (hi : i < bytes.length) :
    addWords total (bytes.set i b) + weight i * bytes[i].toNat = addWords total bytes + weight i * b.toNat := by
  fun_induction addWords total bytes generalizing i with
  | case1 total => simp at hi
  | case2 total high =>
    obtain rfl : i = 0 := by simpa using hi
    simp only [List.set_cons_zero, addWords, List.getElem_cons_zero, weight, Nat.dvd_zero, if_true]
    omega
  | case3 total high low rest ih =>
    match i, hi with
    | 0, _ =>
      rw [List.set_cons_zero, addWords, addWords_eq, addWords_eq (total + _)]
      simp only [List.getElem_cons_zero, weight, Nat.dvd_zero, if_true]
      omega
    | 1, _ =>
      rw [List.set_cons_succ, List.set_cons_zero, addWords, addWords_eq, addWords_eq (total + _)]
      simp only [List.getElem_cons_succ, List.getElem_cons_zero, weight, Nat.dvd_one, Nat.succ_ne_self, if_false]
      omega
    | i + 2, hi =>
      simp only [List.length_cons] at hi
      rw [List.set_cons_succ, List.set_cons_succ, addWords, weight_add_two]
      exact ih (by omega)

/-- At most one value of a byte makes the sum right: two of them differ by less than the sum's modulus in either place. -/
lemma ofBytes_set_ne_zero {bytes : List UInt8} {i : Nat} {b : UInt8} (hi : i < bytes.length) (hb : bytes[i]? ≠ some b)
    (h : ofBytes bytes = 0) : ofBytes (bytes.set i b) ≠ 0 := by
  intro h'
  obtain ⟨-, hsum⟩ := (ofBytes_eq_zero_iff _).mp h
  obtain ⟨-, hsum'⟩ := (ofBytes_eq_zero_iff _).mp h'
  have hset := addWords_set b bytes 0 hi
  have hold := bytes[i].toNat_lt
  have hnew := b.toNat_lt
  have hsame : bytes[i].toNat = b.toNat := by
    rw [weight] at hset
    split at hset <;> omega
  rw [List.getElem?_eq_getElem hi, UInt8.toNat_inj.mp hsame] at hb
  exact hb rfl

end CaptureSieve.Checksum

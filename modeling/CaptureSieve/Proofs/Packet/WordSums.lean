import CaptureSieve.Proofs.Packet.OnesComplement

/-!
The checksum of a byte string does not depend on the parts that it is handed over in nor on the byte order in which its
words are loaded. A string that holds its own checksum has the checksum zero.
-/

namespace CaptureSieve.Checksum

def WholeWords (parts : List (List UInt8)) : Prop := ∀ part ∈ parts.dropLast, 2 ∣ part.length

def plainSum (bytes : List UInt8) : Nat := (words bytes).foldl (· + ·) 0

-- What a big-endian word is in a machine of byte order `o`, which is also the way back.
def swapped (o : ByteOrder) (n : Nat) : Nat := o.join 256 (n / 256) (n % 256)

def loaded (o : ByteOrder) : List UInt8 → List Nat
  | [] => []
  | [first] => [o.join 256 first.toNat 0]
  | first :: second :: rest => o.join 256 first.toNat second.toNat :: loaded o rest

def withWord (i n : Nat) (bytes : List UInt8) : List UInt8 :=
  (bytes.set i (UInt8.ofNat (n / 256))).set (i + 1) (UInt8.ofNat n)

lemma words_lt (bytes : List UInt8) : ∀ word ∈ words bytes, word < 65536 := by
  fun_induction words bytes with
  | case1 => simp
  | case2 high =>
    have := high.toNat_lt
    simp only [List.mem_singleton, forall_eq]
    omega
  | case3 high low rest ih =>
    have := high.toNat_lt
    have := low.toNat_lt
    refine List.forall_mem_cons.mpr ⟨?_, ih⟩
    omega

lemma plainSum_eq (bytes : List UInt8) : plainSum bytes = addWords 0 bytes := by
  have hfold : ∀ total, (words bytes).foldl (· + ·) total = addWords total bytes := by
    fun_induction words bytes with
    | case1 => exact fun _ => rfl
    | case2 high => exact fun _ => rfl
    | case3 high low rest ih => exact fun total => ih _
  exact hfold 0

lemma addWords_eq_self_iff (total : Nat) (bytes : List UInt8) : addWords total bytes = total ↔ ∀ b ∈ bytes, b = 0 := by
  fun_induction addWords total bytes with
  | case1 total => simp
  | case2 total high =>
    rw [List.forall_mem_singleton, ← UInt8.toNat_inj, UInt8.toNat_zero]
    omega
  | case3 total high low rest ih =>
    rw [addWords_eq] at ih
    rw [addWords_eq, List.forall_mem_cons, List.forall_mem_cons, ← ih, ← UInt8.toNat_inj, ← UInt8.toNat_inj,
      UInt8.toNat_zero]
    omega

lemma carryAround_lt (total : Nat) : carryAround total < 65536 := by
  rw [carryAround]
  split <;> omega

lemma foldl_onesAdd (bytes : List UInt8) : (words bytes).foldl onesAdd 0 = carryAround (plainSum bytes) := by
  rw [plainSum_eq]
  exact foldl_words bytes 0

lemma ofBytes_eq (bytes : List UInt8) : ofBytes bytes = 65535 - carryAround (plainSum bytes) := by
  rw [ofBytes, ofWords, foldl_onesAdd]

section Order

variable (o : ByteOrder)

-- Swapping is multiplying by 256 modulo 65535, and neither it nor the sum makes zero of anything else.
lemma swapped_onesAdd {a b : Nat} (ha : a < 65536) (hb : b < 65536) :
    swapped o (onesAdd a b) = onesAdd (swapped o a) (swapped o b) := by
  rw [onesAdd, onesAdd]
  split_ifs with h h' h' <;> cases o <;> simp only [swapped, ByteOrder.join] at h' ⊢ <;> omega

lemma swapped_complement {n : Nat} (h : n < 65536) : swapped o (65535 - n) = 65535 - swapped o n := by
  cases o <;> simp only [swapped, ByteOrder.join] <;> omega

lemma swapped_swapped {n : Nat} (h : n < 65536) : swapped o (swapped o n) = n := by
  cases o <;> simp only [swapped, ByteOrder.join] <;> omega

lemma loaded_eq (bytes : List UInt8) : loaded o bytes = (words bytes).map (swapped o) := by
  fun_induction words bytes with
  | case1 => rfl
  | case2 high =>
    have := high.toNat_lt
    rw [loaded, List.map_singleton, swapped, Nat.mul_div_cancel_left _ (by decide), Nat.mul_mod_right]
  | case3 high low rest ih =>
    have := low.toNat_lt
    rw [loaded, List.map_cons, swapped, ih, Nat.mul_add_div (by decide), Nat.div_eq_of_lt this,
      Nat.mul_add_mod, Nat.mod_eq_of_lt this, Nat.add_zero]

lemma foldl_swapped {ws : List Nat} (hws : ∀ word ∈ ws, word < 65536) {total : Nat} (h : total < 65536) :
    (ws.map (swapped o)).foldl onesAdd (swapped o total) = swapped o (ws.foldl onesAdd total) := by
  induction ws generalizing total with
  | nil => rfl
  | cons word ws ih =>
    obtain ⟨hword, hws⟩ := List.forall_mem_cons.mp hws
    have hnext : onesAdd total word < 65536 := by
      rw [onesAdd]
      split <;> omega
    rw [List.map_cons, List.foldl_cons, List.foldl_cons, ← swapped_onesAdd o h hword]
    exact ih hws hnext

lemma swapped_ofWords (bytes : List UInt8) : swapped o (ofWords (loaded o bytes)) = ofBytes bytes := by
  have hzero : swapped o 0 = 0 := by cases o <;> rfl
  have hfold := foldl_swapped o (words_lt bytes) (show 0 < 65536 by decide)
  have hsum : (words bytes).foldl onesAdd 0 < 65536 := by
    rw [foldl_onesAdd]
    exact carryAround_lt _
  rw [hzero, ← loaded_eq] at hfold
  rw [ofWords, hfold, ← swapped_complement o hsum]
  exact swapped_swapped o (by omega)

end Order

section Filling

variable {bytes : List UInt8} {i n : Nat}

lemma plainSum_withWord (hn : n < 65536) (hi : 2 ∣ i) (hhigh : bytes[i]? = some 0) (hlow : bytes[i + 1]? = some 0) :
    plainSum (withWord i n bytes) = plainSum bytes + n := by
  obtain ⟨hlt, hhigh⟩ := List.getElem?_eq_some_iff.mp hhigh
  obtain ⟨hlt', hlow⟩ := List.getElem?_eq_some_iff.mp hlow
  have hfirst := addWords_set (UInt8.ofNat (n / 256)) bytes 0 hlt
  have hsecond := addWords_set (UInt8.ofNat n) (bytes.set i (UInt8.ofNat (n / 256))) 0
    (show i + 1 < _ by rwa [List.length_set])
  have hodd : ¬ 2 ∣ i + 1 := by omega
  rw [List.getElem_set_ne (by omega), hlow] at hsecond
  rw [hhigh] at hfirst
  simp only [weight, hi, hodd, if_true, if_false, UInt8.toNat_zero, UInt8.toNat_ofNat'] at hfirst hsecond
  rw [plainSum_eq, plainSum_eq, withWord]
  omega

lemma ofBytes_eq_zero_iff_plainSum : ofBytes bytes = 0 ↔ 0 < plainSum bytes ∧ 65535 ∣ plainSum bytes := by
  rw [ofBytes_eq_zero_iff, plainSum_eq]

lemma ofBytes_withWord_self (hi : 2 ∣ i) (hhigh : bytes[i]? = some 0) (hlow : bytes[i + 1]? = some 0) :
    ofBytes (withWord i (ofBytes bytes) bytes) = 0 := by
  have hn : ofBytes bytes < 65536 := by
    rw [ofBytes_eq]
    omega
  rw [ofBytes_eq_zero_iff_plainSum, plainSum_withWord hn hi hhigh hlow, ofBytes_eq, carryAround]
  split <;> omega

lemma ofBytes_withWord_ones (hi : 2 ∣ i) (hhigh : bytes[i]? = some 0) (hlow : bytes[i + 1]? = some 0)
    (h : ofBytes bytes = 0) : ofBytes (withWord i 65535 bytes) = 0 := by
  obtain ⟨-, hsum⟩ := ofBytes_eq_zero_iff_plainSum.mp h
  rw [ofBytes_eq_zero_iff_plainSum, plainSum_withWord (by decide) hi hhigh hlow]
  omega

end Filling

structure Attests (bytes : List UInt8) (c : Nat) : Prop where
  complement : (words bytes).foldl onesAdd 0 + c = 65535
  ofParts : ∀ parts, WholeWords parts → parts.flatten = bytes → internet parts = c
  ofOrder : ∀ o, swapped o (ofWords (loaded o bytes)) = c
  ones_iff : c = 65535 ↔ ∀ b ∈ bytes, b = 0
  zero_iff : (∃ b ∈ bytes, b ≠ 0) → (c = 0 ↔ 65535 ∣ plainSum bytes)
  filled : ∀ i, 2 ∣ i → bytes[i]? = some 0 → bytes[i + 1]? = some 0 →
    internet [withWord i c bytes] = 0 ∧ (c = 0 → internet [withWord i 65535 bytes] = 0)

lemma attests_ofBytes (bytes : List UInt8) : Attests bytes (ofBytes bytes) := by
  have hsum := carryAround_lt (plainSum bytes)
  have hzeros : plainSum bytes = 0 ↔ ∀ b ∈ bytes, b = 0 := by
    rw [plainSum_eq]
    exact addWords_eq_self_iff 0 bytes
  constructor
  · rw [foldl_onesAdd, ofBytes_eq]
    omega
  · rintro parts hparts rfl
    exact internet_of_even hparts
  · exact fun o => swapped_ofWords o bytes
  · rw [← hzeros, ofBytes_eq, carryAround]
    split <;> omega
  · rintro ⟨b, hb, hne⟩
    have hpos : 0 < plainSum bytes := Nat.pos_of_ne_zero fun h => hne (hzeros.mp h b hb)
    rw [ofBytes_eq_zero_iff_plainSum]
    exact ⟨And.right, fun h => ⟨hpos, h⟩⟩
  · intro i hi hhigh hlow
    rw [internet_singleton, internet_singleton]
    exact ⟨ofBytes_withWord_self hi hhigh hlow, ofBytes_withWord_ones hi hhigh hlow⟩

theorem internet_attests {parts : List (List UInt8)} (h : WholeWords parts) :
    Attests parts.flatten (internet parts) := by
  have hsum := internet_of_even h
  rw [hsum]
  exact attests_ofBytes _

theorem internet_attests_oddTail :
    let parts : List (List UInt8) := [[0x00, 0x01, 0xf2, 0x03], [], [0xf4, 0xf5], [0x00, 0x00, 0xf6]]
    WholeWords parts ∧ internet parts = 0x2304 ∧ Attests parts.flatten 0x2304 := by
  intro parts
  have hparts : WholeWords parts := by
    rw [WholeWords]
    decide
  have hsum : internet parts = 0x2304 := by decide
  exact ⟨hparts, hsum, hsum ▸ internet_attests hparts⟩

end CaptureSieve.Checksum

/-!
Fixed-width words inside byte strings, in either byte order. A position past the end reads as zero, so every
reader is total; callers compare sizes first.
-/

namespace CaptureSieve

def byteAt (bytes : List UInt8) (i : Nat) : Nat := (bytes.getD i 0).toNat

theorem byteAt_lt (bytes : List UInt8) (i : Nat) : byteAt bytes i < 256 := (bytes.getD i 0).toNat_lt

inductive ByteOrder where
  | little
  | big
  deriving DecidableEq, Repr

namespace ByteOrder

def join (base : Nat) : ByteOrder → Nat → Nat → Nat
  | little, first, second => first + base * second
  | big, first, second => base * first + second

theorem join_lt {base first second : Nat} (o : ByteOrder) (hf : first < base) (hs : second < base) :
    o.join base first second < base * base := by
  have h : ∀ x y, x < base → y < base → base * x + y < base * base := fun x y hx hy =>
    calc base * x + y < base * x + base := Nat.add_lt_add_left hy _
      _ = base * (x + 1) := by rw [Nat.mul_add, Nat.mul_one]
      _ ≤ base * base := Nat.mul_le_mul_left _ hx
  cases o with
  | little => simpa only [join, Nat.add_comm] using h second first hs hf
  | big => exact h first second hf hs

def word16 (o : ByteOrder) (bytes : List UInt8) (i : Nat) : Nat :=
  o.join 256 (byteAt bytes i) (byteAt bytes (i + 1))

def word32 (o : ByteOrder) (bytes : List UInt8) (i : Nat) : Nat :=
  o.join 65536 (o.word16 bytes i) (o.word16 bytes (i + 2))

theorem word16_lt (o : ByteOrder) (bytes : List UInt8) (i : Nat) : o.word16 bytes i < 65536 :=
  o.join_lt (byteAt_lt bytes i) (byteAt_lt bytes (i + 1))

theorem word32_lt (o : ByteOrder) (bytes : List UInt8) (i : Nat) : o.word32 bytes i < 4294967296 :=
  o.join_lt (o.word16_lt bytes i) (o.word16_lt bytes (i + 2))

def bytes16 (o : ByteOrder) (n : Nat) : List UInt8 :=
  match o with
  | little => [UInt8.ofNat n, UInt8.ofNat (n / 256)]
  | big => [UInt8.ofNat (n / 256), UInt8.ofNat n]

def bytes32 (o : ByteOrder) (n : Nat) : List UInt8 :=
  match o with
  | little => little.bytes16 n ++ little.bytes16 (n / 65536)
  | big => big.bytes16 (n / 65536) ++ big.bytes16 n

@[simp] theorem length_bytes16 (o : ByteOrder) (n : Nat) : (o.bytes16 n).length = 2 := by
  cases o <;> rfl

@[simp] theorem length_bytes32 (o : ByteOrder) (n : Nat) : (o.bytes32 n).length = 4 := by
  cases o <;> rfl

theorem word16_bytes16 (o : ByteOrder) {n : Nat} (h : n < 65536) (rest : List UInt8) :
    o.word16 (o.bytes16 n ++ rest) 0 = n := by
  cases o <;> simp [word16, bytes16, byteAt, join] <;> omega

theorem word32_bytes32 (o : ByteOrder) {n : Nat} (h : n < 4294967296) (rest : List UInt8) :
    o.word32 (o.bytes32 n ++ rest) 0 = n := by
  cases o <;> simp [word32, bytes32, word16, bytes16, byteAt, join] <;> omega

end ByteOrder

end CaptureSieve

import CaptureSieve.Filter.Expr

/-!
Scanners for the words, numbers and addresses of a filter. A scanner takes characters from the front and gives
the rest; `Keeps` says that the rest is no longer than the input, `Advances` that it is shorter.
-/

namespace CaptureSieve.Filter

abbrev Scanner (α : Type) := List Char → Option (α × List Char)

namespace Scanner

variable {α β : Type}

instance : Monad Scanner where
  pure a s := some (a, s)
  bind p f s :=
    match p s with
    | some (a, rest) => f a rest
    | none => none

instance : OrElse (Scanner α) where
  orElse p q s :=
    match p s with
    | some found => some found
    | none => q () s

def fail : Scanner α := fun _ => none

def Keeps (p : Scanner α) : Prop := ∀ s a rest, p s = some (a, rest) → rest.length ≤ s.length

def Advances (p : Scanner α) : Prop := ∀ s a rest, p s = some (a, rest) → rest.length < s.length

theorem Advances.keeps {p : Scanner α} (h : p.Advances) : p.Keeps :=
  fun s a rest hs => Nat.le_of_lt (h s a rest hs)

theorem bind_eq_some_iff {p : Scanner α} {f : α → Scanner β} {s rest : List Char} {b : β} :
    (p >>= f) s = some (b, rest) ↔ ∃ a mid, p s = some (a, mid) ∧ f a mid = some (b, rest) := by
  show (match p s with | some (a, rest) => f a rest | none => none) = some (b, rest) ↔ _
  cases h : p s with
  | none => simp
  | some found =>
    obtain ⟨a, mid⟩ := found
    exact ⟨fun hb => ⟨a, mid, rfl, hb⟩, fun ⟨_, _, he, hb⟩ => by cases he; exact hb⟩

theorem orElse_eq_some_iff {p q : Scanner α} {s : List Char} {found : α × List Char} :
    (p <|> q) s = some found ↔ p s = some found ∨ (p s = none ∧ q s = some found) := by
  show (match p s with | some found => some found | none => q s) = some found ↔ _
  cases h : p s <;> simp

theorem keeps_pure (a : α) : Keeps (pure a) := by
  intro s b rest h
  obtain ⟨-, rfl⟩ := Prod.mk.inj (Option.some.inj h)
  exact Nat.le_refl _

theorem keeps_fail : Keeps (fail : Scanner α) := by
  intro s a rest h
  simp [fail] at h

theorem Keeps.bind {p : Scanner α} {f : α → Scanner β} (hp : p.Keeps) (hf : ∀ a, (f a).Keeps) :
    Keeps (p >>= f) := by
  intro s b rest h
  obtain ⟨a, mid, ha, hb⟩ := bind_eq_some_iff.1 h
  exact Nat.le_trans (hf a mid b rest hb) (hp s a mid ha)

theorem Advances.bind {p : Scanner α} {f : α → Scanner β} (hp : p.Advances) (hf : ∀ a, (f a).Keeps) :
    Advances (p >>= f) := by
  intro s b rest h
  obtain ⟨a, mid, ha, hb⟩ := bind_eq_some_iff.1 h
  exact Nat.lt_of_le_of_lt (hf a mid b rest hb) (hp s a mid ha)

theorem Keeps.bind_advances {p : Scanner α} {f : α → Scanner β} (hp : p.Keeps) (hf : ∀ a, (f a).Advances) :
    Advances (p >>= f) := by
  intro s b rest h
  obtain ⟨a, mid, ha, hb⟩ := bind_eq_some_iff.1 h
  exact Nat.lt_of_lt_of_le (hf a mid b rest hb) (hp s a mid ha)

theorem Keeps.orElse {p q : Scanner α} (hp : p.Keeps) (hq : q.Keeps) : Keeps (p <|> q) := by
  intro s a rest h
  rcases orElse_eq_some_iff.1 h with h | ⟨-, h⟩
  · exact hp s a rest h
  · exact hq s a rest h

theorem Advances.orElse {p q : Scanner α} (hp : p.Advances) (hq : q.Advances) : Advances (p <|> q) := by
  intro s a rest h
  rcases orElse_eq_some_iff.1 h with h | ⟨-, h⟩
  · exact hp s a rest h
  · exact hq s a rest h

def isBlank (c : Char) : Bool := c == ' ' || c == '\t' || c == '\r' || c == '\n'

def blanks : Scanner Unit := fun s => some ((), s.dropWhile isBlank)

def char (c : Char) : Scanner Unit := fun s =>
  match s with
  | head :: rest => if head = c then some ((), rest) else none
  | [] => none

/-- A word in any case of its letters. It may run on into the next word. -/
def word : List Char → Scanner Unit
  | [], s => some ((), s)
  | c :: cs, head :: rest => if head.toLower = c then word cs rest else none
  | _ :: _, [] => none

def blanks1 : Scanner Unit := fun s =>
  match s with
  | head :: rest => if isBlank head then some ((), rest.dropWhile isBlank) else none
  | [] => none

def keyword (w : List Char) : Scanner Unit := do
  word w
  blanks1

def digits : Scanner (List Char) := fun s =>
  match s.takeWhile Char.isDigit with
  | [] => none
  | found => some (found, s.dropWhile Char.isDigit)

def valueOf (digits : List Char) : Nat := digits.foldl (fun n c => 10 * n + (c.toNat - 48)) 0

def number (limit : Nat) : Scanner Nat := do
  let found ← digits
  if valueOf found < limit then pure (valueOf found) else fail

def address : Scanner Ipv4Address := do
  let a ← digits
  char '.'
  let b ← digits
  char '.'
  let c ← digits
  char '.'
  let d ← digits
  match Ipv4Address.octet? a, Ipv4Address.octet? b, Ipv4Address.octet? c, Ipv4Address.octet? d with
  | some a, some b, some c, some d => pure (.ofOctets a b c d)
  | _, _, _, _ => fail

theorem length_dropWhile_le (p : Char → Bool) (s : List Char) : (s.dropWhile p).length ≤ s.length :=
  (List.dropWhile_sublist p).length_le

theorem keeps_blanks : blanks.Keeps := by
  intro s a rest h
  obtain ⟨-, rfl⟩ := Prod.mk.inj (Option.some.inj h)
  exact length_dropWhile_le _ _

theorem advances_char (c : Char) : (char c).Advances := by
  intro s a rest h
  cases s with
  | nil => simp [char] at h
  | cons head tail =>
    by_cases hc : head = c <;> simp [char, hc] at h
    simp [h]

theorem keeps_word (w : List Char) : (word w).Keeps := by
  intro s a rest h
  induction w generalizing s with
  | nil => simp_all [word]
  | cons c cs ih =>
    cases s with
    | nil => simp [word] at h
    | cons head tail =>
      simp only [word] at h
      split at h
      · exact Nat.le_trans (ih tail h) (by simp)
      · simp at h

theorem advances_word (c : Char) (cs : List Char) : (word (c :: cs)).Advances := by
  intro s a rest h
  cases s with
  | nil => simp [word] at h
  | cons head tail =>
    simp only [word] at h
    split at h
    · exact Nat.lt_succ_of_le (keeps_word cs tail a rest h)
    · simp at h

theorem advances_blanks1 : blanks1.Advances := by
  intro s a rest h
  cases s with
  | nil => simp [blanks1] at h
  | cons head tail =>
    simp only [blanks1] at h
    split at h
    · obtain ⟨-, rfl⟩ := Prod.mk.inj (Option.some.inj h)
      exact Nat.lt_succ_of_le (length_dropWhile_le _ _)
    · simp at h

theorem advances_keyword (w : List Char) : (keyword w).Advances :=
  (keeps_word w).bind_advances fun _ => advances_blanks1

theorem advances_digits : digits.Advances := by
  intro s a rest h
  cases s with
  | nil => simp [digits] at h
  | cons head tail =>
    by_cases hd : head.isDigit = true
    · simp only [digits, List.takeWhile_cons, hd, if_true, List.dropWhile_cons] at h
      obtain ⟨-, rfl⟩ := Prod.mk.inj (Option.some.inj h)
      exact Nat.lt_succ_of_le (length_dropWhile_le _ _)
    · simp [digits, hd] at h

theorem advances_number (limit : Nat) : (number limit).Advances :=
  advances_digits.bind fun found => by
    split
    · exact keeps_pure _
    · exact keeps_fail

theorem advances_address : address.Advances :=
  advances_digits.bind fun _ => (advances_char _).keeps.bind fun _ =>
  advances_digits.keeps.bind fun _ => (advances_char _).keeps.bind fun _ =>
  advances_digits.keeps.bind fun _ => (advances_char _).keeps.bind fun _ =>
  advances_digits.keeps.bind fun _ => by
    split
    · exact keeps_pure _
    · exact keeps_fail

end Scanner

end CaptureSieve.Filter

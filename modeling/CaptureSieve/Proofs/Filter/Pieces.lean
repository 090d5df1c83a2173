import CaptureSieve.Filter.Parser
import Mathlib

/-!
The pieces that filters are written with: blanks, words in any case of their letters, numbers and addresses. Its scanner
reads each back from the front of a text, unless the text goes on with more of the same.
-/

namespace CaptureSieve.Filter

open Scanner

def Clear (p : Char → Bool) (s : List Char) : Prop := ∀ c ∈ s.head?, p c = false

abbrev Apart (v w : List Char) : Prop := ¬ v <+: w ∧ ¬ w <+: v

def opening (s : List Char) : Option Char := s.head?.map Char.toLower

section Characters

variable {c d : Char}

lemma toLower_of_not_alpha (h : c.isAlpha = false) : c.toLower = c :=
  Char.toLower_eq_of_not_isUpper (Bool.eq_false_iff.mp (Bool.or_eq_false_iff.mp h).1)

lemma eq_of_toLower (hd : d.isAlpha = false) (h : c.toLower = d) : c = d := by
  have hc : c.isAlpha = false := by rw [← Char.isAlpha_toLower_eq_isAlpha, h, hd]
  rw [← h, toLower_of_not_alpha hc]

lemma toLower_of_blank (h : isBlank c = true) : c.toLower = c := by
  simp only [isBlank, Bool.or_eq_true, beq_iff_eq] at h
  rcases h with ((rfl | rfl) | rfl) | rfl <;> rfl

lemma toLower_of_digit (h : c.isDigit = true) : c.toLower = c := by
  apply Char.toLower_eq_of_not_isUpper
  simp [Char.isDigit, Char.isUpper, UInt32.le_iff_toNat_le] at h ⊢
  omega

lemma not_blank_of_digit (h : c.isDigit = true) : isBlank c = false := by
  cases hblank : isBlank c with
  | false => rfl
  | true =>
    simp only [isBlank, Bool.or_eq_true, beq_iff_eq] at hblank
    rcases hblank with ((rfl | rfl) | rfl) | rfl <;> exact absurd h (by decide)

end Characters

section Classes

variable {p : Char → Bool} {r s front back : List Char}

lemma clear_cons {c : Char} (h : p c = false) (s : List Char) : Clear p (c :: s) := by simpa [Clear] using h

lemma clear_dropWhile (p : Char → Bool) (s : List Char) : Clear p (s.dropWhile p) := by
  intro c hc
  have hstop := List.head?_dropWhile_not p s
  rw [Option.mem_def.mp hc] at hstop
  exact hstop

lemma takeWhile_of_clear (h : Clear p s) : s.takeWhile p = [] := by
  cases s with
  | nil => rfl
  | cons c s => rw [List.takeWhile_cons_of_neg (by simp [h c rfl])]

lemma dropWhile_of_clear (h : Clear p s) : s.dropWhile p = s := by
  cases s with
  | nil => rfl
  | cons c s => rw [List.dropWhile_cons_of_neg (by simp [h c rfl])]

lemma takeWhile_append (hfront : ∀ c ∈ front, p c = true) (hs : Clear p s) : (front ++ s).takeWhile p = front := by
  rw [List.takeWhile_append_of_pos hfront, takeWhile_of_clear hs, List.append_nil]

lemma dropWhile_append (hfront : ∀ c ∈ front, p c = true) (hs : Clear p s) : (front ++ s).dropWhile p = s := by
  rw [List.dropWhile_append_of_pos hfront, dropWhile_of_clear hs]

lemma span_unique (hfront : ∀ c ∈ front, p c = true) (hback : ∀ c ∈ back, p c = true) (hr : Clear p r)
    (hs : Clear p s) (h : front ++ r = back ++ s) : front = back ∧ r = s := by
  have htake := congrArg (List.takeWhile p) h
  have hdrop := congrArg (List.dropWhile p) h
  rw [takeWhile_append hfront hr, takeWhile_append hback hs] at htake
  rw [dropWhile_append hfront hr, dropWhile_append hback hs] at hdrop
  exact ⟨htake, hdrop⟩

end Classes

section Opening

variable {s : List Char} {c : Char}

lemma clear_of_opening {p : Char → Bool} (hp : ∀ x, p x = true → x.toLower = x) (h : opening s = some c)
    (hc : p c = false) : Clear p s := by
  intro x hx
  rw [opening, Option.mem_def.mp hx, Option.map_some, Option.some.injEq] at h
  cases hclass : p x with
  | false => rfl
  | true => rw [← h, hp x hclass, hclass] at hc; exact hc

lemma clear_blank_of_opening (h : opening s = some c) (hc : isBlank c = false) : Clear isBlank s :=
  clear_of_opening (fun _ => toLower_of_blank) h hc

def Opens (heads s : List Char) : Prop := ∃ c ∈ heads, opening s = some c

lemma Opens.mono {heads more : List Char} (h : Opens heads s) (hsub : heads ⊆ more) : Opens more s := by
  obtain ⟨c, hc, hopening⟩ := h
  exact ⟨c, hsub hc, hopening⟩

lemma Opens.ne {heads : List Char} (h : Opens heads s) (hc : c ∉ heads) : opening s ≠ some c := by
  obtain ⟨d, hd, hopening⟩ := h
  rw [hopening]
  exact fun heq => hc (Option.some.inj heq ▸ hd)

lemma Opens.clear {heads : List Char} {p : Char → Bool} (h : Opens heads s) (hp : ∀ x, p x = true → x.toLower = x)
    (hheads : heads.any p = false) : Clear p s := by
  obtain ⟨c, hc, hopening⟩ := h
  exact clear_of_opening hp hopening (Bool.eq_false_iff.mpr (List.any_eq_false.mp hheads c hc))

end Opening

namespace Scanner

variable {α β : Type} {p : Scanner α} {f : α → Scanner β} {s rest : List Char}

lemma bind_of_some {a : α} (h : p s = some (a, rest)) : (p >>= f) s = f a rest := by
  simp only [bind, h]

lemma bind_of_none (h : p s = none) : (p >>= f) s = none := by
  simp only [bind, h]

lemma orElse_of_some {q : Scanner α} {found : α × List Char} (h : p s = some found) : (p <|> q) s = some found :=
  orElse_eq_some_iff.mpr (.inl h)

lemma orElse_of_none {q : Scanner α} (h : p s = none) : (p <|> q) s = q s := by
  simp only [HOrElse.hOrElse, OrElse.orElse, h]

lemma pure_eq_some_iff {a b : α} : (pure a : Scanner α) s = some (b, rest) ↔ a = b ∧ s = rest := by
  show some (a, s) = some (b, rest) ↔ _
  simp

lemma scan_char (c : Char) (r : List Char) : char c (c :: r) = some ((), r) := if_pos rfl

lemma of_scan_char {c : Char} {u : Unit} (h : char c s = some (u, rest)) : s = c :: rest := by
  cases s with
  | nil => simp [char] at h
  | cons x s =>
    rw [char] at h
    split at h
    · next hx =>
      obtain ⟨-, rfl⟩ := Prod.mk.inj (Option.some.inj h)
      rw [hx]
    · simp at h

lemma char_none {c : Char} (h : opening s ≠ some c.toLower) : char c s = none := by
  cases s with
  | nil => rfl
  | cons x s => exact if_neg fun hx => h (congrArg (fun y : Char => some y.toLower) hx)

end Scanner

@[ext]
structure Blanks where
  text : List Char
  blank : ∀ c ∈ text, isBlank c = true

@[ext]
structure Gap extends Blanks where
  nonempty : text ≠ []

@[ext]
structure Spelling (word : List Char) where
  text : List Char
  spells : text.map Char.toLower = word

@[ext]
structure Keyword (word : List Char) where
  spelling : Spelling word
  gap : Gap

namespace Blanks

variable {r s : List Char}

def leading (s : List Char) : Blanks := ⟨s.takeWhile isBlank, List.all_eq_true.mp List.all_takeWhile⟩

lemma leading_append (s : List Char) : (leading s).text ++ s.dropWhile isBlank = s := List.takeWhile_append_dropWhile

lemma scan (b : Blanks) (hr : Clear isBlank r) : blanks (b.text ++ r) = some ((), r) := by
  rw [blanks, dropWhile_append b.blank hr]

lemma of_scan {u : Unit} (h : blanks s = some (u, r)) : ∃ b : Blanks, s = b.text ++ r := by
  obtain ⟨-, rfl⟩ := Prod.mk.inj (Option.some.inj h)
  exact ⟨leading s, (leading_append s).symm⟩

lemma unique {a b : Blanks} (hr : Clear isBlank r) (hs : Clear isBlank s) (h : a.text ++ r = b.text ++ s) :
    a = b ∧ r = s := by
  obtain ⟨htext, hrest⟩ := span_unique a.blank b.blank hr hs h
  exact ⟨Blanks.ext htext, hrest⟩

end Blanks

namespace Gap

variable {r s : List Char}

lemma exists_cons (g : Gap) : ∃ c cs, g.text = c :: cs ∧ isBlank c = true ∧ ∀ d ∈ cs, isBlank d = true := by
  cases htext : g.text with
  | nil => exact absurd htext g.nonempty
  | cons c cs =>
    have hblank := g.blank
    rw [htext] at hblank
    exact ⟨c, cs, rfl, List.forall_mem_cons.mp hblank⟩

lemma scan (g : Gap) (hr : Clear isBlank r) : blanks1 (g.text ++ r) = some ((), r) := by
  obtain ⟨c, cs, htext, hc, hcs⟩ := g.exists_cons
  rw [htext, List.cons_append, blanks1, if_pos hc, dropWhile_append hcs hr]

lemma of_scan {u : Unit} (h : blanks1 s = some (u, r)) : ∃ g : Gap, s = g.text ++ r := by
  cases s with
  | nil => simp [blanks1] at h
  | cons c s =>
    rw [blanks1] at h
    split at h
    · next hc =>
      obtain ⟨-, rfl⟩ := Prod.mk.inj (Option.some.inj h)
      have hblank : ∀ d ∈ c :: (Blanks.leading s).text, isBlank d = true :=
        List.forall_mem_cons.mpr ⟨hc, (Blanks.leading s).blank⟩
      exact ⟨⟨⟨c :: (Blanks.leading s).text, hblank⟩, by simp⟩, congrArg (c :: ·) (Blanks.leading_append s).symm⟩
    · simp at h

lemma clear_or_exists (s : List Char) : Clear isBlank s ∨ ∃ g : Gap, s = g.text ++ s.dropWhile isBlank := by
  by_cases hnil : (Blanks.leading s).text = []
  · left
    have hclear := clear_dropWhile isBlank s
    have hsame := Blanks.leading_append s
    rw [hnil, List.nil_append] at hsame
    rwa [hsame] at hclear
  · right
    exact ⟨⟨Blanks.leading s, hnil⟩, (Blanks.leading_append s).symm⟩

lemma scan_none (hs : Clear isBlank s) : blanks1 s = none := by
  cases s with
  | nil => rfl
  | cons c s => rw [blanks1, if_neg (by simp [hs c rfl])]

lemma unique {a b : Gap} (hr : Clear isBlank r) (hs : Clear isBlank s) (h : a.text ++ r = b.text ++ s) :
    a = b ∧ r = s := by
  obtain ⟨htext, hrest⟩ := span_unique a.blank b.blank hr hs h
  exact ⟨Gap.ext htext, hrest⟩

end Gap

namespace Spelling

variable {w : List Char} {r s : List Char}

lemma length_text (a : Spelling w) : a.text.length = w.length := by
  have h := congrArg List.length a.spells
  rwa [List.length_map] at h

lemma unique {a b : Spelling w} (h : a.text ++ r = b.text ++ s) : a = b ∧ r = s := by
  obtain ⟨htext, hrest⟩ := List.append_inj h (a.length_text.trans b.length_text.symm)
  exact ⟨Spelling.ext htext, hrest⟩

lemma opening_text {c : Char} {cs : List Char} (a : Spelling (c :: cs)) (r : List Char) :
    opening (a.text ++ r) = some c := by
  have hspells := a.spells
  cases htext : a.text with
  | nil => simp [htext] at hspells
  | cons x xs =>
    rw [htext, List.map_cons] at hspells
    exact congrArg some (List.cons.inj hspells).1

lemma scan_append (a : Spelling w) (v r : List Char) : word (w ++ v) (a.text ++ r) = word v r := by
  obtain ⟨text, spells⟩ := a
  subst spells
  induction text with
  | nil => rfl
  | cons x xs ih =>
    have hstep : word (x.toLower :: (xs.map Char.toLower ++ v)) (x :: (xs ++ r)) =
        word (xs.map Char.toLower ++ v) (xs ++ r) := by rw [word, if_pos rfl]
    exact hstep.trans ih

lemma scan (a : Spelling w) (r : List Char) : word w (a.text ++ r) = some ((), r) := by
  have h := a.scan_append [] r
  rw [List.append_nil] at h
  rw [h, word]

lemma of_scan {u : Unit} (h : word w s = some (u, r)) : ∃ a : Spelling w, s = a.text ++ r := by
  induction w generalizing s with
  | nil =>
    obtain ⟨-, rfl⟩ := Prod.mk.inj (Option.some.inj h)
    exact ⟨⟨[], rfl⟩, rfl⟩
  | cons c cs ih =>
    cases s with
    | nil => simp [word] at h
    | cons x s =>
      rw [word] at h
      split at h
      · next hx =>
        obtain ⟨a, rfl⟩ := ih h
        exact ⟨⟨x :: a.text, by rw [List.map_cons, hx, a.spells]⟩, rfl⟩
      · simp at h

lemma scan_none {c : Char} {cs : List Char} (h : opening s ≠ some c) : word (c :: cs) s = none := by
  cases s with
  | nil => rfl
  | cons x s => rw [word, if_neg fun hx => h (congrArg some hx)]

lemma scan_none_of_apart {v : List Char} (a : Spelling v) (hvw : Apart v w) (r : List Char) :
    word w (a.text ++ r) = none := by
  cases h : word w (a.text ++ r) with
  | none => rfl
  | some found =>
    obtain ⟨b, hb⟩ := of_scan h
    have hlower := congrArg (List.map Char.toLower) hb
    rw [List.map_append, List.map_append, a.spells, b.spells] at hlower
    have hv : v <+: v ++ r.map Char.toLower := List.prefix_append _ _
    have hw : w <+: v ++ r.map Char.toLower := hlower ▸ List.prefix_append _ _
    rcases List.prefix_or_prefix_of_prefix hw hv with h | h
    · exact absurd h hvw.2
    · exact absurd h hvw.1

lemma keyword_none_of_apart {v : List Char} (a : Spelling v) (hvw : Apart v w) (r : List Char) :
    keyword w (a.text ++ r) = none :=
  bind_of_none (a.scan_none_of_apart hvw r)

lemma keyword_none_of_clear (a : Spelling w) (hr : Clear isBlank r) : keyword w (a.text ++ r) = none := by
  rw [keyword, bind_of_some (a.scan r), Gap.scan_none hr]

end Spelling

def Begins (words : List (List Char)) (s : List Char) : Prop :=
  ∃ w ∈ words, ∃ (a : Spelling w) (r : List Char), s = a.text ++ r

lemma Begins.keyword_none {words : List (List Char)} {v s : List Char} (h : Begins words s)
    (hv : ∀ w ∈ words, Apart w v) : keyword v s = none := by
  obtain ⟨w, hw, a, r, rfl⟩ := h
  exact a.keyword_none_of_apart (hv w hw) r

lemma Begins.opens {words : List (List Char)} {heads s : List Char} (h : Begins words s)
    (hheads : ∀ w ∈ words, w.head?.any (· ∈ heads) = true) : Opens heads s := by
  obtain ⟨w, hw, a, r, rfl⟩ := h
  obtain ⟨c, hhead, hc⟩ := (Option.any_eq_true _ _).mp (hheads w hw)
  obtain ⟨cs, rfl⟩ := List.head?_eq_some_iff.mp hhead
  exact ⟨c, of_decide_eq_true hc, a.opening_text r⟩

namespace Keyword

variable {w : List Char} {r s : List Char}

def text (k : Keyword w) : List Char := k.spelling.text ++ k.gap.text

lemma scan (k : Keyword w) (hr : Clear isBlank r) : keyword w (k.text ++ r) = some ((), r) := by
  rw [text, List.append_assoc, keyword, bind_of_some (k.spelling.scan _), k.gap.scan hr]

lemma of_scan {u : Unit} (h : keyword w s = some (u, r)) : ∃ k : Keyword w, s = k.text ++ r := by
  obtain ⟨_, mid, hword, hgap⟩ := bind_eq_some_iff.mp h
  obtain ⟨a, rfl⟩ := Spelling.of_scan hword
  obtain ⟨g, rfl⟩ := Gap.of_scan hgap
  exact ⟨⟨a, g⟩, (List.append_assoc ..).symm⟩

lemma scan_none {c : Char} {cs : List Char} (h : opening s ≠ some c) : keyword (c :: cs) s = none :=
  bind_of_none (Spelling.scan_none h)

lemma scan_none_of_apart {v : List Char} (k : Keyword v) (hvw : Apart v w) (r : List Char) :
    keyword w (k.text ++ r) = none := by
  rw [text, List.append_assoc]
  exact k.spelling.keyword_none_of_apart hvw _

/-- The blanks behind a keyword keep it apart from the words that go on with a letter. -/
lemma scan_none_of_longer (k : Keyword w) {c : Char} (hc : isBlank c = false) (cs r : List Char) :
    keyword (w ++ c :: cs) (k.text ++ r) = none := by
  obtain ⟨b, bs, htext, hb, -⟩ := k.gap.exists_cons
  have hopening : opening (k.gap.text ++ r) ≠ some c := by
    rw [htext, List.cons_append, opening, List.head?_cons, Option.map_some, toLower_of_blank hb]
    intro heq
    obtain rfl := Option.some.inj heq
    rw [hb] at hc
    exact Bool.noConfusion hc
  rw [text, List.append_assoc]
  exact bind_of_none ((k.spelling.scan_append _ _).trans (Spelling.scan_none hopening))

lemma unique {a b : Keyword w} (hr : Clear isBlank r) (hs : Clear isBlank s) (h : a.text ++ r = b.text ++ s) :
    a = b ∧ r = s := by
  rw [text, text, List.append_assoc, List.append_assoc] at h
  obtain ⟨hspelling, hgap⟩ := Spelling.unique h
  obtain ⟨hgap, hrest⟩ := Gap.unique hr hs hgap
  exact ⟨Keyword.ext hspelling hgap, hrest⟩

lemma begins {words : List (List Char)} (k : Keyword w) (hw : w ∈ words) (r : List Char) :
    Begins words (k.text ++ r) :=
  ⟨w, hw, k.spelling, _, List.append_assoc ..⟩

lemma opening_text {c : Char} {cs : List Char} (k : Keyword (c :: cs)) (r : List Char) :
    opening (k.text ++ r) = some c := by
  rw [text, List.append_assoc]
  exact k.spelling.opening_text _

lemma clear_blank {c : Char} {cs : List Char} (k : Keyword (c :: cs)) (hc : isBlank c = false) (r : List Char) :
    Clear isBlank (k.text ++ r) :=
  clear_blank_of_opening (k.opening_text r) hc

end Keyword

inductive Operator (word sign : List Char) where
  | word (keyword : Keyword word)
  | sign (after : Blanks)

namespace Operator

variable {w sign : List Char} {r s : List Char}

def text : Operator w sign → List Char
  | .word k => k.text
  | .sign after => sign ++ after.text

def scanner (w sign : List Char) : Scanner Unit := keyword w <|> (do Scanner.word sign; blanks)

lemma word_of_sign (hsign : sign.any Char.isAlpha = false) (r : List Char) :
    Scanner.word sign (sign ++ r) = some ((), r) := by
  induction sign with
  | nil => rfl
  | cons c cs ih =>
    obtain ⟨hc, hcs⟩ := Bool.or_eq_false_iff.mp hsign
    rw [List.cons_append, Scanner.word, if_pos (toLower_of_not_alpha hc), ih hcs]

lemma sign_of_word (hsign : sign.any Char.isAlpha = false) {u : Unit}
    (h : Scanner.word sign s = some (u, r)) : s = sign ++ r := by
  induction sign generalizing s with
  | nil =>
    obtain ⟨-, rfl⟩ := Prod.mk.inj (Option.some.inj h)
    rfl
  | cons c cs ih =>
    obtain ⟨hc, hcs⟩ := Bool.or_eq_false_iff.mp hsign
    cases s with
    | nil => simp [Scanner.word] at h
    | cons x s =>
      rw [Scanner.word] at h
      split at h
      · next hx => rw [eq_of_toLower hc hx, ih hcs h, List.cons_append]
      · simp at h

/-- A sign is told from its word by the first character. -/
structure Distinct (w sign : List Char) : Prop where
  plain : sign.any Char.isAlpha = false
  heads : ∃ c cs d ds, w = c :: cs ∧ sign = d :: ds ∧ c ≠ d

lemma opening_text (h : Distinct w sign) (o : Operator w sign) (r : List Char) :
    opening (o.text ++ r) = w.head? ∧ (∃ k, o = .word k) ∨ opening (o.text ++ r) = sign.head? ∧ ∃ b, o = .sign b := by
  obtain ⟨hplain, c, cs, d, ds, rfl, rfl, hne⟩ := h
  cases o with
  | word k => exact .inl ⟨k.opening_text r, k, rfl⟩
  | sign b =>
    have hd := toLower_of_not_alpha (Bool.or_eq_false_iff.mp hplain).1
    exact .inr ⟨congrArg some hd, b, rfl⟩

lemma scan (h : Distinct w sign) (o : Operator w sign) (hr : Clear isBlank r) :
    scanner w sign (o.text ++ r) = some ((), r) := by
  obtain ⟨hplain, c, cs, d, ds, rfl, rfl, hne⟩ := h
  cases o with
  | word k => exact orElse_of_some (k.scan hr)
  | sign b =>
    have hd := toLower_of_not_alpha (Bool.or_eq_false_iff.mp hplain).1
    have hopening : opening ((d :: ds) ++ (b.text ++ r)) = some d := congrArg some hd
    have hnone : keyword (c :: cs) ((d :: ds) ++ (b.text ++ r)) = none := by
      apply Keyword.scan_none
      rw [hopening]
      exact fun heq => hne (Option.some.inj heq).symm
    rw [text, List.append_assoc, scanner, orElse_of_none hnone, bind_of_some (word_of_sign hplain _), b.scan hr]

lemma of_scan (h : Distinct w sign) {u : Unit} (hs : scanner w sign s = some (u, r)) :
    ∃ o : Operator w sign, s = o.text ++ r := by
  rcases orElse_eq_some_iff.mp hs with hs | ⟨-, hs⟩
  · obtain ⟨k, hk⟩ := Keyword.of_scan hs
    exact ⟨.word k, hk⟩
  · obtain ⟨_, mid, hsign, hblanks⟩ := bind_eq_some_iff.mp hs
    obtain ⟨b, rfl⟩ := Blanks.of_scan hblanks
    exact ⟨.sign b, (sign_of_word h.plain hsign).trans (List.append_assoc ..).symm⟩

lemma scan_none (h : Distinct w sign) (hw : opening s ≠ w.head?) (hs : opening s ≠ sign.head?) :
    scanner w sign s = none := by
  obtain ⟨hplain, c, cs, d, ds, rfl, rfl, hne⟩ := h
  rw [scanner, orElse_of_none (Keyword.scan_none hw), bind_of_none (Spelling.scan_none hs)]

lemma unique (h : Distinct w sign) {a b : Operator w sign} (hr : Clear isBlank r) (hs : Clear isBlank s)
    (heq : a.text ++ r = b.text ++ s) : a = b ∧ r = s := by
  have hopening := congrArg opening heq
  have hheads : w.head? ≠ sign.head? := by
    obtain ⟨-, c, cs, d, ds, rfl, rfl, hne⟩ := h
    exact fun hc => hne (Option.some.inj hc)
  rcases opening_text h a r with ⟨ha, k, rfl⟩ | ⟨ha, c, rfl⟩ <;>
    rcases opening_text h b s with ⟨hb, l, rfl⟩ | ⟨hb, d, rfl⟩
  · obtain ⟨rfl, hrest⟩ := Keyword.unique hr hs heq
    exact ⟨rfl, hrest⟩
  · exact absurd (ha.symm.trans (hopening.trans hb)) hheads
  · exact absurd (hb.symm.trans (hopening.symm.trans ha)) hheads
  · rw [text, text, List.append_assoc, List.append_assoc, List.append_cancel_left_eq] at heq
    obtain ⟨rfl, hrest⟩ := Blanks.unique hr hs heq
    exact ⟨rfl, hrest⟩

end Operator

@[ext]
structure Numeral (limit : Nat) where
  digits : List Char
  nonempty : digits ≠ []
  decimal : ∀ c ∈ digits, c.isDigit = true
  below : valueOf digits < limit

namespace Numeral

variable {limit : Nat} {r s : List Char}

def value (n : Numeral limit) : Nat := valueOf n.digits

lemma scan_digits {d : List Char} (hd : d ≠ []) (hdecimal : ∀ c ∈ d, c.isDigit = true) (hr : Clear Char.isDigit r) :
    Scanner.digits (d ++ r) = some (d, r) := by
  rw [Scanner.digits, takeWhile_append hdecimal hr, dropWhile_append hdecimal hr]
  split
  · exact absurd rfl hd
  · rfl

lemma of_scan_digits {d : List Char} (h : Scanner.digits s = some (d, r)) :
    s = d ++ r ∧ d ≠ [] ∧ ∀ c ∈ d, c.isDigit = true := by
  rw [Scanner.digits] at h
  split at h
  · simp at h
  · next hne =>
    obtain ⟨rfl, rfl⟩ := Prod.mk.inj (Option.some.inj h)
    exact ⟨List.takeWhile_append_dropWhile.symm, hne, List.all_eq_true.mp List.all_takeWhile⟩

lemma opening_text (n : Numeral limit) (r : List Char) :
    ∃ c, opening (n.digits ++ r) = some c ∧ c.isDigit = true := by
  cases hdigits : n.digits with
  | nil => exact absurd hdigits n.nonempty
  | cons c cs =>
    have hdigit : c.isDigit = true := n.decimal c (hdigits ▸ List.mem_cons_self ..)
    exact ⟨c, congrArg some (toLower_of_digit hdigit), hdigit⟩

lemma clear_blank (n : Numeral limit) (r : List Char) : Clear isBlank (n.digits ++ r) := by
  obtain ⟨c, hopening, hdigit⟩ := n.opening_text r
  exact clear_blank_of_opening hopening (not_blank_of_digit hdigit)

lemma scan (n : Numeral limit) (hr : Clear Char.isDigit r) : number limit (n.digits ++ r) = some (n.value, r) := by
  rw [number, bind_of_some (scan_digits n.nonempty n.decimal hr), if_pos n.below]
  rfl

lemma of_scan {v : Nat} (h : number limit s = some (v, r)) : ∃ n : Numeral limit, s = n.digits ++ r ∧ n.value = v := by
  obtain ⟨d, mid, hd, hv⟩ := bind_eq_some_iff.mp h
  obtain ⟨rfl, hne, hdecimal⟩ := of_scan_digits hd
  split at hv
  · next hbelow =>
    obtain ⟨rfl, rfl⟩ := pure_eq_some_iff.mp hv
    exact ⟨⟨d, hne, hdecimal, hbelow⟩, rfl, rfl⟩
  · simp [fail] at hv

lemma unique {a b : Numeral limit} (hr : Clear Char.isDigit r) (hs : Clear Char.isDigit s)
    (h : a.digits ++ r = b.digits ++ s) : a = b ∧ r = s := by
  obtain ⟨hdigits, hrest⟩ := span_unique a.decimal b.decimal hr hs h
  exact ⟨Numeral.ext hdigits, hrest⟩

end Numeral

@[ext]
structure Octet extends Numeral 256 where
  short : 1 < digits.length → digits.head? ≠ some '0'

namespace Octet

lemma octet?_eq (o : Octet) : Ipv4Address.octet? o.digits = some o.value := by
  have hall : o.digits.all Char.isDigit = true := List.all_eq_true.mpr o.decimal
  have hgood : ¬ (o.digits.isEmpty ∨ !o.digits.all Char.isDigit ∨
      (o.digits.length > 1 ∧ o.digits.head? = some '0')) := by
    simp only [hall, List.isEmpty_iff, o.nonempty, Bool.not_true, Bool.false_eq_true, false_or]
    exact fun hzero => o.short hzero.1 hzero.2
  rw [Ipv4Address.octet?, if_neg hgood]
  exact if_pos o.below

lemma of_octet? {d : List Char} {v : Nat} (h : Ipv4Address.octet? d = some v) :
    ∃ o : Octet, o.digits = d ∧ o.value = v := by
  rw [Ipv4Address.octet?] at h
  split at h
  · simp at h
  · next hgood =>
    simp only [List.isEmpty_iff, Bool.not_eq_eq_eq_not, Bool.not_true, not_or, not_and, Bool.not_eq_false] at hgood
    obtain ⟨hne, hall, hshort⟩ := hgood
    dsimp only at h
    split at h
    · next hbelow => exact ⟨⟨⟨d, hne, List.all_eq_true.mp hall, hbelow⟩, hshort⟩, rfl, Option.some.inj h⟩
    · simp at h

end Octet

@[ext]
structure Quad where
  first : Octet
  second : Octet
  third : Octet
  fourth : Octet

namespace Quad

variable {r s : List Char}

def text (q : Quad) : List Char :=
  q.first.digits ++ '.' :: (q.second.digits ++ '.' :: (q.third.digits ++ '.' :: q.fourth.digits))

def value (q : Quad) : Ipv4Address := .ofOctets q.first.value q.second.value q.third.value q.fourth.value

lemma clear_blank (q : Quad) (r : List Char) : Clear isBlank (q.text ++ r) := by
  rw [text, List.append_assoc]
  exact q.first.clear_blank _

lemma scan (q : Quad) (hr : Clear Char.isDigit r) : address (q.text ++ r) = some (q.value, r) := by
  have hpoint : ∀ t, Clear Char.isDigit ('.' :: t) := clear_cons (by decide)
  have hdigits (o : Octet) {t : List Char} (ht : Clear Char.isDigit t) : digits (o.digits ++ t) = some (o.digits, t) :=
    Numeral.scan_digits o.nonempty o.decimal ht
  simp only [text, List.append_assoc, List.cons_append]
  rw [address, bind_of_some (hdigits _ (hpoint _)), bind_of_some (scan_char _ _), bind_of_some (hdigits _ (hpoint _)),
    bind_of_some (scan_char _ _), bind_of_some (hdigits _ (hpoint _)), bind_of_some (scan_char _ _),
    bind_of_some (hdigits _ hr)]
  simp only [Octet.octet?_eq]
  rfl

lemma of_scan {v : Ipv4Address} (h : address s = some (v, r)) : ∃ q : Quad, s = q.text ++ r ∧ q.value = v := by
  obtain ⟨a, s₁, ha, h⟩ := bind_eq_some_iff.mp h
  obtain ⟨_, s₂, hpoint₁, h⟩ := bind_eq_some_iff.mp h
  obtain ⟨b, s₃, hb, h⟩ := bind_eq_some_iff.mp h
  obtain ⟨_, s₄, hpoint₂, h⟩ := bind_eq_some_iff.mp h
  obtain ⟨c, s₅, hc, h⟩ := bind_eq_some_iff.mp h
  obtain ⟨_, s₆, hpoint₃, h⟩ := bind_eq_some_iff.mp h
  obtain ⟨d, s₇, hd, h⟩ := bind_eq_some_iff.mp h
  cases ha' : Ipv4Address.octet? a with
  | none => simp [ha', fail] at h
  | some x =>
  cases hb' : Ipv4Address.octet? b with
  | none => simp [ha', hb', fail] at h
  | some y =>
  cases hc' : Ipv4Address.octet? c with
  | none => simp [ha', hb', hc', fail] at h
  | some z =>
  cases hd' : Ipv4Address.octet? d with
  | none => simp [ha', hb', hc', hd', fail] at h
  | some w =>
    simp only [ha', hb', hc', hd'] at h
    obtain ⟨rfl, rfl⟩ := pure_eq_some_iff.mp h
    obtain ⟨o₁, rfl, rfl⟩ := Octet.of_octet? ha'
    obtain ⟨o₂, rfl, rfl⟩ := Octet.of_octet? hb'
    obtain ⟨o₃, rfl, rfl⟩ := Octet.of_octet? hc'
    obtain ⟨o₄, rfl, rfl⟩ := Octet.of_octet? hd'
    refine ⟨⟨o₁, o₂, o₃, o₄⟩, ?_, rfl⟩
    rw [(Numeral.of_scan_digits ha).1, of_scan_char hpoint₁, (Numeral.of_scan_digits hb).1, of_scan_char hpoint₂,
      (Numeral.of_scan_digits hc).1, of_scan_char hpoint₃, (Numeral.of_scan_digits hd).1]
    simp only [text, List.append_assoc, List.cons_append]

lemma unique {a b : Quad} (hr : Clear Char.isDigit r) (hs : Clear Char.isDigit s) (h : a.text ++ r = b.text ++ s) :
    a = b ∧ r = s := by
  have hpoint : ∀ t, Clear Char.isDigit ('.' :: t) := clear_cons (by decide)
  have hoctet {x y : Octet} {t u : List Char} (ht : Clear Char.isDigit t) (hu : Clear Char.isDigit u)
      (hxy : x.digits ++ t = y.digits ++ u) : x = y ∧ t = u := by
    obtain ⟨hnumeral, hrest⟩ := Numeral.unique ht hu hxy
    exact ⟨Octet.ext (congrArg Numeral.digits hnumeral), hrest⟩
  simp only [text, List.append_assoc, List.cons_append] at h
  obtain ⟨hfirst, h⟩ := hoctet (hpoint _) (hpoint _) h
  obtain ⟨hsecond, h⟩ := hoctet (hpoint _) (hpoint _) (List.cons.inj h).2
  obtain ⟨hthird, h⟩ := hoctet (hpoint _) (hpoint _) (List.cons.inj h).2
  obtain ⟨hfourth, h⟩ := hoctet hr hs (List.cons.inj h).2
  exact ⟨Quad.ext hfirst hsecond hthird hfourth, h⟩

end Quad

inductive Qualifier (first second : List Char) where
  | unsaid
  | first (keyword : Keyword first)
  | second (keyword : Keyword second)

namespace Qualifier

variable {v w : List Char} {α : Type} {x y z : α} {r s : List Char}

def text : Qualifier v w → List Char
  | .unsaid => []
  | .first k => k.text
  | .second k => k.text

def choose (x y z : α) : Qualifier v w → α
  | .first _ => x
  | .second _ => y
  | .unsaid => z

def scanner (v w : List Char) (x y z : α) : Scanner α :=
  (do keyword v; pure x) <|> (do keyword w; pure y) <|> pure z

lemma scan (q : Qualifier v w) (hvw : Apart v w) (hr : Clear isBlank r) (hv : keyword v r = none)
    (hw : keyword w r = none) : scanner v w x y z (q.text ++ r) = some (q.choose x y z, r) := by
  cases q with
  | unsaid =>
    rw [text, List.nil_append, scanner, orElse_of_none (bind_of_none hv), orElse_of_none (bind_of_none hw)]
    rfl
  | first k => exact orElse_of_some (bind_of_some (k.scan hr))
  | second k =>
    have hnone : keyword v (k.text ++ r) = none := k.scan_none_of_apart hvw.symm r
    rw [text, scanner, orElse_of_none (bind_of_none hnone), orElse_of_some (bind_of_some (k.scan hr))]
    rfl

lemma keyword_none {u : List Char} (q : Qualifier v w) (hvu : Apart v u) (hwu : Apart w u) (hr : keyword u r = none) :
    keyword u (q.text ++ r) = none := by
  cases q with
  | unsaid => exact hr
  | first k => exact k.scan_none_of_apart hvu r
  | second k => exact k.scan_none_of_apart hwu r

lemma clear_blank {c d : Char} {cs ds : List Char} (q : Qualifier (c :: cs) (d :: ds)) (hc : isBlank c = false)
    (hd : isBlank d = false) (hr : Clear isBlank r) : Clear isBlank (q.text ++ r) := by
  cases q with
  | unsaid => exact hr
  | first k => exact k.clear_blank hc r
  | second k => exact k.clear_blank hd r

lemma begins {words : List (List Char)} (q : Qualifier v w) (hv : v ∈ words) (hw : w ∈ words) (hr : Begins words r) :
    Begins words (q.text ++ r) := by
  cases q with
  | unsaid => exact hr
  | first k => exact k.begins hv r
  | second k => exact k.begins hw r

lemma of_scan {a : α} (h : scanner v w x y z s = some (a, r)) :
    ∃ q : Qualifier v w, s = q.text ++ r ∧ q.choose x y z = a := by
  rcases orElse_eq_some_iff.mp h with h | ⟨-, h⟩
  · obtain ⟨_, mid, hk, h⟩ := bind_eq_some_iff.mp h
    obtain ⟨rfl, rfl⟩ := pure_eq_some_iff.mp h
    obtain ⟨k, rfl⟩ := Keyword.of_scan hk
    exact ⟨.first k, rfl, rfl⟩
  · rcases orElse_eq_some_iff.mp h with h | ⟨-, h⟩
    · obtain ⟨_, mid, hk, h⟩ := bind_eq_some_iff.mp h
      obtain ⟨rfl, rfl⟩ := pure_eq_some_iff.mp h
      obtain ⟨k, rfl⟩ := Keyword.of_scan hk
      exact ⟨.second k, rfl, rfl⟩
    · obtain ⟨rfl, rfl⟩ := pure_eq_some_iff.mp h
      exact ⟨.unsaid, rfl, rfl⟩

lemma unique {a b : Qualifier v w} (hxy : x ≠ y) (hyz : y ≠ z) (hzx : z ≠ x)
    (hchoice : a.choose x y z = b.choose x y z) (hr : Clear isBlank r) (hs : Clear isBlank s)
    (h : a.text ++ r = b.text ++ s) : a = b ∧ r = s := by
  cases a <;> cases b <;> simp [choose, hxy, hyz, hzx, hxy.symm, hyz.symm, hzx.symm] at hchoice
  · exact ⟨rfl, h⟩
  · obtain ⟨rfl, hrest⟩ := Keyword.unique hr hs h
    exact ⟨rfl, hrest⟩
  · obtain ⟨rfl, hrest⟩ := Keyword.unique hr hs h
    exact ⟨rfl, hrest⟩

end Qualifier

end CaptureSieve.Filter

import CaptureSieve.Proofs.Filter.Wording

/-!
The grammar of filters as its derivations. A text has at most one, and each stands for one expression.

  expr      = term (blanks or term)*
  term      = factor (blanks and factor)*
  factor    = not factor | "(" blanks expr blanks ")" | primitive

A part is told from what stands behind it by the next character that is no blank.
-/

namespace CaptureSieve.Filter

open Scanner

inductive Connective where
  | and
  | or

/-- A chain of `and` is a term, and a chain of `or` an expression. -/
inductive Part where
  | factor
  | chain (connective : Connective)

namespace Connective

def operand : Connective → Part
  | and => .factor
  | or => .chain .and

def word : Connective → List Char
  | and => ['a', 'n', 'd']
  | or => ['o', 'r']

def sign : Connective → List Char
  | and => ['&', '&']
  | or => ['|', '|']

def join : Connective → Expr → Expr → Expr
  | and => .and
  | or => .or

end Connective

mutual

inductive Tree : Part → Type where
  | primitive (wording : Wording) : Tree .factor
  | not (operator : Operator ['n', 'o', 't'] ['!']) (operand : Tree .factor) : Tree .factor
  | paren (front : Blanks) (inner : Tree (.chain .or)) (back : Blanks) : Tree .factor
  | chain {c : Connective} (first : Tree c.operand) (others : Tail c) : Tree (.chain c)

inductive Tail : Connective → Type where
  | done {c : Connective} : Tail c
  | next {c : Connective} (before : Blanks) (operator : Operator c.word c.sign) (operand : Tree c.operand)
      (others : Tail c) : Tail c

end

mutual

def Tree.text {p : Part} : Tree p → List Char
  | .primitive w => w.text
  | .not o t => o.text ++ t.text
  | .paren front t back => '(' :: (front.text ++ (t.text ++ (back.text ++ [')'])))
  | .chain t l => t.text ++ l.text

def Tail.text {c : Connective} : Tail c → List Char
  | .done => []
  | .next before o t l => before.text ++ (o.text ++ (t.text ++ l.text))

end

mutual

def Tree.value {p : Part} : Tree p → Expr
  | .primitive w => .primitive w.value
  | .not _ t => .not t.value
  | .paren _ t _ => t.value
  | .chain t l => l.value t.value

def Tail.value {c : Connective} : Tail c → Expr → Expr
  | .done, left => left
  | .next _ _ t l, left => l.value (c.join left t.value)

end

/-- What a part may have behind it, blanks apart, unless the text ends. -/
def Part.ends : Part → List Char
  | .factor => factorEnds
  | .chain .and => [')', '|', 'o']
  | .chain .or => [')']

section Openings

def factorOpens : List Char := ['p', 's', 'd', 'n', 't', 'u', 'h', 'i', '!', '(']

def Connective.opens : Connective → List Char
  | .and => ['a', '&']
  | .or => ['o', '|']

lemma distinct_not : Operator.Distinct ['n', 'o', 't'] ['!'] := ⟨rfl, _, _, _, _, rfl, rfl, by decide⟩

lemma Connective.distinct (c : Connective) : Operator.Distinct c.word c.sign := by
  cases c with
  | and => exact ⟨rfl, _, _, _, _, rfl, rfl, by decide⟩
  | or => exact ⟨rfl, _, _, _, _, rfl, rfl, by decide⟩

lemma opens_not (o : Operator ['n', 'o', 't'] ['!']) (r : List Char) : Opens ['n', '!'] (o.text ++ r) := by
  rcases o.opening_text distinct_not r with ⟨h, -⟩ | ⟨h, -⟩
  · exact ⟨'n', by decide, h⟩
  · exact ⟨'!', by decide, h⟩

lemma opens_connective {c : Connective} (o : Operator c.word c.sign) (r : List Char) : Opens c.opens (o.text ++ r) := by
  cases c <;> rcases o.opening_text (Connective.distinct _) r with ⟨h, -⟩ | ⟨h, -⟩
  · exact ⟨'a', by decide, h⟩
  · exact ⟨'&', by decide, h⟩
  · exact ⟨'o', by decide, h⟩
  · exact ⟨'|', by decide, h⟩

lemma clear_blank_connective {c : Connective} (o : Operator c.word c.sign) (r : List Char) :
    Clear isBlank (o.text ++ r) :=
  (opens_connective o r).clear (fun _ => toLower_of_blank) (by cases c <;> rfl)

lemma Tree.opens : ∀ {p : Part} (t : Tree p) (r : List Char), Opens factorOpens (t.text ++ r)
  | _, .primitive w, r => (w.opens r).mono (by decide)
  | _, .not o t, r => by
    rw [text, List.append_assoc]
    exact (opens_not o _).mono (by decide)
  | _, .paren front t back, r => ⟨'(', by decide, rfl⟩
  | _, .chain t l, r => by
    rw [text, List.append_assoc]
    exact t.opens _

lemma Tree.clear_blank {p : Part} (t : Tree p) (r : List Char) : Clear isBlank (t.text ++ r) :=
  (t.opens r).clear (fun _ => toLower_of_blank) rfl

lemma char_eq_word {c : Char} (hc : c.isAlpha = false) : char c = word [c] := by
  funext s
  cases s with
  | nil => rfl
  | cons x s =>
    have hiff : x = c ↔ x.toLower = c := by
      refine ⟨?_, eq_of_toLower hc⟩
      rintro rfl
      exact toLower_of_not_alpha hc
    rw [char, word]
    simp only [hiff]
    rfl

lemma notOperator_eq : notOperator = Operator.scanner ['n', 'o', 't'] ['!'] := by
  rw [notOperator, Operator.scanner, char_eq_word rfl]

lemma Wording.ne_not {r s : List Char} (w : Wording) (o : Operator ['n', 'o', 't'] ['!']) (hs : Clear isBlank s) :
    w.text ++ r ≠ o.text ++ s := by
  intro h
  have hscan := o.scan distinct_not hs
  rw [← notOperator_eq, ← h, w.notOperator_none r] at hscan
  simp at hscan

end Openings

section Ends

variable {c : Connective} {r s : List Char}

lemma Follows.mono {heads more : List Char} (h : Follows heads s) (hsub : heads ⊆ more) : Follows more s :=
  fun x hx => hsub (h x hx)

lemma follows_of_blanks {heads : List Char} (b : Blanks) (hs : Opens heads s) (hclear : Clear isBlank s) :
    Follows heads (b.text ++ s) := by
  obtain ⟨x, hx, hopening⟩ := hs
  intro y hy
  rw [dropWhile_append b.blank hclear, hopening] at hy
  exact Option.some.inj hy ▸ hx

lemma follows_paren (b : Blanks) (r : List Char) : Follows (Part.chain .or).ends (b.text ++ ')' :: r) :=
  follows_of_blanks b ⟨')', by decide, rfl⟩ (clear_cons rfl r)

lemma Tail.follows (l : Tail c) (hr : Follows (Part.chain c).ends r) : Follows c.operand.ends (l.text ++ r) := by
  cases l with
  | done => exact hr.mono (by cases c <;> decide)
  | next before o t l =>
    simp only [text, List.append_assoc]
    have hopens := opens_connective o (t.text ++ (l.text ++ r))
    exact follows_of_blanks before (hopens.mono (by cases c <;> decide)) (clear_blank_connective o _)

lemma not_follows_next (before : Blanks) (o : Operator c.word c.sign) (r : List Char) :
    ¬ Follows (Part.chain c).ends (before.text ++ (o.text ++ r)) := by
  intro h
  obtain ⟨x, hx, hopening⟩ := opens_connective o r
  rw [Follows, dropWhile_append before.blank (clear_blank_connective o r)] at h
  have hmem := h x hopening
  cases c <;> simp [Connective.opens, Part.ends] at hx hmem <;> rcases hx with rfl | rfl <;> simp at hmem

end Ends

-- Induction on the first derivation. The second begins like it, so it was made in the same way; and where a piece
-- of one ends, what may follow it shows that the piece of the other ends too.
mutual

theorem Tree.unique : ∀ {p : Part} (t u : Tree p) {r s : List Char}, Follows p.ends r → Follows p.ends s →
    t.text ++ r = u.text ++ s → t = u ∧ r = s
  | _, .primitive w, .primitive v, r, s, hr, hs, h => by
    obtain ⟨rfl, hrest⟩ := Wording.unique hr hs h
    exact ⟨rfl, hrest⟩
  | _, .primitive w, .not o u, r, s, hr, hs, h => by
    rw [Tree.text, Tree.text, List.append_assoc] at h
    exact absurd h (w.ne_not o (u.clear_blank s))
  | _, .primitive w, .paren front u back, r, s, hr, hs, h => absurd (congrArg opening h) ((w.opens r).ne (by decide))
  | _, .not o t, .primitive v, r, s, hr, hs, h => by
    rw [Tree.text, Tree.text, List.append_assoc] at h
    exact absurd h.symm (v.ne_not o (t.clear_blank r))
  | _, .not o t, .not o' u, r, s, hr, hs, h => by
    simp only [Tree.text, List.append_assoc] at h
    obtain ⟨rfl, hoperand⟩ := Operator.unique distinct_not (t.clear_blank r) (u.clear_blank s) h
    obtain ⟨rfl, hrest⟩ := t.unique u hr hs hoperand
    exact ⟨rfl, hrest⟩
  | _, .not o t, .paren front u back, r, s, hr, hs, h => by
    rw [Tree.text, List.append_assoc] at h
    exact absurd (congrArg opening h) ((opens_not o _).ne (by decide))
  | _, .paren front t back, .primitive v, r, s, hr, hs, h =>
    absurd (congrArg opening h.symm) ((v.opens s).ne (by decide))
  | _, .paren front t back, .not o u, r, s, hr, hs, h => by
    rw [Tree.text, Tree.text, List.append_assoc] at h
    exact absurd (congrArg opening h.symm) ((opens_not o _).ne (by decide))
  | _, .paren front t back, .paren front' u back', r, s, hr, hs, h => by
    simp only [Tree.text, List.append_assoc, List.cons_append, List.nil_append, List.cons.injEq, true_and] at h
    obtain ⟨rfl, hinner⟩ := Blanks.unique (t.clear_blank _) (u.clear_blank _) h
    obtain ⟨rfl, hback⟩ := t.unique u (follows_paren back r) (follows_paren back' s) hinner
    obtain ⟨rfl, hrest⟩ := Blanks.unique (clear_cons rfl r) (clear_cons rfl s) hback
    exact ⟨rfl, (List.cons.inj hrest).2⟩
  | _, .chain t l, .chain u m, r, s, hr, hs, h => by
    simp only [Tree.text, List.append_assoc] at h
    obtain ⟨rfl, htail⟩ := t.unique u (l.follows hr) (m.follows hs) h
    obtain ⟨rfl, hrest⟩ := l.unique m hr hs htail
    exact ⟨rfl, hrest⟩

theorem Tail.unique : ∀ {c : Connective} (l m : Tail c) {r s : List Char}, Follows (Part.chain c).ends r →
    Follows (Part.chain c).ends s → l.text ++ r = m.text ++ s → l = m ∧ r = s
  | _, .done, .done, r, s, hr, hs, h => ⟨rfl, h⟩
  | _, .done, .next before o u m, r, s, hr, hs, h => by
    simp only [Tail.text, List.append_assoc, List.nil_append] at h
    exact absurd (h ▸ hr) (not_follows_next before o _)
  | _, .next before o t l, .done, r, s, hr, hs, h => by
    simp only [Tail.text, List.append_assoc, List.nil_append] at h
    exact absurd (h ▸ hs) (not_follows_next before o _)
  | c, .next before o t l, .next before' o' u m, r, s, hr, hs, h => by
    simp only [Tail.text, List.append_assoc] at h
    obtain ⟨rfl, hoperator⟩ := Blanks.unique (clear_blank_connective o _) (clear_blank_connective o' _) h
    obtain ⟨rfl, hoperand⟩ := Operator.unique c.distinct (t.clear_blank _) (u.clear_blank _) hoperator
    obtain ⟨rfl, htail⟩ := t.unique u (l.follows hr) (m.follows hs) hoperand
    obtain ⟨rfl, hrest⟩ := l.unique m hr hs htail
    exact ⟨rfl, hrest⟩

end

end CaptureSieve.Filter

import CaptureSieve.Proofs.Filter.Grammar

/-!
Parsing is derivation: the parser accepts the texts that the grammar derives, and finds what they stand for.
-/

namespace CaptureSieve.Filter

open Scanner

/-- Without the proofs that the rest is shorter, the parser of a part is a scanner. -/
def Found.erase {s : List Char} (found : Found s) : Option (Expr × List Char) := found.map fun (e, rest) => (e, rest.1)

def read : Part → Scanner Expr
  | .factor, s => Found.erase (scanFactor s)
  | .chain .and, s => Found.erase (scanTerm s)
  | .chain .or, s => Found.erase (scanExpr s)

def readOthers : Connective → Expr → List Char → Expr × List Char
  | .and, left, s => ((extendAnd left s).1, (extendAnd left s).2.1)
  | .or, left, s => ((extendOr left s).1, (extendOr left s).2.1)

def Connective.scanner (c : Connective) : Scanner Unit := do
  blanks
  Operator.scanner c.word c.sign

section Equations

variable {c : Connective} {left : Expr} {s rest : List Char}

lemma andOperator_eq : andOperator = Connective.scanner .and := rfl

lemma orOperator_eq : orOperator = Connective.scanner .or := rfl

lemma read_chain (c : Connective) (s : List Char) :
    read (.chain c) s = (read c.operand s).map fun (first, rest) => readOthers c first rest := by
  cases c with
  | and =>
    simp only [read, Connective.operand, Found.erase]
    rw [scanTerm]
    cases scanFactor s <;> rfl
  | or =>
    simp only [read, Connective.operand, Found.erase]
    rw [scanExpr]
    cases scanTerm s <;> rfl

lemma readOthers_of_none (h : c.scanner s = none) : readOthers c left s = (left, s) := by
  cases c <;> simp only [readOthers]
  case and =>
    rw [extendAnd]
    split
    · next ha => simp [andOperator_eq, h] at ha
    · rfl
  case or =>
    rw [extendOr]
    split
    · next ho => simp [orOperator_eq, h] at ho
    · rfl

lemma readOthers_of_operator (h : c.scanner s = some ((), rest)) :
    readOthers c left s = match read c.operand rest with
      | some (right, after) => readOthers c (c.join left right) after
      | none => (left, s) := by
  cases c <;> simp only [readOthers, read, Connective.operand, Found.erase]
  case and =>
    rw [extendAnd]
    split
    · next ha =>
      obtain ⟨-, rfl⟩ := Prod.mk.inj (Option.some.inj (h.symm.trans ha))
      cases scanFactor rest <;> rfl
    · next ha => simp [andOperator_eq, h] at ha
  case or =>
    rw [extendOr]
    split
    · next ho =>
      obtain ⟨-, rfl⟩ := Prod.mk.inj (Option.some.inj (h.symm.trans ho))
      cases scanTerm rest <;> rfl
    · next ho => simp [orOperator_eq, h] at ho

lemma read_not (h : notOperator s = some ((), rest)) :
    read .factor s = (read .factor rest).map fun (e, after) => (.not e, after) := by
  simp only [read, Found.erase]
  rw [scanFactor]
  split
  · next hn =>
    obtain ⟨-, rfl⟩ := Prod.mk.inj (Option.some.inj (h.symm.trans hn))
    cases scanFactor rest <;> rfl
  · next hn => simp [h] at hn

lemma read_paren (hn : notOperator s = none) (ho : openParen s = some ((), rest)) :
    read .factor s = (do let e ← read (.chain .or); closeParen; pure e : Scanner Expr) rest := by
  rw [show read .factor s = Found.erase (scanFactor s) from rfl, scanFactor]
  split
  · next h => simp [hn] at h
  split
  · next h =>
    obtain ⟨-, rfl⟩ := Prod.mk.inj (Option.some.inj (ho.symm.trans h))
    cases hinner : scanExpr rest with
    | none =>
      have hread : read (.chain .or) rest = none := congrArg Found.erase hinner
      exact (bind_of_none hread).symm
    | some found =>
      obtain ⟨e, mid, hmid⟩ := found
      have hread : read (.chain .or) rest = some (e, mid) := congrArg Found.erase hinner
      rw [bind_of_some hread]
      dsimp only
      split
      · next hc => rw [bind_of_some hc]; rfl
      · next hc => rw [bind_of_none hc]; rfl
  · next h => simp [ho] at h

lemma read_primitive (hn : notOperator s = none) (ho : openParen s = none) :
    read .factor s = (do let p ← primitive; pure (.primitive p) : Scanner Expr) s := by
  rw [show read .factor s = Found.erase (scanFactor s) from rfl, scanFactor]
  split
  · next h => simp [hn] at h
  split
  · next h => simp [ho] at h
  split
  · next h => rw [bind_of_some h]; rfl
  · next h => rw [bind_of_none h]; rfl

end Equations

section Completeness

variable {c : Connective} {r s : List Char}

lemma openParen_scan (b : Blanks) (hr : Clear isBlank r) : openParen ('(' :: (b.text ++ r)) = some ((), r) := by
  rw [openParen, bind_of_some (scan_char _ _), b.scan hr]

lemma closeParen_scan (b : Blanks) (r : List Char) : closeParen (b.text ++ ')' :: r) = some ((), r) := by
  rw [closeParen, bind_of_some (b.scan (clear_cons rfl r)), scan_char]

lemma connective_scan (before : Blanks) (o : Operator c.word c.sign) (hr : Clear isBlank r) :
    c.scanner (before.text ++ (o.text ++ r)) = some ((), r) := by
  rw [Connective.scanner, bind_of_some (before.scan (clear_blank_connective o r)), o.scan c.distinct hr]

lemma notOperator_none_of_opening (h : opening s ≠ some 'n' ∧ opening s ≠ some '!') : notOperator s = none := by
  rw [notOperator_eq]
  exact Operator.scan_none distinct_not h.1 h.2

lemma connective_none (h : Follows (Part.chain c).ends s) : c.scanner s = none := by
  have hblanks : blanks s = some ((), s.dropWhile isBlank) := rfl
  rw [Connective.scanner, bind_of_some hblanks]
  cases c with
  | and => exact Operator.scan_none (Connective.distinct _) (h.opening_ne (by decide)) (h.opening_ne (by decide))
  | or => exact Operator.scan_none (Connective.distinct _) (h.opening_ne (by decide)) (h.opening_ne (by decide))

end Completeness

mutual

theorem Tree.read_text : ∀ {p : Part} (t : Tree p) {r : List Char}, Follows p.ends r →
    read p (t.text ++ r) = some (t.value, r)
  | _, .primitive w, r, hr => by
    have hopen : openParen (w.text ++ r) = none := bind_of_none (char_none ((w.opens r).ne (by decide)))
    rw [Tree.text, read_primitive (w.notOperator_none r) hopen, bind_of_some (w.scan hr)]
    rfl
  | _, .not o t, r, hr => by
    have hnot : notOperator (o.text ++ (t.text ++ r)) = some ((), t.text ++ r) := by
      rw [notOperator_eq, o.scan distinct_not (t.clear_blank r)]
    rw [Tree.text, List.append_assoc, read_not hnot, t.read_text hr]
    rfl
  | _, .paren front t back, r, hr => by
    simp only [Tree.text, List.append_assoc, List.cons_append, List.nil_append]
    have hnot := notOperator_none_of_opening (s := '(' :: (front.text ++ (t.text ++ (back.text ++ ')' :: r))))
      (by simp [opening])
    rw [read_paren hnot (openParen_scan front (t.clear_blank _)), bind_of_some (t.read_text (follows_paren back r)),
      bind_of_some (closeParen_scan back r)]
    rfl
  | _, .chain (c := c) t l, r, hr => by
    rw [Tree.text, List.append_assoc, read_chain, t.read_text (l.follows hr)]
    exact congrArg some (l.readOthers_text _ hr)

theorem Tail.readOthers_text : ∀ {c : Connective} (l : Tail c) (left : Expr) {r : List Char},
    Follows (Part.chain c).ends r → readOthers c left (l.text ++ r) = (l.value left, r)
  | _, .done, left, r, hr => by
    rw [Tail.text, List.nil_append, readOthers_of_none (connective_none hr)]
    rfl
  | _, .next before o t l, left, r, hr => by
    simp only [Tail.text, List.append_assoc]
    rw [readOthers_of_operator (connective_scan before o (t.clear_blank _)), t.read_text (l.follows hr)]
    exact l.readOthers_text _ hr

end

section Soundness

variable {c : Connective} {s rest : List Char} {n : Nat}

def Sound (p : Part) (n : Nat) : Prop :=
  ∀ s e rest, s.length ≤ n → read p s = some (e, rest) → ∃ t : Tree p, s = t.text ++ rest ∧ t.value = e

lemma advances_connective (c : Connective) : c.scanner.Advances := by
  cases c with
  | and => exact advances_andOperator
  | or => exact advances_orOperator

lemma of_openParen (h : openParen s = some ((), rest)) : ∃ b : Blanks, s = '(' :: (b.text ++ rest) := by
  obtain ⟨_, mid, hchar, hblanks⟩ := bind_eq_some_iff.mp h
  obtain ⟨b, rfl⟩ := Blanks.of_scan hblanks
  exact ⟨b, of_scan_char hchar⟩

lemma of_closeParen (h : closeParen s = some ((), rest)) : ∃ b : Blanks, s = b.text ++ ')' :: rest := by
  obtain ⟨_, mid, hblanks, hchar⟩ := bind_eq_some_iff.mp h
  obtain ⟨b, rfl⟩ := Blanks.of_scan hblanks
  exact ⟨b, congrArg (b.text ++ ·) (of_scan_char hchar)⟩

lemma of_connective (h : c.scanner s = some ((), rest)) :
    ∃ (before : Blanks) (o : Operator c.word c.sign), s = before.text ++ (o.text ++ rest) := by
  obtain ⟨_, mid, hblanks, hoperator⟩ := bind_eq_some_iff.mp h
  obtain ⟨b, rfl⟩ := Blanks.of_scan hblanks
  obtain ⟨o, rfl⟩ := Operator.of_scan c.distinct hoperator
  exact ⟨b, o, rfl⟩

/-- An operator that no operand follows is left unread, and so is not part of the chain. -/
lemma of_readOthers (hoperand : Sound c.operand n) (hn : s.length ≤ n) (left : Expr) :
    ∃ l : Tail c, s = l.text ++ (readOthers c left s).2 ∧ l.value left = (readOthers c left s).1 := by
  induction hlength : s.length using Nat.strongRecOn generalizing s left with
  | ind m ih =>
    cases hoperator : c.scanner s with
    | none =>
      rw [readOthers_of_none hoperator]
      exact ⟨.done, rfl, rfl⟩
    | some found =>
      obtain ⟨_, mid⟩ := found
      have hmid := advances_connective c s () mid hoperator
      rw [readOthers_of_operator hoperator]
      cases hread : read c.operand mid with
      | none => exact ⟨.done, rfl, rfl⟩
      | some found =>
        obtain ⟨right, after⟩ := found
        obtain ⟨before, o, hs⟩ := of_connective hoperator
        obtain ⟨t, rfl, rfl⟩ := hoperand mid right after (by omega) hread
        have hafter : after.length < m := by
          rw [List.length_append] at hmid
          omega
        obtain ⟨l, htext, hvalue⟩ := ih after.length hafter (by omega) (c.join left t.value) rfl
        refine ⟨.next before o t l, ?_, hvalue⟩
        simp only [Tail.text, List.append_assoc]
        rw [← htext]
        exact hs

lemma sound_chain (hoperand : Sound c.operand n) : Sound (.chain c) n := by
  intro s e rest hs h
  rw [read_chain, Option.map_eq_some_iff] at h
  obtain ⟨⟨first, mid⟩, hread, hothers⟩ := h
  obtain ⟨t, rfl, rfl⟩ := hoperand s first mid hs hread
  have hmid : mid.length ≤ n := by
    rw [List.length_append] at hs
    omega
  obtain ⟨l, htext, hvalue⟩ := of_readOthers hoperand hmid t.value
  dsimp only at hothers
  rw [hothers] at htext hvalue
  refine ⟨.chain t l, ?_, hvalue⟩
  rw [Tree.text, List.append_assoc, ← htext]

lemma sound_factor (hshorter : ∀ m < n, ∀ p, Sound p m) : Sound .factor n := by
  intro s e rest hs h
  cases hnot : notOperator s with
  | some found =>
    obtain ⟨_, mid⟩ := found
    have hmid := advances_notOperator s () mid hnot
    rw [read_not hnot, Option.map_eq_some_iff] at h
    obtain ⟨⟨operand, after⟩, hread, hfound⟩ := h
    obtain ⟨rfl, rfl⟩ := Prod.mk.inj hfound
    rw [notOperator_eq] at hnot
    obtain ⟨o, rfl⟩ := Operator.of_scan distinct_not hnot
    obtain ⟨t, rfl, rfl⟩ := hshorter mid.length (by omega) .factor mid operand after (Nat.le_refl _) hread
    exact ⟨.not o t, (List.append_assoc ..).symm, rfl⟩
  | none =>
  cases hopen : openParen s with
  | some found =>
    obtain ⟨_, inner⟩ := found
    have hinner := advances_openParen s () inner hopen
    rw [read_paren hnot hopen] at h
    obtain ⟨e', mid, hread, h⟩ := bind_eq_some_iff.mp h
    obtain ⟨_, after, hclose, h⟩ := bind_eq_some_iff.mp h
    obtain ⟨rfl, rfl⟩ := pure_eq_some_iff.mp h
    obtain ⟨front, rfl⟩ := of_openParen hopen
    obtain ⟨t, rfl, rfl⟩ := hshorter inner.length (by omega) (.chain .or) inner e' mid (Nat.le_refl _) hread
    obtain ⟨back, rfl⟩ := of_closeParen hclose
    exact ⟨.paren front t back, by simp only [Tree.text, List.append_assoc, List.cons_append, List.nil_append], rfl⟩
  | none =>
    rw [read_primitive hnot hopen] at h
    obtain ⟨p, mid, hp, h⟩ := bind_eq_some_iff.mp h
    obtain ⟨rfl, rfl⟩ := pure_eq_some_iff.mp h
    obtain ⟨w, rfl, rfl⟩ := Wording.of_scan hp
    exact ⟨.primitive w, rfl, rfl⟩

theorem sound (p : Part) (n : Nat) : Sound p n := by
  induction n using Nat.strongRecOn generalizing p with
  | ind n ih =>
    have hfactor : Sound .factor n := sound_factor fun m hm q => ih m hm q
    have hterm : Sound (.chain .and) n := sound_chain hfactor
    have hexpr : Sound (.chain .or) n := sound_chain hterm
    match p with
    | .factor => exact hfactor
    | .chain .and => exact hterm
    | .chain .or => exact hexpr

end Soundness

section Text

variable {text : String}

lemma follows_nil (heads : List Char) : Follows heads [] := by simp [Follows, opening]

lemma Tree.text_ne_nil {p : Part} (t : Tree p) : t.text ≠ [] := by
  intro hnil
  obtain ⟨c, -, hopening⟩ := t.opens []
  simp [hnil, opening] at hopening

lemma ofText_of_nil (h : Text.trim text.toList = []) : ofText text = .error .empty := by
  simp only [ofText, h]
  rfl

lemma ofText_eq (h : Text.trim text.toList ≠ []) :
    ofText text = match read (.chain .or) (Text.trim text.toList) with
      | some (e, []) => .ok ⟨Text.trim text.toList, e⟩
      | some (_, rest) => .error (.unread (Text.trim text.toList) rest)
      | none => .error (.noExpression (Text.trim text.toList)) := by
  simp only [ofText, List.isEmpty_iff, h, if_false, read, Found.erase]
  rcases scanExpr (Text.trim text.toList) with _ | ⟨e, rest, hrest⟩
  · rfl
  · cases rest <;> rfl

lemma ofText_tree (t : Tree (.chain .or)) (h : t.text = Text.trim text.toList) :
    ofText text = .ok ⟨Text.trim text.toList, t.value⟩ := by
  have hread := t.read_text (follows_nil _)
  rw [List.append_nil, h] at hread
  rw [ofText_eq (h ▸ t.text_ne_nil), hread]

lemma exists_tree {f : Filter} (h : ofText text = .ok f) :
    ∃ t : Tree (.chain .or), t.text = Text.trim text.toList ∧ t.value = f.expr := by
  by_cases hnil : Text.trim text.toList = []
  · simp [ofText_of_nil hnil] at h
  rw [ofText_eq hnil] at h
  split at h
  · next e hread =>
    obtain ⟨t, htext, hvalue⟩ := sound _ _ _ _ _ (Nat.le_refl _) hread
    obtain rfl := Except.ok.inj h
    exact ⟨t, by rw [htext, List.append_nil], hvalue⟩
  · simp at h
  · simp at h

def IsParseError (expression : List Char) : FilterError → Prop
  | .empty => False
  | .noExpression e => e = expression
  | .unread e _ => e = expression

lemma isParseError_of_error {err : FilterError} (hnil : Text.trim text.toList ≠ []) (h : ofText text = .error err) :
    IsParseError (Text.trim text.toList) err := by
  rw [ofText_eq hnil] at h
  split at h
  · simp at h
  · obtain rfl := Except.error.inj h
    rfl
  · obtain rfl := Except.error.inj h
    rfl

structure ParsesExactly (text : String) : Prop where
  accepts : ∀ e, (∃ f, ofText text = .ok f ∧ f.expr = e) ↔
    ∃ t : Tree (.chain .or), t.text = Text.trim text.toList ∧ t.value = e
  empty : Text.trim text.toList = [] → ofText text = .error .empty
  refused : Text.trim text.toList ≠ [] → (¬ ∃ t : Tree (.chain .or), t.text = Text.trim text.toList) →
    ∃ err, ofText text = .error err ∧ IsParseError (Text.trim text.toList) err

theorem parses_exactly :
    (∀ t u : Tree (.chain .or), t.text = u.text → t = u) ∧ ∀ text : String, ParsesExactly text := by
  refine ⟨?_, fun text => ⟨fun e => ⟨?_, ?_⟩, ofText_of_nil, ?_⟩⟩
  · intro t u h
    exact (t.unique u (follows_nil _) (follows_nil _) (congrArg (· ++ []) h)).1
  · rintro ⟨f, hf, rfl⟩
    exact exists_tree hf
  · rintro ⟨t, htext, rfl⟩
    exact ⟨_, ofText_tree t htext, rfl⟩
  · intro hnil hnone
    cases h : ofText text with
    | ok f =>
      obtain ⟨t, htext, -⟩ := exists_tree h
      exact absurd ⟨t, htext⟩ hnone
    | error err => exact ⟨err, rfl, isParseError_of_error hnil h⟩

theorem parses_exactly_capitals : ∃ f, ofText " TCP\n" = .ok f ∧ f.expr = .primitive (.protocol .tcp) := by
  let factor : Tree .factor := .primitive (.protocol .tcp ⟨['T', 'C', 'P'], rfl⟩)
  let term : Tree (.chain .and) := .chain factor .done
  exact ((parses_exactly.2 " TCP\n").accepts _).mpr ⟨.chain term .done, by decide, rfl⟩

end Text

end CaptureSieve.Filter

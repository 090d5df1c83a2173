import CaptureSieve.Proofs.Filter.Parsing

/-!
Filters in print: lower case, single blanks, and parentheses only where the operators would bind otherwise.
-/

namespace CaptureSieve.Filter

def Direction.print : Direction → List Char
  | .source => ['s', 'r', 'c', ' ']
  | .destination => ['d', 's', 't', ' ']
  | .either => []

def printTransport : Option Transport → List Char
  | some .tcp => ['t', 'c', 'p', ' ']
  | some .udp => ['u', 'd', 'p', ' ']
  | none => []

def printNumber (n : Nat) : List Char := Nat.toDigits 10 n

def Primitive.print : Primitive → List Char
  | .protocol p => p.word
  | .host d a => d.print ++ (['h', 'o', 's', 't', ' '] ++ a.text.toList)
  | .net d n => d.print ++ (['n', 'e', 't', ' '] ++ n.text.toList)
  | .port d t n => d.print ++ (printTransport t ++ (['p', 'o', 'r', 't', ' '] ++ printNumber n.toNat))
  | .portRange d t first last =>
    d.print ++ (printTransport t ++ (['p', 'o', 'r', 't', 'r', 'a', 'n', 'g', 'e', ' '] ++
      (printNumber first.toNat ++ '-' :: printNumber last.toNat)))
  | .ipProtocol n => ['p', 'r', 'o', 't', 'o', ' '] ++ printNumber n.toNat

/-- Whether a chain may stand for the part as it is, without parentheses. -/
def Part.admits : Part → Connective → Bool
  | .chain .or, _ => true
  | .chain .and, .and => true
  | _, _ => false

def enclose (bare : Bool) (s : List Char) : List Char := if bare then s else '(' :: (s ++ [')'])

def Expr.print : Expr → Part → List Char
  | .primitive t, _ => t.print
  | .not e, _ => ['n', 'o', 't', ' '] ++ e.print .factor
  | .and left right, p =>
    enclose (p.admits .and) (left.print (.chain .and) ++ ([' ', 'a', 'n', 'd', ' '] ++ right.print .factor))
  | .or left right, p =>
    enclose (p.admits .or) (left.print (.chain .or) ++ ([' ', 'o', 'r', ' '] ++ right.print (.chain .and)))

def Expr.text (e : Expr) : String := String.ofList (e.print (.chain .or))

def Primitive.WellFormed : Primitive → Prop
  | .net _ n => n.size ≤ 32
  | .portRange _ _ first last => first ≤ last
  | _ => True

def Expr.WellFormed : Expr → Prop
  | .primitive t => t.WellFormed
  | .not e => e.WellFormed
  | .and left right => left.WellFormed ∧ right.WellFormed
  | .or left right => left.WellFormed ∧ right.WellFormed

instance (t : Primitive) : Decidable t.WellFormed :=
  match t with
  | .net _ n => inferInstanceAs (Decidable (n.size ≤ 32))
  | .portRange _ _ first last => inferInstanceAs (Decidable (first ≤ last))
  | .protocol _ | .host _ _ | .port _ _ _ | .ipProtocol _ => isTrue trivial

instance decidableWellFormed : (e : Expr) → Decidable e.WellFormed
  | .primitive t => inferInstanceAs (Decidable t.WellFormed)
  | .not e => decidableWellFormed e
  | .and left right | .or left right =>
    have := decidableWellFormed left
    have := decidableWellFormed right
    inferInstanceAs (Decidable (left.WellFormed ∧ right.WellFormed))

section Primitives

def single : Gap := ⟨.leading [' '], by decide⟩

def Keyword.plain (w : List Char) (h : w.map Char.toLower = w) : Keyword w := ⟨⟨w, h⟩, single⟩

def Side.plain : Direction → Side
  | .source => .first (.plain _ rfl)
  | .destination => .second (.plain _ rfl)
  | .either => .unsaid

def Carrier.plain : Option Transport → Carrier
  | some .tcp => .first (.plain _ rfl)
  | some .udp => .second (.plain _ rfl)
  | none => .unsaid

lemma valueOf_toDigits (n : Nat) : Scanner.valueOf (Nat.toDigits 10 n) = n := by
  have h := Nat.ofDigitChars_ten_toDigits (n := n)
  rwa [Nat.ofDigitChars_eq_foldl] at h

def Numeral.plain {limit : Nat} (n : Nat) (h : n < limit) : Numeral limit where
  digits := printNumber n
  nonempty := Nat.toDigits_ne_nil
  decimal _ hc := Nat.isDigit_of_mem_toDigits (by decide) (by decide) hc
  below := by rwa [printNumber, valueOf_toDigits]

lemma Numeral.value_plain {limit n : Nat} (h : n < limit) : (Numeral.plain n h).value = n := valueOf_toDigits n

lemma head?_printNumber {n : Nat} (h : n ≠ 0) : (printNumber n).head? ≠ some '0' := by
  induction n using Nat.strongRecOn with
  | ind n ih =>
    rw [printNumber, Nat.toDigits_eq_if (by decide)]
    split
    · next hsmall =>
      have hdigits : ∀ m < 10, m ≠ 0 → [m.digitChar].head? ≠ some '0' := by decide
      exact hdigits n hsmall h
    · next hlarge =>
      have hhigh := ih (n / 10) (by omega) (by omega)
      obtain ⟨c, cs, hcs⟩ := List.exists_cons_of_ne_nil (Nat.toDigits_ne_nil (n := n / 10) (b := 10))
      rw [printNumber, hcs] at hhigh
      rw [hcs]
      exact hhigh

lemma short_printNumber (n : Nat) (h : 1 < (printNumber n).length) : (printNumber n).head? ≠ some '0' := by
  apply head?_printNumber
  rintro rfl
  simp [printNumber] at h

def Octet.plain (n : Nat) (h : n < 256) : Octet := ⟨Numeral.plain n h, short_printNumber n⟩

def Quad.plain (a : Ipv4Address) : Quad where
  first := .plain (a.value / 65536 / 256 % 256) (by omega)
  second := .plain (a.value / 65536 % 256) (by omega)
  third := .plain (a.value / 256 % 256) (by omega)
  fourth := .plain (a.value % 256) (by omega)

lemma Quad.text_plain (a : Ipv4Address) : (Quad.plain a).text = a.text.toList := by
  simp only [Ipv4Address.text, Ipv4Address.bytes, ByteOrder.bytes32, ByteOrder.bytes16, List.cons_append,
    List.nil_append, List.map_cons, List.map_nil, String.toList_intercalate, List.intercalate, List.intersperse,
    List.flatten_cons, List.flatten_nil, List.append_nil, Nat.toString_eq_ofList_toDigits, String.toList_ofList,
    UInt8.toNat_ofNat']
  rfl

lemma Quad.value_plain (a : Ipv4Address) : (Quad.plain a).value = a := by
  obtain ⟨bits⟩ := a
  have hbits := bits.isLt
  have hvalue (n : Nat) (h : n < 256) : (Octet.plain n h).value = n := Numeral.value_plain h
  simp only [value, plain, hvalue, Ipv4Address.ofOctets, Ipv4Address.value, Ipv4Address.mk.injEq]
  apply BitVec.eq_of_toNat_eq
  rw [BitVec.toNat_ofNat]
  omega

lemma Side.text_plain (d : Direction) : (Side.plain d).text = d.print := by cases d <;> rfl

lemma Side.direction_plain (d : Direction) : (Side.plain d).direction = d := by cases d <;> rfl

lemma Carrier.text_plain (t : Option Transport) : (Carrier.plain t).text = printTransport t := by
  rcases t with _ | _ | _ <;> rfl

lemma Carrier.transport_plain (t : Option Transport) : (Carrier.plain t).transport = t := by
  rcases t with _ | _ | _ <;> rfl

lemma toList_networkText (n : Network) : n.text.toList = n.address.text.toList ++ '/' :: printNumber n.size := by
  simp only [Network.text, String.toList_append, Nat.toString_eq_ofList_toDigits, String.toList_ofList,
    List.append_assoc]
  rfl

lemma Protocol.toLower_word (p : Protocol) : p.word.map Char.toLower = p.word := by cases p <;> rfl

lemma exists_wording {t : Primitive} (h : t.WellFormed) : ∃ w : Wording, w.text = t.print ∧ w.value = t := by
  cases t with
  | protocol p => exact ⟨.protocol p ⟨p.word, p.toLower_word⟩, rfl, rfl⟩
  | host d a =>
    refine ⟨.host (.plain d) (.plain _ rfl) (.plain a), ?_, ?_⟩
    · rw [Wording.text, Side.text_plain, Quad.text_plain]
      rfl
    · rw [Wording.value, Side.direction_plain, Quad.value_plain]
  | net d n =>
    have hsize : n.size < 33 := Nat.lt_succ_of_le h
    refine ⟨.net (.plain d) (.plain _ rfl) (.plain n.address) (.plain n.size hsize), ?_, ?_⟩
    · rw [Primitive.print, toList_networkText, Wording.text, Side.text_plain, Quad.text_plain]
      rfl
    · rw [Wording.value, Side.direction_plain, Quad.value_plain, Numeral.value_plain]
  | port d t n =>
    refine ⟨.port (.plain d) (.plain t) (.plain _ rfl) (.plain n.toNat n.toNat_lt), ?_, ?_⟩
    · rw [Wording.text, Side.text_plain, Carrier.text_plain]
      rfl
    · rw [Wording.value, Side.direction_plain, Carrier.transport_plain, Numeral.value_plain, UInt16.ofNat_toNat]
  | portRange d t first last =>
    have hordered :
        (Numeral.plain first.toNat first.toNat_lt).value ≤ (Numeral.plain last.toNat last.toNat_lt).value := by
      rw [Numeral.value_plain, Numeral.value_plain]
      exact UInt16.le_iff_toNat_le.mp h
    refine ⟨.portRange (.plain d) (.plain t) (.plain _ rfl) _ _ hordered, ?_, ?_⟩
    · rw [Wording.text, Side.text_plain, Carrier.text_plain]
      rfl
    · rw [Wording.value, Side.direction_plain, Carrier.transport_plain, Numeral.value_plain, Numeral.value_plain,
        UInt16.ofNat_toNat, UInt16.ofNat_toNat]
  | ipProtocol n =>
    refine ⟨.ipProtocol (.plain _ rfl) (.plain n.toNat n.toNat_lt), rfl, ?_⟩
    rw [Wording.value, Numeral.value_plain, UInt8.ofNat_toNat]

end Primitives

section Trees

variable {c : Connective} {p : Part}

lemma print_join (c : Connective) (left right : Expr) (p : Part) : (c.join left right).print p =
    enclose (p.admits c) (left.print (.chain c) ++ (' ' :: (c.word ++ ' ' :: right.print c.operand))) := by
  cases c <;> rfl

def blank : Blanks := single.toBlanks

def plainNot : Operator ['n', 'o', 't'] ['!'] := .word (.plain _ rfl)

def Connective.plain (c : Connective) : Operator c.word c.sign := .word (.plain c.word (by cases c <;> rfl))

lemma Tail.exists_snoc : ∀ {c : Connective} (l : Tail c) (before : Blanks) (o : Operator c.word c.sign)
    (t : Tree c.operand), ∃ m : Tail c, m.text = l.text ++ (before.text ++ (o.text ++ t.text)) ∧
      ∀ left, m.value left = c.join (l.value left) t.value
  | _, .done, before, o, t => by
    refine ⟨.next before o t .done, ?_, fun left => rfl⟩
    simp only [Tail.text, List.append_nil, List.nil_append]
  | _, .next before' o' u l, before, o, t => by
    obtain ⟨m, htext, hvalue⟩ := l.exists_snoc before o t
    refine ⟨.next before' o' u m, ?_, fun left => hvalue _⟩
    simp only [Tail.text, htext, List.append_assoc]

lemma exists_chain {s : List Char} {e : Expr} (h : ∃ t : Tree c.operand, t.text = s ∧ t.value = e) :
    ∃ t : Tree (.chain c), t.text = s ∧ t.value = e := by
  obtain ⟨t, rfl, rfl⟩ := h
  exact ⟨.chain t .done, List.append_nil _, rfl⟩

lemma exists_of_factor {s : List Char} {e : Expr} (h : ∃ t : Tree .factor, t.text = s ∧ t.value = e) (p : Part) :
    ∃ t : Tree p, t.text = s ∧ t.value = e :=
  match p with
  | .factor => h
  | .chain .and => exists_chain (c := .and) h
  | .chain .or => exists_chain (c := .or) (exists_chain (c := .and) h)

lemma exists_paren {s : List Char} {e : Expr} (h : ∃ t : Tree (.chain .or), t.text = s ∧ t.value = e) :
    ∃ t : Tree .factor, t.text = '(' :: (s ++ [')']) ∧ t.value = e := by
  obtain ⟨t, rfl, rfl⟩ := h
  exact ⟨.paren (.leading []) t (.leading []), rfl, rfl⟩

lemma exists_enclosed {s : List Char} {e : Expr} (h : ∃ t : Tree (.chain c), t.text = s ∧ t.value = e) (p : Part) :
    ∃ t : Tree p, t.text = enclose (p.admits c) s ∧ t.value = e := by
  have hexpr : ∃ t : Tree (.chain .or), t.text = s ∧ t.value = e := by
    cases c with
    | and => exact exists_chain (c := .or) h
    | or => exact h
  match p, c with
  | .factor, _ => exact exists_paren hexpr
  | .chain .and, .and => exact h
  | .chain .and, .or => exact exists_of_factor (exists_paren hexpr) _
  | .chain .or, _ => exact hexpr

lemma exists_join {left right : Expr} {s r : List Char} (hleft : ∃ t : Tree (.chain c), t.text = s ∧ t.value = left)
    (hright : ∃ t : Tree c.operand, t.text = r ∧ t.value = right) :
    ∃ t : Tree (.chain c), t.text = s ++ (' ' :: (c.word ++ ' ' :: r)) ∧ t.value = c.join left right := by
  obtain ⟨t, rfl, rfl⟩ := hleft
  obtain ⟨u, rfl, rfl⟩ := hright
  cases t with
  | chain first others =>
    obtain ⟨m, htext, hvalue⟩ := others.exists_snoc blank c.plain u
    have hoperator : c.plain.text = c.word ++ [' '] := rfl
    refine ⟨.chain first m, ?_, hvalue _⟩
    simp only [Tree.text, htext, hoperator, List.append_assoc]
    rfl

theorem Expr.exists_tree {e : Expr} (h : e.WellFormed) (p : Part) : ∃ t : Tree p, t.text = e.print p ∧ t.value = e := by
  induction e generalizing p with
  | primitive t =>
    obtain ⟨w, htext, rfl⟩ := exists_wording h
    exact exists_of_factor ⟨.primitive w, htext, rfl⟩ p
  | not e ih =>
    obtain ⟨t, htext, hvalue⟩ := ih h .factor
    refine exists_of_factor ⟨.not plainNot t, ?_, congrArg Expr.not hvalue⟩ p
    rw [Tree.text, htext]
    rfl
  | and left right hleft hright =>
    exact exists_enclosed (c := .and) (exists_join (hleft h.1 _) (hright h.2 _)) p
  | or left right hleft hright =>
    exact exists_enclosed (c := .or) (exists_join (hleft h.1 _) (hright h.2 _)) p

end Trees

section Trimming

variable {s t : List Char}

lemma toLower_of_unicodeBlank {c : Char} (h : Text.isBlank c = true) : c.toLower = c := by
  apply Char.toLower_eq_of_not_isUpper
  simp [Text.isBlank, Text.blankCodes, Char.isUpper, UInt32.le_iff_toNat_le] at h ⊢
  omega

def Closed (s : List Char) : Prop := ∃ c ∈ s.getLast?, Text.isBlank c = false

lemma Closed.append (h : Closed t) (s : List Char) : Closed (s ++ t) := by
  obtain ⟨c, hc, hblank⟩ := h
  refine ⟨c, ?_, hblank⟩
  rw [List.getLast?_append, Option.mem_def.mp hc]
  rfl

lemma closed_of_forall (hne : s ≠ []) (h : ∀ c ∈ s, Text.isBlank c = false) : Closed s :=
  ⟨s.getLast hne, List.getLast?_eq_some_getLast hne, h _ (List.getLast_mem hne)⟩

lemma Numeral.closed {limit : Nat} (n : Numeral limit) : Closed n.digits := by
  refine closed_of_forall n.nonempty fun c hc => ?_
  have hdigit := n.decimal c hc
  cases hblank : Text.isBlank c with
  | false => rfl
  | true =>
    simp [Text.isBlank, Text.blankCodes, Char.isDigit, UInt32.le_iff_toNat_le] at hblank hdigit
    omega

lemma Spelling.closed {w : List Char} (hne : w ≠ []) (hw : w.any Text.isBlank = false) (a : Spelling w) :
    Closed a.text := by
  refine closed_of_forall ?_ fun c hc => ?_
  · intro hnil
    exact hne (by rw [← a.spells, hnil, List.map_nil])
  · have hmem : c.toLower ∈ w := a.spells ▸ List.mem_map_of_mem hc
    have hlower := List.any_eq_false.mp hw _ hmem
    cases hblank : Text.isBlank c with
    | false => rfl
    | true => exact absurd hblank (toLower_of_unicodeBlank hblank ▸ hlower)

lemma Quad.closed (q : Quad) : Closed q.text :=
  have hfourth := (q.fourth.closed.append ['.']).append q.third.digits
  have hthird := (hfourth.append ['.']).append q.second.digits
  (hthird.append ['.']).append q.first.digits

lemma Wording.closed (w : Wording) : Closed w.text := by
  cases w with
  | ipProtocol k n => exact n.closed.append _
  | net d k a n => exact (((n.closed.append ['/']).append _).append _).append _
  | portRange d t k m n _ => exact ((((n.closed.append ['-']).append _).append _).append _).append _
  | port d t k n => exact ((n.closed.append _).append _).append _
  | host d k a => exact (a.closed.append _).append _
  | protocol p w => exact w.closed (by cases p <;> decide) (by cases p <;> rfl)

mutual

theorem Tree.closed : ∀ {p : Part} (t : Tree p), Closed t.text
  | _, .primitive w => w.closed
  | _, .not o t => t.closed.append _
  | _, .paren front t back => by
    have hlast : Closed [')'] := ⟨')', rfl, by decide⟩
    exact (((hlast.append _).append _).append _).append ['(']
  | _, .chain t l => by
    rw [Tree.text]
    rcases l.nil_or_closed with hnil | hclosed
    · rw [hnil, List.append_nil]
      exact t.closed
    · exact hclosed.append _

theorem Tail.nil_or_closed : ∀ {c : Connective} (l : Tail c), l.text = [] ∨ Closed l.text
  | _, .done => .inl rfl
  | _, .next before o t l => by
    right
    rw [Tail.text]
    rcases l.nil_or_closed with hnil | hclosed
    · rw [hnil, List.append_nil]
      exact (t.closed.append _).append _
    · exact ((hclosed.append _).append _).append _

end

lemma Tree.trim_text {p : Part} (t : Tree p) : Text.trim t.text = t.text := by
  have hfront : Clear Text.isBlank t.text := by
    have hopens := t.opens []
    rw [List.append_nil] at hopens
    exact hopens.clear (fun _ => toLower_of_unicodeBlank) rfl
  have hback : Clear Text.isBlank t.text.reverse := by
    obtain ⟨c, hc, hblank⟩ := t.closed
    intro x hx
    rw [List.head?_reverse, Option.mem_def.mp hc] at hx
    rwa [← Option.some.inj hx]
  rw [Text.trim, dropWhile_of_clear hfront, dropWhile_of_clear hback, List.reverse_reverse]

end Trimming

section WellFormed

lemma Wording.wellFormed (w : Wording) : w.value.WellFormed := by
  cases w with
  | net d k a n => exact Nat.le_of_lt_succ n.below
  | portRange d t k m n h =>
    have hm : m.value < 65536 := m.below
    have hn : n.value < 65536 := n.below
    refine UInt16.le_iff_toNat_le.mpr ?_
    rw [UInt16.toNat_ofNat_of_lt' hm, UInt16.toNat_ofNat_of_lt' hn]
    exact h
  | ipProtocol | port | host | protocol => trivial

lemma Connective.wellFormed_join (c : Connective) {left right : Expr} (hleft : left.WellFormed)
    (hright : right.WellFormed) : (c.join left right).WellFormed := by
  cases c <;> exact ⟨hleft, hright⟩

mutual

theorem Tree.wellFormed : ∀ {p : Part} (t : Tree p), t.value.WellFormed
  | _, .primitive w => w.wellFormed
  | _, .not _ t => t.wellFormed
  | _, .paren _ t _ => t.wellFormed
  | _, .chain t l => l.wellFormed t.wellFormed

theorem Tail.wellFormed : ∀ {c : Connective} (l : Tail c) {left : Expr}, left.WellFormed → (l.value left).WellFormed
  | _, .done, _, h => h
  | c, .next _ _ t l, _, h => l.wellFormed (c.wellFormed_join h t.wellFormed)

end

end WellFormed

section Parentheses

lemma Spelling.paren_not_mem {w : List Char} (hw : '(' ∉ w) (a : Spelling w) : '(' ∉ a.text :=
  fun h => hw (a.spells ▸ List.mem_map_of_mem h)

lemma Keyword.paren_not_mem {w : List Char} (hw : '(' ∉ w) (k : Keyword w) : '(' ∉ k.text := by
  intro h
  rcases List.mem_append.mp h with h | h
  · exact k.spelling.paren_not_mem hw h
  · exact absurd (k.gap.blank _ h) (by decide)

lemma Qualifier.paren_not_mem {v w : List Char} (hv : '(' ∉ v) (hw : '(' ∉ w) (q : Qualifier v w) : '(' ∉ q.text := by
  cases q with
  | unsaid => exact List.not_mem_nil
  | first k => exact k.paren_not_mem hv
  | second k => exact k.paren_not_mem hw

lemma Numeral.paren_not_mem {limit : Nat} (n : Numeral limit) : '(' ∉ n.digits :=
  fun h => absurd (n.decimal _ h) (by decide)

lemma Quad.paren_not_mem (q : Quad) : '(' ∉ q.text := by
  simp [text, Numeral.paren_not_mem]

lemma Wording.paren_not_mem (w : Wording) : '(' ∉ w.text := by
  have hside (d : Side) : '(' ∉ d.text := d.paren_not_mem (by decide) (by decide)
  have hcarrier (t : Carrier) : '(' ∉ t.text := t.paren_not_mem (by decide) (by decide)
  cases w with
  | ipProtocol k n => simp [text, k.paren_not_mem (by decide), n.paren_not_mem]
  | net d k a n => simp [text, hside, k.paren_not_mem (by decide), a.paren_not_mem, n.paren_not_mem]
  | portRange d t k m n _ =>
    simp [text, hside, hcarrier, k.paren_not_mem (by decide), m.paren_not_mem, n.paren_not_mem]
  | port d t k n => simp [text, hside, hcarrier, k.paren_not_mem (by decide), n.paren_not_mem]
  | host d k a => simp [text, hside, k.paren_not_mem (by decide), a.paren_not_mem]
  | protocol p w => exact w.paren_not_mem (by cases p <;> decide)

def parens (s : List Char) : Nat := s.count '('

@[simp] lemma parens_append (s t : List Char) : parens (s ++ t) = parens s + parens t := List.count_append ..

lemma parens_print_primitive {t : Primitive} (h : t.WellFormed) : parens t.print = 0 := by
  obtain ⟨w, htext, -⟩ := exists_wording h
  rw [← htext]
  exact List.count_eq_zero.mpr w.paren_not_mem

lemma parens_enclose (bare : Bool) (s : List Char) : parens (enclose bare s) = (if bare then 0 else 1) + parens s := by
  cases bare
  · simp [enclose, parens, Nat.add_comm]
  · simp [enclose]

lemma parens_join (c : Connective) (left right : Expr) (p : Part) : parens ((c.join left right).print p) =
    (if p.admits c then 0 else 1) + (parens (left.print (.chain c)) + parens (right.print c.operand)) := by
  have hword : parens (' ' :: (c.word ++ ' ' :: right.print c.operand)) = parens (right.print c.operand) := by
    cases c <;> simp [parens, Connective.word]
  rw [print_join, parens_enclose, parens_append, hword]

lemma parens_print_mono (e : Expr) {p q : Part} (h : ∀ c, q.admits c = true → p.admits c = true) :
    parens (e.print p) ≤ parens (e.print q) := by
  have hjoin (c : Connective) (left right : Expr) :
      parens ((c.join left right).print p) ≤ parens ((c.join left right).print q) := by
    have hc : (if p.admits c then 0 else 1) ≤ if q.admits c then 0 else 1 := by
      cases hq : q.admits c with
      | true => simp [h c hq]
      | false => split <;> decide
    rw [parens_join, parens_join]
    exact Nat.add_le_add_right hc _
  cases e with
  | primitive | not => exact Nat.le_refl _
  | and left right => exact hjoin .and left right
  | or left right => exact hjoin .or left right

lemma Connective.admits_operand (c d : Connective) (h : c.operand.admits d = true) :
    (Part.chain c).admits d = true := by
  cases c <;> cases d <;> simp [Connective.operand, Part.admits] at h ⊢

lemma parens_print_le (e : Expr) (p q : Part) : parens (e.print p) ≤ 1 + parens (e.print q) := by
  have hjoin (c : Connective) (left right : Expr) :
      parens ((c.join left right).print p) ≤ 1 + parens ((c.join left right).print q) := by
    rw [parens_join, parens_join]
    split <;> omega
  cases e with
  | primitive | not => exact Nat.le_add_left _ _
  | and left right => exact hjoin .and left right
  | or left right => exact hjoin .or left right

mutual

theorem Tree.parens_le : ∀ {p : Part} (t : Tree p), parens (t.value.print p) ≤ parens t.text
  | _, .primitive w => by
    have hnone : parens (w.value.print) = 0 := parens_print_primitive w.wellFormed
    exact hnone ▸ Nat.zero_le _
  | _, .not o t => by
    have hoperand := t.parens_le
    have hprint : parens ((Expr.not t.value).print .factor) = parens (t.value.print .factor) := by
      simp [Expr.print, parens]
    rw [Tree.value, hprint, Tree.text, parens_append]
    omega
  | _, .paren front t back => by
    have hinner := t.parens_le
    have hfactor := parens_print_le t.value .factor (.chain .or)
    have htext : parens (Tree.paren front t back).text =
        1 + parens (front.text ++ (t.text ++ (back.text ++ [')']))) := by
      simp [Tree.text, parens, Nat.add_comm]
    rw [htext, Tree.value]
    simp only [parens_append]
    omega
  | _, .chain (c := c) t l => by
    have hfirst := t.parens_le
    have hchain := parens_print_mono t.value (p := .chain c) (q := c.operand) c.admits_operand
    have hothers := l.parens_le t.value
    rw [Tree.value, Tree.text, parens_append]
    omega

theorem Tail.parens_le : ∀ {c : Connective} (l : Tail c) (left : Expr),
    parens ((l.value left).print (.chain c)) ≤ parens (left.print (.chain c)) + parens l.text
  | _, .done, _ => Nat.le_add_right _ _
  | c, .next before o t l, left => by
    have hoperand := t.parens_le
    have hothers := l.parens_le (c.join left t.value)
    have hbare : (Part.chain c).admits c = true := by cases c <;> rfl
    rw [parens_join, if_pos hbare, Nat.zero_add] at hothers
    simp only [Tail.value, Tail.text, parens_append]
    omega

end

lemma parens_trim_le (s : List Char) : parens (Text.trim s) ≤ parens s := by
  have hfront := (List.dropWhile_sublist Text.isBlank (l := s)).count_le '('
  have hback := (List.dropWhile_sublist Text.isBlank (l := (s.dropWhile Text.isBlank).reverse)).count_le '('
  rw [List.count_reverse] at hback
  rw [Text.trim, parens, List.count_reverse]
  exact Nat.le_trans hback hfront

end Parentheses

lemma parses_text {e : Expr} (h : e.WellFormed) : ofText e.text = .ok ⟨e.text.toList, e⟩ := by
  obtain ⟨t, htext, hvalue⟩ := e.exists_tree h (.chain .or)
  have hprint : e.text.toList = t.text := by rw [Expr.text, String.toList_ofList, htext]
  have htrim : Text.trim e.text.toList = e.text.toList := by rw [hprint, t.trim_text]
  rw [ofText_tree t (hprint.symm.trans htrim.symm), htrim, hvalue]

theorem parses_print :
    (∀ e : Expr, e.WellFormed → ofText e.text = .ok ⟨e.text.toList, e⟩) ∧
    ∀ (text : String) (f : Filter), ofText text = .ok f →
      f.expr.WellFormed ∧ ofText f.expr.text = .ok ⟨f.expr.text.toList, f.expr⟩ ∧
        parens f.expr.text.toList ≤ parens text.toList := by
  refine ⟨fun e => parses_text, fun text f hf => ?_⟩
  obtain ⟨t, htext, hvalue⟩ := exists_tree hf
  have hwell : f.expr.WellFormed := hvalue ▸ t.wellFormed
  refine ⟨hwell, parses_text hwell, ?_⟩
  calc
    parens f.expr.text.toList = parens (t.value.print (.chain .or)) := by rw [hvalue, Expr.text, String.toList_ofList]
    _ ≤ parens t.text := t.parens_le
    _ = parens (Text.trim text.toList) := by rw [htext]
    _ ≤ parens text.toList := parens_trim_le _

theorem parses_print_negation :
    let e : Expr := .not (.or (.primitive (.protocol .tcp)) (.primitive (.portRange .destination none 1 2)))
    e.text = "not (tcp or dst portrange 1-2)" ∧ ofText e.text = .ok ⟨e.text.toList, e⟩ := by
  intro e
  exact ⟨by decide, parses_print.1 e (by decide)⟩

end CaptureSieve.Filter

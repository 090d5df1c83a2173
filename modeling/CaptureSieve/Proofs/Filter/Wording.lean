import CaptureSieve.Proofs.Filter.Pieces

/-!
How the tests of a filter are worded. The scanner tries one wording after the other, and none that it tries hides a
later one.

  primitive = "proto" n | side "net" address "/" n | side carrier "portrange" n "-" n | side carrier "port" n
            | side "host" address | protocol
-/

namespace CaptureSieve.Filter

open Scanner

/-- Behind blanks, the text has ended or goes on with one of the characters. -/
def Follows (heads s : List Char) : Prop := ∀ c ∈ opening (s.dropWhile isBlank), c ∈ heads

/-- What begins an operator, a closing parenthesis or the end of the text. -/
def factorEnds : List Char := [')', '|', 'o', '&', 'a']

lemma Follows.opening_ne {heads s : List Char} {c : Char} (h : Follows heads s) (hc : c ∉ heads) :
    opening (s.dropWhile isBlank) ≠ some c :=
  fun heq => hc (h c heq)

lemma Follows.opening_ne_self {heads s : List Char} {c : Char} (h : Follows heads s) (hc : c ∉ heads)
    (hblank : isBlank c = false) : opening s ≠ some c := by
  intro heq
  have hclear := clear_blank_of_opening heq hblank
  rw [← dropWhile_of_clear hclear] at heq
  exact h.opening_ne hc heq

lemma Follows.clear_digit {heads s : List Char} (h : Follows heads s) (hheads : heads.any Char.isDigit = false) :
    Clear Char.isDigit s := by
  intro c hc
  by_contra hdigit
  rw [Bool.not_eq_false] at hdigit
  have hopening : opening s = some c := by
    rw [opening, Option.mem_def.mp hc, Option.map_some, toLower_of_digit hdigit]
  have hmem : c ∉ heads := fun hmem => List.any_eq_false.mp hheads c hmem hdigit
  exact h.opening_ne_self hmem (not_blank_of_digit hdigit) hopening

def Protocol.word : Protocol → List Char
  | .tcp => ['t', 'c', 'p']
  | .udp => ['u', 'd', 'p']
  | .icmp => ['i', 'c', 'm', 'p']
  | .ip6 => ['i', 'p', '6']
  | .ip => ['i', 'p']

abbrev Side := Qualifier ['s', 'r', 'c'] ['d', 's', 't']

abbrev Carrier := Qualifier ['t', 'c', 'p'] ['u', 'd', 'p']

inductive Wording where
  | ipProtocol (keyword : Keyword ['p', 'r', 'o', 't', 'o']) (number : Numeral 256)
  | net (side : Side) (keyword : Keyword ['n', 'e', 't']) (address : Quad) (size : Numeral 33)
  | portRange (side : Side) (carrier : Carrier) (keyword : Keyword ['p', 'o', 'r', 't', 'r', 'a', 'n', 'g', 'e'])
      (first last : Numeral 65536) (ordered : first.value ≤ last.value)
  | port (side : Side) (carrier : Carrier) (keyword : Keyword ['p', 'o', 'r', 't']) (number : Numeral 65536)
  | host (side : Side) (keyword : Keyword ['h', 'o', 's', 't']) (address : Quad)
  | protocol (protocol : Protocol) (spelling : Spelling protocol.word)

def firstWords : List (List Char) :=
  [['p', 'r', 'o', 't', 'o'], ['s', 'r', 'c'], ['d', 's', 't'], ['n', 'e', 't'], ['h', 'o', 's', 't'],
   ['p', 'o', 'r', 't'], ['p', 'o', 'r', 't', 'r', 'a', 'n', 'g', 'e'],
   ['t', 'c', 'p'], ['u', 'd', 'p'], ['i', 'c', 'm', 'p'], ['i', 'p', '6'], ['i', 'p']]

def Side.direction (d : Side) : Direction := d.choose .source .destination .either

def Carrier.transport (t : Carrier) : Option Transport := t.choose (some .tcp) (some .udp) none

namespace Wording

def text : Wording → List Char
  | .ipProtocol k n => k.text ++ n.digits
  | .net d k a n => d.text ++ (k.text ++ (a.text ++ '/' :: n.digits))
  | .portRange d t k m n _ => d.text ++ (t.text ++ (k.text ++ (m.digits ++ '-' :: n.digits)))
  | .port d t k n => d.text ++ (t.text ++ (k.text ++ n.digits))
  | .host d k a => d.text ++ (k.text ++ a.text)
  | .protocol _ w => w.text

def value : Wording → Primitive
  | .ipProtocol _ n => .ipProtocol (UInt8.ofNat n.value)
  | .net d _ a n => .net d.direction ⟨a.value, n.value⟩
  | .portRange d t _ m n _ => .portRange d.direction t.transport (UInt16.ofNat m.value) (UInt16.ofNat n.value)
  | .port d t _ n => .port d.direction t.transport (UInt16.ofNat n.value)
  | .host d _ a => .host d.direction a.value
  | .protocol p _ => .protocol p

end Wording

section Alternatives

variable {s r r' : List Char} {d : Direction} {t : Option Transport}

lemma net_none (hd : direction s = some (d, r)) (h : keyword ['n', 'e', 't'] r = none) : net s = none := by
  rw [net, bind_of_some hd, bind_of_none h]

lemma portRange_none (hd : direction s = some (d, r)) (ht : transport r = some (t, r'))
    (h : keyword ['p', 'o', 'r', 't', 'r', 'a', 'n', 'g', 'e'] r' = none) : portRange s = none := by
  rw [portRange, bind_of_some hd, bind_of_some ht, bind_of_none h]

lemma port_none (hd : direction s = some (d, r)) (ht : transport r = some (t, r'))
    (h : keyword ['p', 'o', 'r', 't'] r' = none) : port s = none := by
  rw [port, bind_of_some hd, bind_of_some ht, bind_of_none h]

lemma host_none (hd : direction s = some (d, r)) (h : keyword ['h', 'o', 's', 't'] r = none) : host s = none := by
  rw [host, bind_of_some hd, bind_of_none h]

lemma direction_unsaid (hsrc : keyword ['s', 'r', 'c'] s = none) (hdst : keyword ['d', 's', 't'] s = none) :
    direction s = some (.either, s) := by
  rw [direction, orElse_of_none (bind_of_none hsrc), orElse_of_none (bind_of_none hdst)]
  rfl

lemma transport_unsaid (htcp : keyword ['t', 'c', 'p'] s = none) (hudp : keyword ['u', 'd', 'p'] s = none) :
    transport s = some (none, s) := by
  rw [transport, orElse_of_none (bind_of_none htcp), orElse_of_none (bind_of_none hudp)]
  rfl

end Alternatives

/-- A word that comes behind a side and a carrier and is none of them. -/
structure Subject (w : List Char) : Prop where
  apart : ∀ v ∈ [['s', 'r', 'c'], ['d', 's', 't'], ['t', 'c', 'p'], ['u', 'd', 'p']], Apart w v
  opens : ∃ c cs, w = c :: cs ∧ isBlank c = false

section Subject

variable {w r : List Char}

lemma Subject.clear_blank (hw : Subject w) (k : Keyword w) (r : List Char) : Clear isBlank (k.text ++ r) := by
  obtain ⟨c, cs, rfl, hc⟩ := hw.opens
  exact k.clear_blank hc r

lemma Side.scan (hw : Subject w) (d : Side) (k : Keyword w) (r : List Char) :
    Scanner.direction (d.text ++ (k.text ++ r)) = some (d.direction, k.text ++ r) := by
  apply Qualifier.scan d (by decide) (hw.clear_blank k r)
  · exact k.scan_none_of_apart (hw.apart _ (by simp)) r
  · exact k.scan_none_of_apart (hw.apart _ (by simp)) r

lemma Side.scan_carrier (hw : Subject w) (d : Side) (t : Carrier) (k : Keyword w) (r : List Char) :
    Scanner.direction (d.text ++ (t.text ++ (k.text ++ r))) = some (d.direction, t.text ++ (k.text ++ r)) := by
  apply Qualifier.scan d (by decide) (t.clear_blank rfl rfl (hw.clear_blank k r))
  · exact t.keyword_none (by decide) (by decide) (k.scan_none_of_apart (hw.apart _ (by simp)) r)
  · exact t.keyword_none (by decide) (by decide) (k.scan_none_of_apart (hw.apart _ (by simp)) r)

lemma Carrier.scan (hw : Subject w) (t : Carrier) (k : Keyword w) (r : List Char) :
    Scanner.transport (t.text ++ (k.text ++ r)) = some (t.transport, k.text ++ r) := by
  apply Qualifier.scan t (by decide) (hw.clear_blank k r)
  · exact k.scan_none_of_apart (hw.apart _ (by simp)) r
  · exact k.scan_none_of_apart (hw.apart _ (by simp)) r

lemma Carrier.keyword_none_of_apart {v : List Char} (t : Carrier) (k : Keyword w)
    (hv : ∀ u ∈ [['t', 'c', 'p'], ['u', 'd', 'p'], w], Apart u v) (r : List Char) :
    keyword v (t.text ++ (k.text ++ r)) = none :=
  t.keyword_none (hv _ (by simp)) (hv _ (by simp)) (k.scan_none_of_apart (hv _ (by simp)) r)

lemma subject_net : Subject ['n', 'e', 't'] := ⟨by decide, _, _, rfl, rfl⟩

lemma subject_portRange : Subject ['p', 'o', 'r', 't', 'r', 'a', 'n', 'g', 'e'] := ⟨by decide, _, _, rfl, rfl⟩

lemma subject_port : Subject ['p', 'o', 'r', 't'] := ⟨by decide, _, _, rfl, rfl⟩

lemma subject_host : Subject ['h', 'o', 's', 't'] := ⟨by decide, _, _, rfl, rfl⟩

end Subject

namespace Wording

variable {r s : List Char}

lemma ipProtocol_none (d : Side) {s : List Char} (h : keyword ['p', 'r', 'o', 't', 'o'] s = none) :
    Scanner.ipProtocol (d.text ++ s) = none :=
  bind_of_none (d.keyword_none (by decide) (by decide) h)

lemma scan_ipProtocol (k : Keyword ['p', 'r', 'o', 't', 'o']) (n : Numeral 256) (hr : Clear Char.isDigit r) :
    primitive ((ipProtocol k n).text ++ r) = some ((ipProtocol k n).value, r) := by
  rw [text, List.append_assoc]
  apply orElse_of_some
  rw [Scanner.ipProtocol, bind_of_some (k.scan (n.clear_blank r)), bind_of_some (n.scan hr)]
  rfl

lemma scan_net (d : Side) (k : Keyword ['n', 'e', 't']) (a : Quad) (n : Numeral 33) (hr : Clear Char.isDigit r) :
    primitive ((net d k a n).text ++ r) = some ((net d k a n).value, r) := by
  simp only [text, List.append_assoc, List.cons_append]
  have hproto := ipProtocol_none d (k.scan_none_of_apart (by decide) (a.text ++ '/' :: (n.digits ++ r)))
  rw [primitive, orElse_of_none hproto]
  apply orElse_of_some
  rw [Scanner.net, bind_of_some (Side.scan subject_net d k _), bind_of_some (k.scan (a.clear_blank _)),
    bind_of_some (a.scan (clear_cons (by decide) _)), bind_of_some (scan_char _ _), bind_of_some (n.scan hr)]
  rfl

lemma scan_portRange (d : Side) (t : Carrier) (k : Keyword ['p', 'o', 'r', 't', 'r', 'a', 'n', 'g', 'e'])
    (m n : Numeral 65536) (hmn : m.value ≤ n.value) (hr : Clear Char.isDigit r) :
    primitive ((portRange d t k m n hmn).text ++ r) = some ((portRange d t k m n hmn).value, r) := by
  simp only [text, List.append_assoc, List.cons_append]
  have hproto := ipProtocol_none d (t.keyword_none_of_apart k (by decide) (m.digits ++ '-' :: (n.digits ++ r)))
  have hside := Side.scan_carrier subject_portRange d t k (m.digits ++ '-' :: (n.digits ++ r))
  have hnet := net_none hside (t.keyword_none_of_apart k (by decide) _)
  rw [primitive, orElse_of_none hproto, orElse_of_none hnet]
  apply orElse_of_some
  rw [Scanner.portRange, bind_of_some hside, bind_of_some (Carrier.scan subject_portRange t k _),
    bind_of_some (k.scan (m.clear_blank _)), bind_of_some (m.scan (clear_cons (by decide) _)),
    bind_of_some (scan_char _ _), bind_of_some (n.scan hr), if_pos hmn]
  rfl

lemma scan_port (d : Side) (t : Carrier) (k : Keyword ['p', 'o', 'r', 't']) (n : Numeral 65536)
    (hr : Clear Char.isDigit r) : primitive ((port d t k n).text ++ r) = some ((port d t k n).value, r) := by
  simp only [text, List.append_assoc]
  have hproto := ipProtocol_none d (t.keyword_none_of_apart k (by decide) (n.digits ++ r))
  have hside := Side.scan_carrier subject_port d t k (n.digits ++ r)
  have hcarrier := Carrier.scan subject_port t k (n.digits ++ r)
  have hnet := net_none hside (t.keyword_none_of_apart k (by decide) _)
  have hrange := portRange_none hside hcarrier (k.scan_none_of_longer rfl ['a', 'n', 'g', 'e'] _)
  rw [primitive, orElse_of_none hproto, orElse_of_none hnet, orElse_of_none hrange]
  apply orElse_of_some
  rw [Scanner.port, bind_of_some hside, bind_of_some hcarrier, bind_of_some (k.scan (n.clear_blank _)),
    bind_of_some (n.scan hr)]
  rfl

lemma scan_host (d : Side) (k : Keyword ['h', 'o', 's', 't']) (a : Quad) (hr : Clear Char.isDigit r) :
    primitive ((host d k a).text ++ r) = some ((host d k a).value, r) := by
  simp only [text, List.append_assoc]
  have hproto := ipProtocol_none d (k.scan_none_of_apart (by decide) (a.text ++ r))
  have hside := Side.scan subject_host d k (a.text ++ r)
  have hcarrier := Carrier.scan subject_host .unsaid k (a.text ++ r)
  have hnet := net_none hside (k.scan_none_of_apart (by decide) _)
  have hrange := portRange_none hside hcarrier (k.scan_none_of_apart (by decide) _)
  have hport := port_none hside hcarrier (k.scan_none_of_apart (by decide) _)
  rw [primitive, orElse_of_none hproto, orElse_of_none hnet, orElse_of_none hrange, orElse_of_none hport]
  apply orElse_of_some
  rw [Scanner.host, bind_of_some hside, bind_of_some (k.scan (a.clear_blank _)), bind_of_some (a.scan hr)]
  rfl

/-- `tcp` and `udp` with blanks behind them look like the carrier of a port, but no port follows. -/
lemma transport_protocol (p : Protocol) (w : Spelling p.word) (hr : Follows factorEnds r) :
    ∃ t rest, Scanner.transport (w.text ++ r) = some (t, rest) ∧ opening rest ≠ some 'p' := by
  have hfirst : opening (w.text ++ r) ≠ some 'p' := by
    cases p <;> simp [Spelling.opening_text w r]
  have hbehind : opening (r.dropWhile isBlank) ≠ some 'p' := hr.opening_ne (by decide)
  have hkeyword (g : Gap) (hg : r = g.text ++ r.dropWhile isBlank) :
      keyword p.word (w.text ++ r) = some ((), r.dropWhile isBlank) := by
    have hscan := Keyword.scan ⟨w, g⟩ (clear_dropWhile isBlank r)
    rwa [Keyword.text, List.append_assoc, ← hg] at hscan
  cases p with
  | tcp =>
    rcases Gap.clear_or_exists r with hblank | ⟨g, hg⟩
    · have htcp := w.keyword_none_of_clear hblank
      have hudp := w.keyword_none_of_apart (w := ['u', 'd', 'p']) (by decide) r
      exact ⟨none, _, transport_unsaid htcp hudp, hfirst⟩
    · exact ⟨some .tcp, _, orElse_of_some (bind_of_some (hkeyword g hg)), hbehind⟩
  | udp =>
    have htcp := w.keyword_none_of_apart (w := ['t', 'c', 'p']) (by decide) r
    rcases Gap.clear_or_exists r with hblank | ⟨g, hg⟩
    · exact ⟨none, _, transport_unsaid htcp (w.keyword_none_of_clear hblank), hfirst⟩
    · refine ⟨some .udp, _, ?_, hbehind⟩
      rw [Scanner.transport, orElse_of_none (bind_of_none htcp)]
      exact orElse_of_some (bind_of_some (hkeyword g hg))
  | icmp | ip6 | ip =>
    have htcp := w.keyword_none_of_apart (w := ['t', 'c', 'p']) (by decide) r
    have hudp := w.keyword_none_of_apart (w := ['u', 'd', 'p']) (by decide) r
    exact ⟨none, _, transport_unsaid htcp hudp, hfirst⟩

lemma scan_protocol (p : Protocol) (w : Spelling p.word) (hr : Follows factorEnds r) :
    Scanner.protocol (w.text ++ r) = some (.protocol p, r) := by
  have hother {v : List Char} {q : Protocol} (hv : Apart p.word v) :
      (do word v; pure (Primitive.protocol q)) (w.text ++ r) = none := bind_of_none (w.scan_none_of_apart hv r)
  have hown : (do word p.word; pure (Primitive.protocol p)) (w.text ++ r) = some (.protocol p, r) :=
    bind_of_some (w.scan r)
  cases p with
  | tcp => exact orElse_of_some hown
  | udp =>
    rw [Scanner.protocol, orElse_of_none (hother (by decide))]
    exact orElse_of_some hown
  | icmp =>
    rw [Scanner.protocol, orElse_of_none (hother (by decide)), orElse_of_none (hother (by decide))]
    exact orElse_of_some hown
  | ip6 =>
    rw [Scanner.protocol, orElse_of_none (hother (by decide)), orElse_of_none (hother (by decide)),
      orElse_of_none (hother (by decide))]
    exact orElse_of_some hown
  | ip =>
    -- `ip6` goes on with a digit, which nothing that follows begins with
    have hlonger : word ['i', 'p', '6'] (w.text ++ r) = none :=
      (w.scan_append ['6'] r).trans (Spelling.scan_none (hr.opening_ne_self (by decide) (by decide)))
    rw [Scanner.protocol, orElse_of_none (hother (by decide)), orElse_of_none (hother (by decide)),
      orElse_of_none (hother (by decide)), orElse_of_none (bind_of_none hlonger)]
    exact hown

lemma scan_protocol_primitive (p : Protocol) (w : Spelling p.word) (hr : Follows factorEnds r) :
    primitive ((Wording.protocol p w).text ++ r) = some ((Wording.protocol p w).value, r) := by
  have hapart : ∀ v ∈ [['s', 'r', 'c'], ['d', 's', 't'], ['p', 'r', 'o', 't', 'o'], ['n', 'e', 't'],
      ['h', 'o', 's', 't']], Apart p.word v := by cases p <;> decide
  have hnone := fun v hv => w.keyword_none_of_apart (hapart v hv) r
  simp only [List.forall_mem_cons] at hnone
  obtain ⟨hsrc, hdst, hproto, hnet, hhost, -⟩ := hnone
  have hside := direction_unsaid hsrc hdst
  obtain ⟨t, rest, hcarrier, hport⟩ := transport_protocol p w hr
  have hproto : Scanner.ipProtocol (w.text ++ r) = none := bind_of_none hproto
  have hnet := net_none hside hnet
  have hrange := portRange_none hside hcarrier (Keyword.scan_none hport)
  have hport := port_none hside hcarrier (Keyword.scan_none hport)
  have hhost := host_none hside hhost
  rw [text, value, primitive, orElse_of_none hproto, orElse_of_none hnet, orElse_of_none hrange, orElse_of_none hport,
    orElse_of_none hhost, scan_protocol p w hr]

lemma scan (t : Wording) (hr : Follows factorEnds r) : primitive (t.text ++ r) = some (t.value, r) := by
  have hdigit : Clear Char.isDigit r := hr.clear_digit rfl
  cases t with
  | ipProtocol k n => exact scan_ipProtocol k n hdigit
  | net d k a n => exact scan_net d k a n hdigit
  | portRange d t k m n hmn => exact scan_portRange d t k m n hmn hdigit
  | port d t k n => exact scan_port d t k n hdigit
  | host d k a => exact scan_host d k a hdigit
  | protocol p w => exact scan_protocol_primitive p w hr

lemma of_direction {d : Direction} (h : Scanner.direction s = some (d, r)) :
    ∃ side : Side, s = side.text ++ r ∧ side.direction = d := Qualifier.of_scan h

lemma of_transport {t : Option Transport} (h : Scanner.transport s = some (t, r)) :
    ∃ carrier : Carrier, s = carrier.text ++ r ∧ carrier.transport = t := Qualifier.of_scan h

lemma of_ipProtocol {p : Primitive} (h : Scanner.ipProtocol s = some (p, r)) :
    ∃ t : Wording, s = t.text ++ r ∧ t.value = p := by
  obtain ⟨_, s₁, hk, h⟩ := bind_eq_some_iff.mp h
  obtain ⟨v, s₂, hn, h⟩ := bind_eq_some_iff.mp h
  obtain ⟨rfl, rfl⟩ := pure_eq_some_iff.mp h
  obtain ⟨k, rfl⟩ := Keyword.of_scan hk
  obtain ⟨n, rfl, rfl⟩ := Numeral.of_scan hn
  exact ⟨.ipProtocol k n, (List.append_assoc ..).symm, rfl⟩

lemma of_net {p : Primitive} (h : Scanner.net s = some (p, r)) : ∃ t : Wording, s = t.text ++ r ∧ t.value = p := by
  obtain ⟨_, s₁, hd, h⟩ := bind_eq_some_iff.mp h
  obtain ⟨_, s₂, hk, h⟩ := bind_eq_some_iff.mp h
  obtain ⟨_, s₃, ha, h⟩ := bind_eq_some_iff.mp h
  obtain ⟨_, s₄, hslash, h⟩ := bind_eq_some_iff.mp h
  obtain ⟨_, s₅, hn, h⟩ := bind_eq_some_iff.mp h
  obtain ⟨rfl, rfl⟩ := pure_eq_some_iff.mp h
  obtain ⟨d, rfl, rfl⟩ := of_direction hd
  obtain ⟨k, rfl⟩ := Keyword.of_scan hk
  obtain ⟨a, rfl, rfl⟩ := Quad.of_scan ha
  obtain rfl := of_scan_char hslash
  obtain ⟨n, rfl, rfl⟩ := Numeral.of_scan hn
  exact ⟨.net d k a n, by simp only [text, List.append_assoc, List.cons_append], rfl⟩

lemma of_portRange {p : Primitive} (h : Scanner.portRange s = some (p, r)) :
    ∃ t : Wording, s = t.text ++ r ∧ t.value = p := by
  obtain ⟨_, s₁, hd, h⟩ := bind_eq_some_iff.mp h
  obtain ⟨_, s₂, ht, h⟩ := bind_eq_some_iff.mp h
  obtain ⟨_, s₃, hk, h⟩ := bind_eq_some_iff.mp h
  obtain ⟨_, s₄, hm, h⟩ := bind_eq_some_iff.mp h
  obtain ⟨_, s₅, hdash, h⟩ := bind_eq_some_iff.mp h
  obtain ⟨_, s₆, hn, h⟩ := bind_eq_some_iff.mp h
  obtain ⟨d, rfl, rfl⟩ := of_direction hd
  obtain ⟨t, rfl, rfl⟩ := of_transport ht
  obtain ⟨k, rfl⟩ := Keyword.of_scan hk
  obtain ⟨m, rfl, rfl⟩ := Numeral.of_scan hm
  obtain rfl := of_scan_char hdash
  obtain ⟨n, rfl, rfl⟩ := Numeral.of_scan hn
  split at h
  · next hmn =>
    obtain ⟨rfl, rfl⟩ := pure_eq_some_iff.mp h
    exact ⟨.portRange d t k m n hmn, by simp only [text, List.append_assoc, List.cons_append], rfl⟩
  · simp [fail] at h

lemma of_port {p : Primitive} (h : Scanner.port s = some (p, r)) : ∃ t : Wording, s = t.text ++ r ∧ t.value = p := by
  obtain ⟨_, s₁, hd, h⟩ := bind_eq_some_iff.mp h
  obtain ⟨_, s₂, ht, h⟩ := bind_eq_some_iff.mp h
  obtain ⟨_, s₃, hk, h⟩ := bind_eq_some_iff.mp h
  obtain ⟨_, s₄, hn, h⟩ := bind_eq_some_iff.mp h
  obtain ⟨rfl, rfl⟩ := pure_eq_some_iff.mp h
  obtain ⟨d, rfl, rfl⟩ := of_direction hd
  obtain ⟨t, rfl, rfl⟩ := of_transport ht
  obtain ⟨k, rfl⟩ := Keyword.of_scan hk
  obtain ⟨n, rfl, rfl⟩ := Numeral.of_scan hn
  exact ⟨.port d t k n, by simp only [text, List.append_assoc], rfl⟩

lemma of_host {p : Primitive} (h : Scanner.host s = some (p, r)) : ∃ t : Wording, s = t.text ++ r ∧ t.value = p := by
  obtain ⟨_, s₁, hd, h⟩ := bind_eq_some_iff.mp h
  obtain ⟨_, s₂, hk, h⟩ := bind_eq_some_iff.mp h
  obtain ⟨_, s₃, ha, h⟩ := bind_eq_some_iff.mp h
  obtain ⟨rfl, rfl⟩ := pure_eq_some_iff.mp h
  obtain ⟨d, rfl, rfl⟩ := of_direction hd
  obtain ⟨k, rfl⟩ := Keyword.of_scan hk
  obtain ⟨a, rfl, rfl⟩ := Quad.of_scan ha
  exact ⟨.host d k a, by simp only [text, List.append_assoc], rfl⟩

lemma of_protocol {p : Primitive} (h : Scanner.protocol s = some (p, r)) :
    ∃ t : Wording, s = t.text ++ r ∧ t.value = p := by
  have hword (q : Protocol) (hq : (do word q.word; pure (Primitive.protocol q)) s = some (p, r)) :
      ∃ t : Wording, s = t.text ++ r ∧ t.value = p := by
    obtain ⟨_, mid, hw, hq⟩ := bind_eq_some_iff.mp hq
    obtain ⟨rfl, rfl⟩ := pure_eq_some_iff.mp hq
    obtain ⟨w, rfl⟩ := Spelling.of_scan hw
    exact ⟨.protocol q w, rfl, rfl⟩
  rcases orElse_eq_some_iff.mp h with h | ⟨-, h⟩
  · exact hword .tcp h
  rcases orElse_eq_some_iff.mp h with h | ⟨-, h⟩
  · exact hword .udp h
  rcases orElse_eq_some_iff.mp h with h | ⟨-, h⟩
  · exact hword .icmp h
  rcases orElse_eq_some_iff.mp h with h | ⟨-, h⟩
  · exact hword .ip6 h
  · exact hword .ip h

lemma of_scan {p : Primitive} (h : primitive s = some (p, r)) : ∃ t : Wording, s = t.text ++ r ∧ t.value = p := by
  rcases orElse_eq_some_iff.mp h with h | ⟨-, h⟩
  · exact of_ipProtocol h
  rcases orElse_eq_some_iff.mp h with h | ⟨-, h⟩
  · exact of_net h
  rcases orElse_eq_some_iff.mp h with h | ⟨-, h⟩
  · exact of_portRange h
  rcases orElse_eq_some_iff.mp h with h | ⟨-, h⟩
  · exact of_port h
  rcases orElse_eq_some_iff.mp h with h | ⟨-, h⟩
  · exact of_host h
  · exact of_protocol h

lemma side_unique {a b : Side} (hdirection : a.direction = b.direction) (hr : Clear isBlank r) (hs : Clear isBlank s)
    (h : a.text ++ r = b.text ++ s) : a = b ∧ r = s :=
  Qualifier.unique (by decide) (by decide) (by decide) hdirection hr hs h

lemma carrier_unique {a b : Carrier} (htransport : a.transport = b.transport) (hr : Clear isBlank r)
    (hs : Clear isBlank s) (h : a.text ++ r = b.text ++ s) : a = b ∧ r = s :=
  Qualifier.unique (by decide) (by decide) (by decide) htransport hr hs h

lemma unique_of_value {t u : Wording} (hvalue : t.value = u.value) (hr : Clear Char.isDigit r)
    (hs : Clear Char.isDigit s) (h : t.text ++ r = u.text ++ s) : t = u := by
  have hdash : ∀ x, Clear Char.isDigit ('-' :: x) := clear_cons rfl
  have hslash : ∀ x, Clear Char.isDigit ('/' :: x) := clear_cons rfl
  -- equal values are worded alike, and then each piece ends where the next one begins
  cases t <;> cases u <;> simp only [value, Primitive.ipProtocol.injEq, Primitive.net.injEq, Primitive.portRange.injEq,
    Primitive.port.injEq, Primitive.host.injEq, Primitive.protocol.injEq, reduceCtorEq] at hvalue <;>
    simp only [text, List.append_assoc, List.cons_append] at h
  case ipProtocol.ipProtocol k n k' n' =>
    obtain ⟨rfl, hnumber⟩ := Keyword.unique (n.clear_blank r) (n'.clear_blank s) h
    obtain ⟨rfl, -⟩ := Numeral.unique hr hs hnumber
    rfl
  case net.net d k a n d' k' a' n' =>
    obtain ⟨rfl, hkeyword⟩ := side_unique hvalue.1 (k.clear_blank rfl _) (k'.clear_blank rfl _) h
    obtain ⟨rfl, haddress⟩ := Keyword.unique (a.clear_blank _) (a'.clear_blank _) hkeyword
    obtain ⟨rfl, hsize⟩ := Quad.unique (hslash _) (hslash _) haddress
    obtain ⟨rfl, -⟩ := Numeral.unique hr hs (List.cons.inj hsize).2
    rfl
  case portRange.portRange d t k m n _ d' t' k' m' n' _ =>
    have hclear := t.clear_blank rfl rfl (k.clear_blank rfl (m.digits ++ '-' :: (n.digits ++ r)))
    have hclear' := t'.clear_blank rfl rfl (k'.clear_blank rfl (m'.digits ++ '-' :: (n'.digits ++ s)))
    obtain ⟨rfl, hcarrier⟩ := side_unique hvalue.1 hclear hclear' h
    obtain ⟨rfl, hkeyword⟩ := carrier_unique hvalue.2.1 (k.clear_blank rfl _) (k'.clear_blank rfl _) hcarrier
    obtain ⟨rfl, hfirst⟩ := Keyword.unique (m.clear_blank _) (m'.clear_blank _) hkeyword
    obtain ⟨rfl, hlast⟩ := Numeral.unique (hdash _) (hdash _) hfirst
    obtain ⟨rfl, -⟩ := Numeral.unique hr hs (List.cons.inj hlast).2
    rfl
  case port.port d t k n d' t' k' n' =>
    have hclear := t.clear_blank rfl rfl (k.clear_blank rfl (n.digits ++ r))
    have hclear' := t'.clear_blank rfl rfl (k'.clear_blank rfl (n'.digits ++ s))
    obtain ⟨rfl, hcarrier⟩ := side_unique hvalue.1 hclear hclear' h
    obtain ⟨rfl, hkeyword⟩ := carrier_unique hvalue.2.1 (k.clear_blank rfl _) (k'.clear_blank rfl _) hcarrier
    obtain ⟨rfl, hnumber⟩ := Keyword.unique (n.clear_blank _) (n'.clear_blank _) hkeyword
    obtain ⟨rfl, -⟩ := Numeral.unique hr hs hnumber
    rfl
  case host.host d k a d' k' a' =>
    obtain ⟨rfl, hkeyword⟩ := side_unique hvalue.1 (k.clear_blank rfl _) (k'.clear_blank rfl _) h
    obtain ⟨rfl, haddress⟩ := Keyword.unique (a.clear_blank _) (a'.clear_blank _) hkeyword
    obtain ⟨rfl, -⟩ := Quad.unique hr hs haddress
    rfl
  case protocol.protocol p w p' w' =>
    subst hvalue
    obtain ⟨rfl, -⟩ := Spelling.unique h
    rfl

lemma unique {t u : Wording} (hr : Follows factorEnds r) (hs : Follows factorEnds s)
    (h : t.text ++ r = u.text ++ s) : t = u ∧ r = s := by
  have hscan := t.scan hr
  rw [h, u.scan hs] at hscan
  obtain ⟨hvalue, hrest⟩ := Prod.mk.inj (Option.some.inj hscan)
  exact ⟨unique_of_value hvalue.symm (hr.clear_digit rfl) (hs.clear_digit rfl) h, hrest.symm⟩

lemma begins (t : Wording) (r : List Char) : Begins firstWords (t.text ++ r) := by
  cases t <;> simp only [text, List.append_assoc]
  case ipProtocol k n => exact k.begins (by decide) _
  case net d k a n => exact d.begins (by decide) (by decide) (k.begins (by decide) _)
  case portRange d t k m n _ =>
    exact d.begins (by decide) (by decide) (t.begins (by decide) (by decide) (k.begins (by decide) _))
  case port d t k n =>
    exact d.begins (by decide) (by decide) (t.begins (by decide) (by decide) (k.begins (by decide) _))
  case host d k a => exact d.begins (by decide) (by decide) (k.begins (by decide) _)
  case protocol p w => exact ⟨p.word, by cases p <;> decide, w, r, rfl⟩

lemma opens (t : Wording) (r : List Char) : Opens ['p', 's', 'd', 'n', 't', 'u', 'h', 'i'] (t.text ++ r) :=
  (t.begins r).opens (by decide)

/-- `net` and `not` begin alike, but a negation is no wording. -/
lemma notOperator_none (t : Wording) (r : List Char) : notOperator (t.text ++ r) = none := by
  have hsign : opening (t.text ++ r) ≠ some '!' := (t.opens r).ne (by decide)
  rw [notOperator, orElse_of_none ((t.begins r).keyword_none (by decide))]
  exact bind_of_none (char_none hsign)

end Wording

end CaptureSieve.Filter

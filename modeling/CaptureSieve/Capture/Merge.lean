import CaptureSieve.Capture.Source

/-!
Two sources as one in the order of time: traffic, and optionally DNS packets to go between.
-/

namespace CaptureSieve

inductive Lookahead where
  | unknown
  | packet (r : Record)
  | exhausted

/-- Of equal times the DNS packet goes first. The end of the traffic is the end of the merge. -/
structure Merge where
  traffic : Source
  dns : Option Source
  dnsHead : Lookahead
  overtaken : Option Record
  peeked : Option Record

namespace Merge

def ofSources (traffic : Source) (dns : Option Source) : Merge := ⟨traffic, dns, .unknown, none, none⟩

def dnsSource (s : ByteStream) : Except SourceError Source :=
  match Filter.ofText Filter.dnsText with
  | .error e => .error (.filter e)
  | .ok filter => Source.ofStream s (some filter)

def lookAhead (m : Merge) : Call Merge Unit :=
  match m.dnsHead with
  | .unknown =>
    match m.dns with
    | none => .ok () { m with dnsHead := .exhausted }
    | some source =>
      let c := source.next
      match c.answer with
      | .error e => ⟨.error e, { m with dns := some c.state }, c.warnings⟩
      | .ok (some r) => ⟨.ok (), { m with dns := some c.state, dnsHead := .packet r }, c.warnings⟩
      | .ok none => ⟨.ok (), { m with dns := none, dnsHead := .exhausted }, c.warnings⟩
  | _ => .ok () m

def exhaust (m : Merge) : Merge := { m with traffic := m.traffic.close, dns := none, dnsHead := .exhausted }

def inTurn (t : Record) (m : Merge) : Call Merge (Option Record) :=
  match m.dnsHead with
  | .packet d =>
    if d.time ≤ t.time then .ok (some d) { m with dnsHead := .unknown, overtaken := some t } else .ok (some t) m
  | _ => .ok (some t) m

def advance (m : Merge) : Call Merge (Option Record) :=
  match m.overtaken with
  | some t => inTurn t { m with overtaken := none }
  | none =>
    (m.traffic.next.within fun traffic => { m with traffic }).andThen fun t m =>
      match t with
      | some t => inTurn t m
      | none => .ok none m.exhaust

def next (m : Merge) : Call Merge (Option Record) :=
  match m.peeked with
  | some r => .ok (some r) { m with peeked := none }
  | none => m.lookAhead.andThen fun _ m => m.advance

def peek (m : Merge) : Call Merge (Option Record) :=
  match m.peeked with
  | some r => .ok (some r) m
  | none => m.next.andThen fun r m => .ok r { m with peeked := r }

def Lookahead.weight : Lookahead → Nat
  | .packet _ => 1
  | _ => 0

def held : Option Record → Nat
  | some _ => 1
  | none => 0

def weight (m : Merge) : Nat :=
  m.traffic.weight + (match m.dns with | some s => s.weight | none => 0) + Lookahead.weight m.dnsHead +
    held m.overtaken + held m.peeked

theorem lookAhead_weight_le {m : Merge} (h : m.lookAhead.answer = .ok ()) :
    m.lookAhead.state.weight ≤ m.weight := by
  unfold lookAhead at h ⊢
  split
  · next hs =>
    split
    · simp [Call.ok, weight, hs, Lookahead.weight]
    · next source hd =>
      dsimp only
      split
      · next e he => simp [hs, hd, he] at h
      · next r hr =>
        have := Source.next_weight_lt hr
        simp only [weight, hs, hd, Lookahead.weight]
        omega
      · simp only [weight, hs, hd, Lookahead.weight]
        omega
  · simp [Call.ok]

theorem inTurn_weight_le (t : Record) {m : Merge} (hm : m.overtaken = none) :
    (inTurn t m).state.weight ≤ m.weight := by
  unfold inTurn
  split
  · next d hs =>
    split
    · simp only [Call.ok, weight, hs, hm, Lookahead.weight, held]
      omega
    · simp [Call.ok]
  · simp [Call.ok]

theorem advance_weight_lt {m : Merge} {r : Record} (h : m.advance.answer = .ok (some r)) :
    m.advance.state.weight < m.weight := by
  unfold advance at h ⊢
  split
  · next t ht =>
    have := inTurn_weight_le t (m := { m with overtaken := none }) rfl
    simp only [weight, ht, held] at this ⊢
    omega
  · next hd =>
    simp only [hd, Call.andThen, Call.within] at h ⊢
    split
    · next e he => simp [he] at h
    · next t ht =>
      simp only [ht] at h
      cases t with
      | none => simp [Call.ok] at h
      | some t =>
        have light := Source.next_weight_lt ht
        have := inTurn_weight_le t (m := { m with traffic := m.traffic.next.state }) hd
        simp only [weight, hd, held] at this ⊢
        omega

theorem next_weight_lt {m : Merge} {r : Record} (h : m.next.answer = .ok (some r)) :
    m.next.state.weight < m.weight := by
  unfold next at h ⊢
  split
  · next hp =>
    simp only [Call.ok, weight, hp, held]
    omega
  · next hp =>
    simp only [hp, Call.andThen] at h ⊢
    split
    · next e he => simp [he] at h
    · next u hu =>
      simp only [hu] at h
      exact Nat.lt_of_lt_of_le (advance_weight_lt h) (lookAhead_weight_le hu)

def drain (m : Merge) : Drained Merge Record :=
  let c := m.next
  match h : c.answer with
  | .error e => ⟨[], some e, c.state, c.warnings⟩
  | .ok none => ⟨[], none, c.state, c.warnings⟩
  | .ok (some r) =>
    have _lighter := next_weight_lt h
    let rest := drain c.state
    { rest with items := r :: rest.items, warnings := c.warnings ++ rest.warnings }
termination_by m.weight

end Merge

end CaptureSieve

import CaptureSieve.Proofs.Capture.Interleaving
import CaptureSieve.Proofs.Capture.Times

/-!
The order of time in a merge of two sources that are in the order of time themselves.
-/

namespace CaptureSieve

inductive Origin where
  | traffic
  | dns
  deriving DecidableEq

abbrev Labelled := Origin × Record

def labelled : List Record → List Record → List Labelled
  | [], _ => []
  | t :: ts, [] => (.traffic, t) :: labelled ts []
  | t :: ts, d :: ds =>
    if d.time ≤ t.time then (.dns, d) :: labelled (t :: ts) ds else (.traffic, t) :: labelled ts (d :: ds)
termination_by ts ds => ts.length + ds.length

def ofOrigin (o : Origin) (l : List Labelled) : List Record := (l.filter (·.1 = o)).map Prod.snd

def InTimeOrder (records : List Record) : Prop := records.Pairwise (·.time ≤ ·.time)

instance (records : List Record) : Decidable (InTimeOrder records) := inferInstanceAs (Decidable (List.Pairwise _ _))

def byLast (ts : List Record) (d : Record) : Bool := ts.getLast?.any (d.time ≤ ·.time)

def MayPrecede (a b : Labelled) : Prop :=
  a.2.time ≤ b.2.time ∧ (a.1 = .traffic → b.1 = .dns → ¬ b.2.time ≤ a.2.time)

section Labelled

variable {ts ds : List Record} {t d r : Record}

lemma map_labelled (ts ds : List Record) : (labelled ts ds).map Prod.snd = interleave ts ds := by
  fun_induction labelled ts ds with
  | case1 ds => exact (interleave_nil ds).symm
  | case2 t ts ih => rw [List.map_cons, ih, interleave_nil_right, interleave_nil_right]
  | case3 t ts d ds hle ih => rw [List.map_cons, ih, interleave_of_le hle]
  | case4 t ts d ds hle ih => rw [List.map_cons, ih, interleave_of_not_le hle]

@[simp] lemma ofOrigin_nil (o : Origin) : ofOrigin o [] = [] := rfl

@[simp] lemma ofOrigin_cons_self (o : Origin) (r : Record) (l : List Labelled) :
    ofOrigin o ((o, r) :: l) = r :: ofOrigin o l := by
  simp [ofOrigin]

lemma ofOrigin_cons_of_ne {o p : Origin} (h : p ≠ o) (r : Record) (l : List Labelled) :
    ofOrigin o ((p, r) :: l) = ofOrigin o l := by
  simp [ofOrigin, h]

@[simp] lemma ofOrigin_dns_cons (r : Record) (l : List Labelled) :
    ofOrigin .dns ((.traffic, r) :: l) = ofOrigin .dns l := ofOrigin_cons_of_ne (by decide) r l

@[simp] lemma ofOrigin_traffic_cons (r : Record) (l : List Labelled) :
    ofOrigin .traffic ((.dns, r) :: l) = ofOrigin .traffic l := ofOrigin_cons_of_ne (by decide) r l

lemma traffic_labelled (ts ds : List Record) : ofOrigin .traffic (labelled ts ds) = ts := by
  fun_induction labelled ts ds with
  | case1 ds => rfl
  | case2 t ts ih => rw [ofOrigin_cons_self, ih]
  | case3 t ts d ds hle ih => rw [ofOrigin_traffic_cons, ih]
  | case4 t ts d ds hle ih => rw [ofOrigin_cons_self, ih]

lemma byLast_cons_cons (t u : Record) (ts : List Record) : byLast (t :: u :: ts) = byLast (u :: ts) := by
  funext d
  simp only [byLast, List.getLast?_cons_cons]

lemma byLast_of_le (hts : InTimeOrder (t :: ts)) (h : d.time ≤ t.time) : byLast (t :: ts) d = true := by
  induction ts generalizing t with
  | nil => simpa [byLast] using h
  | cons u ts ih =>
    rw [byLast_cons_cons]
    apply ih hts.of_cons
    exact Nat.le_trans h (List.rel_of_pairwise_cons hts (List.mem_cons_self ..))

lemma dns_labelled (hts : InTimeOrder ts) (hds : InTimeOrder ds) :
    ofOrigin .dns (labelled ts ds) = ds.filter (byLast ts) := by
  fun_induction labelled ts ds with
  | case1 ds => simp [byLast]
  | case2 t ts ih =>
    rw [ofOrigin_dns_cons]
    exact ih hts.of_cons .nil
  | case3 t ts d ds hle ih =>
    rw [ofOrigin_cons_self, ih hts hds.of_cons, List.filter_cons_of_pos (byLast_of_le hts hle)]
  | case4 t ts d ds hle ih =>
    rw [ofOrigin_dns_cons, ih hts.of_cons hds]
    cases ts with
    | cons u ts => rw [byLast_cons_cons]
    | nil =>
      -- All that is left of the DNS packets is later than the last of the traffic.
      have hlate : ∀ e ∈ d :: ds, ¬ e.time ≤ t.time := by
        intro e he hearly
        rcases List.mem_cons.mp he with rfl | he
        · exact hle hearly
        · exact hle (Nat.le_trans (List.rel_of_pairwise_cons hds he) hearly)
      rw [List.filter_eq_nil_iff.mpr (by simp [byLast]), List.filter_eq_nil_iff.mpr (by simpa [byLast] using hlate)]

lemma mem_labelled {x : Labelled} (h : x ∈ labelled ts ds) :
    x.1 = .traffic ∧ x.2 ∈ ts ∨ x.1 = .dns ∧ x.2 ∈ ds := by
  fun_induction labelled ts ds with
  | case1 ds => simp at h
  | case2 t ts ih =>
    rcases List.mem_cons.mp h with rfl | h
    · exact .inl ⟨rfl, List.mem_cons_self ..⟩
    · apply (ih h).imp_left
      exact fun ⟨ho, hmem⟩ => ⟨ho, List.mem_cons_of_mem _ hmem⟩
  | case3 t ts d ds hle ih =>
    rcases List.mem_cons.mp h with rfl | h
    · exact .inr ⟨rfl, List.mem_cons_self ..⟩
    · apply (ih h).imp_right
      exact fun ⟨ho, hmem⟩ => ⟨ho, List.mem_cons_of_mem _ hmem⟩
  | case4 t ts d ds hle ih =>
    rcases List.mem_cons.mp h with rfl | h
    · exact .inl ⟨rfl, List.mem_cons_self ..⟩
    · apply (ih h).imp_left
      exact fun ⟨ho, hmem⟩ => ⟨ho, List.mem_cons_of_mem _ hmem⟩

lemma le_of_mem_cons {rs : List Record} (h : InTimeOrder (t :: rs)) (hr : r ∈ t :: rs) : t.time ≤ r.time := by
  rcases List.mem_cons.mp hr with rfl | hr
  · exact Nat.le_refl _
  · exact List.rel_of_pairwise_cons h hr

lemma pairwise_labelled (hts : InTimeOrder ts) (hds : InTimeOrder ds) :
    (labelled ts ds).Pairwise MayPrecede := by
  fun_induction labelled ts ds with
  | case1 ds => exact .nil
  | case2 t ts ih =>
    apply List.Pairwise.cons
    · intro x hx
      rcases mem_labelled hx with ⟨ho, hmem⟩ | ⟨-, hmem⟩
      · exact ⟨List.rel_of_pairwise_cons hts hmem, by simp [ho]⟩
      · simp at hmem
    · exact ih hts.of_cons .nil
  | case3 t ts d ds hle ih =>
    apply List.Pairwise.cons
    · intro x hx
      rcases mem_labelled hx with ⟨-, hmem⟩ | ⟨-, hmem⟩
      · exact ⟨Nat.le_trans hle (le_of_mem_cons hts hmem), by simp⟩
      · exact ⟨List.rel_of_pairwise_cons hds hmem, by simp⟩
    · exact ih hts hds.of_cons
  | case4 t ts d ds hle ih =>
    apply List.Pairwise.cons
    · intro x hx
      rcases mem_labelled hx with ⟨ho, hmem⟩ | ⟨-, hmem⟩
      · exact ⟨List.rel_of_pairwise_cons hts hmem, by simp [ho]⟩
      · have hlater : d.time ≤ x.2.time := le_of_mem_cons hds hmem
        simp only [MayPrecede, Instant.le_iff] at hle hlater ⊢
        omega
    · exact ih hts.of_cons hds

end Labelled

namespace Source

/-- A source that was opened from some stream, whatever has been asked of it since. -/
inductive Reached : Source → Prop
  | opened {stream : ByteStream} {filter : Option Filter} {s : Source} (h : ofStream stream filter = .ok s) : Reached s
  | asked {s : Source} (h : Reached s) (a : Ask) : Reached (ask a s).state
  | closed {s : Source} (h : Reached s) : Reached s.close

lemma records_of_ask (a : Ask) (s : Source) : (ask a s).state.outlook.records <:+ s.outlook.records := by
  rw [ask_eq_askBy]
  cases hr : (s.restockBy batchSize).answer with
  | error e =>
    have hsame : (askBy batchSize a s).state.outlook = s.outlook := by
      rw [(askBy_of_error hr a).2, restockBy_outlook]
    exact hsame ▸ List.suffix_rfl
  | ok u =>
    rw [(askBy_of_ok (by decide) hr a).2]
    cases a with
    | next => exact List.tail_suffix _
    | peek => exact List.suffix_rfl

lemma rounds_of_reached {s : Source} (h : Reached s) : ∀ r ∈ s.outlook.records, r.time.Rounds := by
  induction h with
  | opened h => exact rounds_of_ofStream h
  | asked h a ih =>
    intro r hr
    apply ih
    exact (records_of_ask a _).subset hr
  | closed h ih => simp

end Source

end CaptureSieve

import CaptureSieve.Proofs.Capture.Cursor

/-!
The search for the next record pass by pass. Every pass that does not return takes bytes, reads bytes or meets the end,
and there are only so many of these; so the search returns, and with what the reader gives.
-/

namespace CaptureSieve

section Loops

variable {σ ρ : Type}

inductive Pass (σ ρ : Type) where
  | again (next : σ)
  | returned (result : ρ)

/-- Begun at `s`, the loop returns `r` in its `n`th pass. -/
inductive Returns (pass : σ → Pass σ ρ) : σ → Nat → ρ → Prop
  | now {s : σ} {r : ρ} (h : pass s = .returned r) : Returns pass s 1 r
  | later {s t : σ} {n : Nat} {r : ρ} (h : pass s = .again t) (rest : Returns pass t n r) : Returns pass s (n + 1) r

variable {pass : σ → Pass σ ρ}

lemma exists_returns (measure : σ → Nat) (h : ∀ {s t}, pass s = .again t → measure t < measure s) (s : σ) :
    ∃ n r, n ≤ measure s + 1 ∧ Returns pass s n r := by
  induction hn : measure s using Nat.strongRecOn generalizing s with
  | ind k ih =>
    cases hs : pass s with
    | returned r => exact ⟨1, r, Nat.le_add_left 1 k, .now hs⟩
    | again t =>
      have hless : measure t < k := hn ▸ h hs
      obtain ⟨n, r, hle, hreturns⟩ := ih (measure t) hless t rfl
      exact ⟨n + 1, r, by omega, .later hs hreturns⟩

lemma Returns.keeps {I : σ → Prop} (step : ∀ {s t}, pass s = .again t → I s → I t) {s : σ} {n : Nat} {r : ρ}
    (h : Returns pass s n r) (hs : I s) : ∃ t, I t ∧ pass t = .returned r := by
  induction h with
  | now h => exact ⟨_, hs, h⟩
  | later h rest ih => exact ih (step h hs)

end Loops

namespace Intake

inductive Look (α : Type) where
  | frame (value : α) (next : Intake)
  | readOn (next : Intake) (ended : Bool)
  | finished
  | truncated
  | failed (fault : Fault)

variable {α : Type}

def refill (s : Intake) : Look α :=
  if bufferSize ≤ s.buffered then .readOn s false
  else if 0 < s.unread then .readOn s.readMore false
  else
    match s.ending with
    | .broken _ => .failed .readFailed
    | .closed => .readOn s true

def look (scan : Framing α) (ended : Bool) (s : Intake) : Look α :=
  if ended ∧ s.buffered = 0 then .finished
  else
    match scan s.rest s.buffered with
    | .found value size _ _ => .frame value (s.consume size)
    | .faulty fault => .failed fault
    | .missing count =>
      if ended then .truncated
      else if bufferSize ≤ s.buffered + count then .failed .bufferFull
      else s.refill

def softEnd (s : Intake) : Fetched α := if s.buffered = 0 then .finished else .truncated

inductive Looks (scan : Framing α) (s : Intake) : Bool → Look α → Prop
  | frame {ended : Bool} {value : α} {size : Nat} (pos : 0 < size) (le : size ≤ s.buffered)
      (fetch : s.fetch scan = .frame value (s.consume size)) : Looks scan s ended (.frame value (s.consume size))
  | read (room : s.buffered < bufferSize) (more : 0 < s.unread) (fetch : s.fetch scan = s.readMore.fetch scan) :
      Looks scan s false (.readOn s.readMore false)
  | ends {count : Nat} (done : s.unread = 0) (fetch : s.fetch scan = s.softEnd)
      (missing : scan s.rest s.buffered = .missing count) : Looks scan s false (.readOn s true)
  | finished : Looks scan s true .finished
  | truncated : Looks scan s true .truncated
  | failed {ended : Bool} {fault : Fault} (fetch : s.fetch scan = .failed fault s) : Looks scan s ended (.failed fault)

variable {scan : Framing α} {s : Intake}

lemma looks_refill {count : Nat} (h : scan s.rest s.buffered = .missing count)
    (hroom : ¬ bufferSize ≤ s.buffered + count) : Looks scan s false s.refill := by
  have hspace : ¬ bufferSize ≤ s.buffered := fun hfull => hroom (Nat.le_trans hfull (Nat.le_add_right _ _))
  rw [refill, if_neg hspace]
  by_cases hmore : 0 < s.unread
  · rw [if_pos hmore]
    exact .read (Nat.not_le.mp hspace) hmore (fetch_of_more h hroom hmore)
  · rw [if_neg hmore]
    have hfetch := fetch_of_end h hroom hmore
    cases hending : s.ending with
    | broken reason =>
      rw [hending] at hfetch
      exact .failed hfetch
    | closed =>
      rw [hending] at hfetch
      exact .ends (Nat.eq_zero_of_not_pos hmore) hfetch h

lemma looks_look (scan : Framing α) (ended : Bool) (s : Intake) : Looks scan s ended (s.look scan ended) := by
  rw [look]
  by_cases hover : ended ∧ s.buffered = 0
  · rw [if_pos hover, hover.1]
    exact .finished
  rw [if_neg hover]
  cases hscan : scan s.rest s.buffered with
  | found value size pos le => exact .frame pos le (fetch_of_found hscan)
  | faulty fault => exact .failed (fetch_of_faulty hscan)
  | missing count =>
    cases ended with
    | true => exact .truncated
    | false =>
      by_cases hfull : bufferSize ≤ s.buffered + count
      · simp only [if_pos hfull]
        exact .failed (fetch_of_full hscan hfull)
      · simp only [if_neg hfull]
        exact looks_refill hscan hfull

lemma look_of_ended {count : Nat} (h : scan s.rest s.buffered = .missing count) :
    s.look scan true = if s.buffered = 0 then .finished else .truncated := by
  rw [look]
  by_cases hempty : s.buffered = 0
  · rw [if_pos ⟨rfl, hempty⟩, if_pos hempty]
  · rw [if_neg (fun hover => hempty hover.2), if_neg hempty, h]
    rfl

@[simp] lemma consume_zero (s : Intake) : s.consume 0 = s := by
  simp only [consume, Nat.zero_min, List.drop_zero, Nat.sub_zero]

lemma buffered_readMore (s : Intake) (room : s.buffered < bufferSize) (more : 0 < s.unread) :
    ∃ count, 0 < count ∧ s.readMore.buffered = s.buffered + count ∧ s.readMore.buffered ≤ bufferSize ∧
      s.readMore.unread + count = s.unread := by
  refine ⟨min (bufferSize - s.buffered) (min (max 1 (s.readSize s.offset)) s.unread), ?_, rfl, ?_, ?_⟩
  · omega
  · simp only [readMore]
    omega
  · simp only [readMore]
    omega

end Intake

variable {d : Dialect}

structure Reading (d : Dialect) where
  state : d.State
  intake : Intake
  /-- So many bytes at the front are only skipped. They are the file header of a pcap capture just opened. -/
  skip : Nat
  ended : Bool
  skip_le : skip ≤ intake.buffered

namespace Reading

def behind (state : d.State) (intake : Intake) (ended : Bool) : Reading d := ⟨state, intake, 0, ended, Nat.zero_le _⟩

def reader (s : Reading d) : Reader := d.reader s.state (s.intake.consume s.skip)

def pass (s : Reading d) : Pass (Reading d) (Call (Reading d) (Option Record)) :=
  if 0 < s.skip then .again (behind s.state (s.intake.consume s.skip) s.ended)
  else
    match s.intake.look (d.scan s.state) s.ended with
    | .frame value next =>
      match d.record? s.state value with
      | some r => .returned (.ok (some r) (behind (d.after s.state value) next s.ended))
      | none => .again (behind (d.after s.state value) next s.ended)
    | .readOn next ended => .again (behind s.state next ended)
    | .finished => .returned (.ok none s)
    | .truncated => .returned ⟨.ok none, s, [.partialTail d.format]⟩
    | .failed fault => .returned ⟨.error (Step.failure d.format fault), s, []⟩

structure Takes (s t : Reading d) : Prop where
  intake : ∃ size, 0 < size ∧ size ≤ s.intake.buffered ∧ t.intake = s.intake.consume size
  ended : t.ended = s.ended

/-- What a pass that goes on has done: it took bytes out of the buffer, moved bytes into it, or met the end of the
stream, and then the next pass is the last. -/
inductive Advances (s t : Reading d) : Prop where
  | takes (h : s.Takes t)
  | moves (count : Nat) (pos : 0 < count) (rest : t.intake.rest = s.intake.rest)
      (buffered : t.intake.buffered = s.intake.buffered + count) (room : t.intake.buffered ≤ bufferSize)
      (unread : t.intake.unread + count = s.intake.unread) (ended : t.ended = s.ended)
  | ends (done : s.intake.unread = 0) (intake : t.intake = s.intake) (before : s.ended = false)
      (ended : t.ended = true) (last : ∃ c, t.pass = .returned c)

/-- A bound on the passes: for each byte one to read it and one to take it, and one for the end. -/
def budget (s : Reading d) : Nat := s.intake.rest.length + s.intake.unread + if s.ended then 0 else 1

inductive Gives : Step → Call (Reading d) (Option Record) → Prop
  | record (r : Record) {s : Reading d} (h : s.ended = false) : Gives (.record r s.reader) (.ok (some r) s)
  | finished (s : Reading d) : Gives .finished (.ok none s)
  | truncated (s : Reading d) : Gives .truncated ⟨.ok none, s, [.partialTail d.format]⟩
  | failed (e : SourceError) {s : Reading d} (h : s.ended = false) : Gives (.failed e s.reader) ⟨.error e, s, []⟩

def Sound (s : Reading d) : Prop := s.ended = true → ∃ c, s.pass = .returned c ∧ Gives s.reader.next c

variable {s t : Reading d}

lemma Takes.rest_lt (h : s.Takes t) : t.intake.rest.length < s.intake.rest.length := by
  obtain ⟨size, pos, le, hintake⟩ := h.intake
  rw [hintake]
  exact Intake.consume_lt pos le

lemma Takes.budget_lt (h : s.Takes t) : t.budget < s.budget := by
  have hrest := h.rest_lt
  obtain ⟨size, pos, le, hintake⟩ := h.intake
  have hunread : t.intake.unread = s.intake.unread := by
    rw [hintake]
    rfl
  simp only [budget, h.ended, hunread]
  omega

lemma Advances.budget_lt (h : s.Advances t) : t.budget < s.budget := by
  cases h with
  | takes h => exact h.budget_lt
  | moves count pos rest buffered room unread ended =>
    simp only [budget, rest, ended]
    omega
  | ends done intake before ended last =>
    rw [budget, budget, intake, before, ended]
    exact Nat.lt_succ_self _

lemma reader_behind (state : d.State) (intake : Intake) (ended : Bool) :
    (behind state intake ended).reader = d.reader state intake := by
  rw [reader, behind, Intake.consume_zero]

lemma sound_of_not_ended (h : s.ended = false) : s.Sound := fun hended => by simp [h] at hended

section Unskipped

variable (hskip : s.skip = 0)

include hskip

lemma reader_of_unskipped : s.reader = d.reader s.state s.intake := by
  rw [reader, hskip, Intake.consume_zero]

lemma pass_of_unskipped : s.pass =
    match s.intake.look (d.scan s.state) s.ended with
    | .frame value next =>
      match d.record? s.state value with
      | some r => .returned (.ok (some r) (behind (d.after s.state value) next s.ended))
      | none => .again (behind (d.after s.state value) next s.ended)
    | .readOn next ended => .again (behind s.state next ended)
    | .finished => .returned (.ok none s)
    | .truncated => .returned ⟨.ok none, s, [.partialTail d.format]⟩
    | .failed fault => .returned ⟨.error (Step.failure d.format fault), s, []⟩ := by
  rw [pass, hskip]
  exact if_neg (Nat.lt_irrefl 0)

end Unskipped

inductive Passes (s : Reading d) : Pass (Reading d) (Call (Reading d) (Option Record)) → Prop
  | again {t : Reading d} (advances : s.Advances t)
      (keeps : s.Sound → t.reader.next = s.reader.next ∧ t.Sound) : Passes s (.again t)
  | returned {c : Call (Reading d) (Option Record)} (gives : s.Sound → Gives s.reader.next c)
      (takes : ∀ r, c.answer = .ok (some r) → s.Takes c.state) : Passes s (.returned c)

lemma gives_of_ended (hended : s.ended = true) (hs : s.Sound) {c : Call (Reading d) (Option Record)}
    (h : s.pass = .returned c) : Gives s.reader.next c := by
  obtain ⟨c', hc, hgives⟩ := hs hended
  rw [h] at hc
  obtain rfl := Pass.returned.inj hc
  exact hgives

lemma not_ended_of_again (hs : s.Sound) (h : s.pass = .again t) : s.ended = false := by
  cases hended : s.ended with
  | false => rfl
  | true =>
    obtain ⟨c, hc, -⟩ := hs hended
    simp [h] at hc

lemma sound_of_end (hskip : s.skip = 0) {count : Nat}
    (hmissing : d.scan s.state s.intake.rest s.intake.buffered = .missing count)
    (hfetch : s.intake.fetch (d.scan s.state) = s.intake.softEnd) : s.Sound := by
  intro hended
  have hpass := pass_of_unskipped hskip
  have hnext := d.next_reader s.state s.intake
  rw [hended, Intake.look_of_ended hmissing] at hpass
  rw [hfetch, Intake.softEnd, ← reader_of_unskipped hskip] at hnext
  by_cases hempty : s.intake.buffered = 0
  · rw [if_pos hempty] at hpass hnext
    rw [hnext]
    exact ⟨_, hpass, .finished s⟩
  · rw [if_neg hempty] at hpass hnext
    rw [hnext]
    exact ⟨_, hpass, .truncated s⟩

lemma passes_pass (s : Reading d) : s.Passes s.pass := by
  by_cases hskip : 0 < s.skip
  · have hpass : s.pass = .again (behind s.state (s.intake.consume s.skip) s.ended) := if_pos hskip
    rw [hpass]
    refine .again (.takes ⟨⟨s.skip, hskip, s.skip_le, rfl⟩, rfl⟩) fun hs => ⟨by rw [reader_behind]; rfl, ?_⟩
    -- The end is met only right before the last pass, and this one goes on.
    have hopen : s.ended = false := not_ended_of_again hs hpass
    exact sound_of_not_ended hopen
  have hnone : s.skip = 0 := Nat.eq_zero_of_not_pos hskip
  have hreader := reader_of_unskipped hnone
  have hnext := d.next_reader s.state s.intake
  have hpass := pass_of_unskipped hnone
  have hlooks := Intake.looks_look (d.scan s.state) s.ended s.intake
  rw [← hreader] at hnext
  generalize hended : s.ended = ended at hpass hlooks
  generalize s.intake.look (d.scan s.state) ended = l at hpass hlooks
  cases hlooks with
  | @frame ended value size pos le fetch =>
    rw [fetch] at hnext
    cases hr : d.record? s.state value with
    | some r =>
      simp only [hr] at hpass hnext
      rw [hpass]
      refine .returned (fun hs => ?_) fun _ _ => ⟨⟨size, pos, le, rfl⟩, hended.symm⟩
      -- After the end, no look is needed to say what is returned.
      cases hflag : ended with
      | true => exact hflag ▸ gives_of_ended (hended.trans hflag) hs hpass
      | false =>
        rw [hnext, ← reader_behind (d.after s.state value) (s.intake.consume size) false]
        exact .record r rfl
    | none =>
      simp only [hr] at hpass hnext
      rw [hpass]
      refine .again (.takes ⟨⟨size, pos, le, rfl⟩, hended.symm⟩) fun hs => ⟨by rw [reader_behind, hnext], ?_⟩
      have hopen : s.ended = false := not_ended_of_again hs hpass
      exact sound_of_not_ended (hended.symm.trans hopen)
  | read room more fetch =>
    obtain ⟨count, pos, hbuffered, hroom, hunread⟩ := Intake.buffered_readMore s.intake room more
    rw [fetch, ← d.next_reader] at hnext
    rw [hpass]
    refine .again (.moves count pos rfl hbuffered hroom hunread hended.symm) fun _ => ⟨by rw [reader_behind, hnext], ?_⟩
    exact sound_of_not_ended rfl
  | ends done fetch missing =>
    have hsound : (behind s.state s.intake true).Sound := sound_of_end rfl missing fetch
    obtain ⟨c, hlast, -⟩ := hsound rfl
    rw [hpass]
    exact .again (.ends done rfl hended rfl ⟨c, hlast⟩) fun _ => ⟨by rw [reader_behind, hreader], hsound⟩
  | finished =>
    rw [hpass]
    exact .returned (fun hs => gives_of_ended hended hs hpass) (by simp [Call.ok])
  | truncated =>
    rw [hpass]
    exact .returned (fun hs => gives_of_ended hended hs hpass) (by simp)
  | @failed ended fault fetch =>
    rw [fetch] at hnext
    rw [hpass]
    refine .returned (fun hs => ?_) (by simp)
    cases hflag : ended with
    | true => exact gives_of_ended (hended.trans hflag) hs hpass
    | false =>
      have hfailed : s.reader.next = .failed (Step.failure d.format fault) s.reader := by rw [hnext, hreader]
      rw [hfailed]
      exact .failed _ (hended.trans hflag)

lemma advances_of_pass (h : s.pass = .again t) : s.Advances t := by
  have hpasses := h ▸ passes_pass s
  cases hpasses with
  | again advances keeps => exact advances

lemma keeps_of_pass (h : s.pass = .again t) (hs : s.Sound) : t.reader.next = s.reader.next ∧ t.Sound := by
  have hpasses := h ▸ passes_pass s
  cases hpasses with
  | again advances keeps => exact keeps hs

lemma gives_of_pass {c : Call (Reading d) (Option Record)} (h : s.pass = .returned c) (hs : s.Sound) :
    Gives s.reader.next c := by
  have hpasses := h ▸ passes_pass s
  cases hpasses with
  | returned gives takes => exact gives hs

lemma takes_of_pass {c : Call (Reading d) (Option Record)} (h : s.pass = .returned c) {r : Record}
    (hr : c.answer = .ok (some r)) : s.Takes c.state := by
  have hpasses := h ▸ passes_pass s
  cases hpasses with
  | returned gives takes => exact takes r hr

lemma Advances.rest_le (h : s.Advances t) : t.intake.rest.length ≤ s.intake.rest.length := by
  cases h with
  | takes h => exact Nat.le_of_lt h.rest_lt
  | moves count pos rest => exact Nat.le_of_eq (congrArg List.length rest)
  | ends done intake => exact Nat.le_of_eq (congrArg (·.rest.length) intake)

section Gives

variable {step : Step} {c : Call (Reading d) (Option Record)} (h : Gives step c)

include h

lemma Gives.of_error {e : SourceError} (hc : c.answer = .error e) :
    step = .failed e c.state.reader ∧ c.state.ended = false ∧ c.warnings = [] := by
  cases h with
  | failed e' hopen =>
    obtain rfl := Except.error.inj hc
    exact ⟨rfl, hopen, rfl⟩
  | record => simp [Call.ok] at hc
  | finished => simp [Call.ok] at hc
  | truncated => simp at hc

lemma Gives.of_none (hc : c.answer = .ok none) :
    step = .finished ∧ c.warnings = [] ∨ step = .truncated ∧ c.warnings = [.partialTail d.format] := by
  cases h with
  | finished => exact .inl ⟨rfl, rfl⟩
  | truncated => exact .inr ⟨rfl, rfl⟩
  | failed => simp at hc
  | record => simp [Call.ok] at hc

lemma Gives.of_some {r : Record} (hc : c.answer = .ok (some r)) :
    step = .record r c.state.reader ∧ c.state.ended = false ∧ c.warnings = [] := by
  cases h with
  | record r' hopen =>
    obtain rfl : r' = r := by simpa [Call.ok] using hc
    exact ⟨rfl, hopen, rfl⟩
  | finished => simp [Call.ok] at hc
  | truncated => simp at hc
  | failed => simp at hc

end Gives

lemma readAhead_of_next (hnext : t.reader.next = s.reader.next) (filter : Option Filter) (room : Nat) :
    Source.readAhead filter (room + 1) t.reader = Source.readAhead filter (room + 1) s.reader := by
  have hformat : t.reader.format = s.reader.format := by
    rw [reader, reader, d.format_reader, d.format_reader]
  rw [Source.readAhead_succ, Source.readAhead_succ, hnext, hformat]

end Reading

end CaptureSieve

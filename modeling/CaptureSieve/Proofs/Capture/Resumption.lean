import CaptureSieve.Proofs.Capture.Interleaving

/-!
Going on after errors: a merge loses, repeats and reorders no packet, however many of the calls on it fail.
-/

namespace CaptureSieve

def succeeded (calls : List (Ask × Except SourceError (Option Record))) : List (Ask × Option Record) :=
  calls.filterMap fun (a, answer) => answer.toOption.map (a, ·)

def taken (calls : List (Ask × Option Record)) : List Record :=
  calls.filterMap fun
    | (.next, r) => r
    | (.peek, _) => none

namespace Outlook

lemma taken_prefix {calls : List (Ask × Option Record)} {records : List Record}
    (h : calls.map (fun c => .ok c.2) = answers ask (calls.map Prod.fst) ⟨records, none⟩) :
    taken calls <+: records := by
  induction calls generalizing records with
  | nil => exact List.nil_prefix
  | cons c calls ih =>
    obtain ⟨a, r⟩ := c
    simp only [List.map_cons, answers, List.cons.injEq, ask_answer, answer_of_clean, Except.ok.injEq] at h
    obtain ⟨rfl, hrest⟩ := h
    cases a with
    | peek => exact ih hrest
    | next =>
      have hlater : taken calls <+: records.tail := ih hrest
      cases records with
      | nil => exact hlater
      | cons r rest => exact (List.prefix_cons_inj r).mpr hlater

end Outlook

namespace Merge

def calls (asks : List Ask) (m : Merge) : List (Ask × Except SourceError (Option Record)) :=
  asks.zip (answers ask asks m)

variable {m : Merge} {a : Ask} {asks : List Ask}

lemma calls_cons (a : Ask) (asks : List Ask) (m : Merge) :
    calls (a :: asks) m = (a, (ask a m).answer) :: calls asks (ask a m).state := rfl

lemma succeeded_of_ok {r : Option Record} (h : (ask a m).answer = .ok r) :
    succeeded (calls (a :: asks) m) = (a, r) :: succeeded (calls asks (ask a m).state) := by
  rw [calls_cons, h]
  rfl

lemma succeeded_of_error {e : SourceError} (h : (ask a m).answer = .error e) :
    succeeded (calls (a :: asks) m) = succeeded (calls asks (ask a m).state) := by
  rw [calls_cons, h]
  rfl

lemma succeeded_eq_answers (asks : List Ask) (m : Merge) :
    (succeeded (calls asks m)).map (fun c => .ok c.2) =
      answers Outlook.ask ((succeeded (calls asks m)).map Prod.fst) ⟨m.due, none⟩ := by
  induction asks generalizing m with
  | nil => rfl
  | cons a asks ih =>
    have hrest := ih (ask a m).state
    cases ask_serves a m with
    | given answer leaves =>
      rw [leaves.due] at hrest
      rw [succeeded_of_ok answer, List.map_cons, List.map_cons, hrest, answers, Outlook.ask_answer,
        Outlook.answer_of_clean]
      cases a <;> rfl
    | failed e answer fails leaves =>
      rw [leaves.due] at hrest
      rwa [succeeded_of_error answer]

lemma fails_of_calls {e : SourceError} (h : (a, .error e) ∈ calls asks m) : m.Fails e := by
  induction asks generalizing m with
  | nil => simp [calls, answers] at h
  | cons b asks ih =>
    rw [calls_cons, List.mem_cons] at h
    have hserves := ask_serves b m
    rcases h with h | h
    · obtain ⟨rfl, hanswer⟩ := Prod.mk.inj h
      cases hserves with
      | given answer leaves => simp [answer] at hanswer
      | failed e' answer fails leaves =>
        obtain rfl := Except.error.inj (hanswer.trans answer)
        exact fails
    · have hlater := ih h
      cases hserves with
      | given answer leaves => exact leaves.fails e hlater
      | failed e' answer fails leaves => exact leaves.fails e hlater

theorem resumes_after_errors (traffic : Source) (dns : Option Source) (asks : List Ask) :
    let due := interleave traffic.outlook.records (dns.elim [] (·.outlook.records))
    let session := calls asks (ofSources traffic dns)
    taken (succeeded session) <+: due ∧
    (succeeded session).map (fun c => .ok c.2) = answers Outlook.ask ((succeeded session).map Prod.fst) ⟨due, none⟩ ∧
    ∀ a e, (a, .error e) ∈ session → traffic.outlook.failure = some e ∨ ∃ s ∈ dns, s.outlook.failure = some e := by
  intro due session
  have hsucceeded : (succeeded session).map (fun c => .ok c.2) =
      answers Outlook.ask ((succeeded session).map Prod.fst) ⟨due, none⟩ :=
    succeeded_eq_answers asks (ofSources traffic dns)
  refine ⟨Outlook.taken_prefix hsucceeded, hsucceeded, ?_⟩
  intro a e he
  exact fails_of_calls he

end Merge

end CaptureSieve

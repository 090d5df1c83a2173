import CaptureSieve.Capture.Warning

/-!
One call on something that is read step by step: its answer, the state after it, and the warnings given on the way.
-/

namespace CaptureSieve

structure Call (σ α : Type) where
  answer : Except SourceError α
  state : σ
  warnings : List Warning

namespace Call

variable {σ τ α β : Type}

def ok (a : α) (s : σ) : Call σ α := ⟨.ok a, s, []⟩

def andThen (c : Call σ α) (f : α → σ → Call σ β) : Call σ β :=
  match c.answer with
  | .error e => ⟨.error e, c.state, c.warnings⟩
  | .ok a =>
    let d := f a c.state
    ⟨d.answer, d.state, c.warnings ++ d.warnings⟩

def within (f : σ → τ) (c : Call σ α) : Call τ α := ⟨c.answer, f c.state, c.warnings⟩

end Call

structure Drained (σ α : Type) where
  items : List α
  failure : Option SourceError
  state : σ
  warnings : List Warning

end CaptureSieve

import RouterAdvert.Log.Event

/-!
# Outcomes of operations

What an operation leaves behind: the next state, whether it succeeded, and what it logged. A failed
operation has a next state too, which for most operations is the state before.
-/

namespace RouterAdvert

/-- The outcome of an operation on a state `σ` whose log entries are of type `ε`. -/
structure Outcome (σ ε : Type) where
  state : σ
  result : Except Error Unit := .ok ()
  log : List ε := []

namespace Outcome

def fail {σ ε : Type} (state : σ) (error : Error) : Outcome σ ε :=
  ⟨state, .error error, []⟩

def lift {σ τ ε δ : Type} (o : Outcome σ ε) (embed : σ → τ) (entry : ε → δ) :
    Outcome τ δ :=
  ⟨embed o.state, o.result, o.log.map entry⟩

end Outcome

end RouterAdvert

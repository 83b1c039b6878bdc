import Stencil.Memo
import Stencil.Render.Language
/-!
# Sessions

What outlives the evaluation of one expression: the memo of compiled expressions and the store of the
values.
-/

namespace Stencil

structure Session {σ ν : Type} (L : Language σ ν) where
  memo : Memo L.compile
  store : σ

abbrev Rendering {σ ν : Type} (L : Language σ ν) := EStateM Fault (Session L)

namespace Session

variable {σ ν α : Type} {L : Language σ ν}

def memoLimit : Nat := 512

def fresh (L : Language σ ν) (store : σ) : Session L := ⟨Memo.fresh L.compile (some memoLimit), store⟩

def lift (x : EStateM Fault σ α) : Rendering L α := fun s =>
  match x s.store with
  | .ok a store => .ok a { s with store }
  | .error fault store => .error fault { s with store }

def code (expr : String) : Rendering L L.Code := fun s =>
  match s.memo.answer expr with
  | (.ok code, memo) => .ok code { s with memo }
  | (.error fault, memo) => .error fault { s with memo }

/-- The value of an expression under a scope. -/
def evaluate (scope : Scope ν) (expr : String) : Rendering L ν := do
  let c ← code expr
  lift (L.value c scope)

end Session

end Stencil

/-!
# Scopes

The names that are bound at one place of a template and their values. A name that is bound again hides
its earlier value.
-/

namespace Stencil

/-- Bound names, latest first. `spoiled` says that something other than a name was bound, which no
expression can be evaluated under. -/
structure Scope (ν : Type) where
  bindings : List (String × ν)
  spoiled : Bool := false

namespace Scope

variable {ν : Type}

def find? (s : Scope ν) (name : String) : Option ν := s.bindings.lookup name

def bind (s : Scope ν) (name : String) (v : ν) : Scope ν :=
  { s with bindings := (name, v) :: s.bindings }

def spoil (s : Scope ν) : Scope ν := { s with spoiled := true }

/-- The names of a list bound in order, so that of two values of a name the later one counts. -/
def ofList (bindings : List (String × ν)) : Scope ν := ⟨bindings.reverse, false⟩

def bindAll (s : Scope ν) (more : List (String × ν)) : Scope ν :=
  { s with bindings := more.reverse ++ s.bindings }

@[simp] theorem find?_bind (s : Scope ν) (name other : String) (v : ν) :
    (s.bind name v).find? other = if other = name then some v else s.find? other := by
  by_cases h : other = name
  · simp [find?, bind, h]
  · simp [find?, bind, List.lookup_cons, h, beq_false_of_ne h]

end Scope

end Stencil

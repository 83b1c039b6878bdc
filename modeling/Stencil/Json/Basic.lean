/-!
# JSON values

A value of the data format of artifacts. The fields of an object keep the order in which they were
first written, and each key stands once.
-/

namespace Stencil

/-- A JSON value. Integers have any size and are kept apart from floating point numbers. -/
inductive Json where
  | null
  | bool (b : Bool)
  | int (n : Int)
  | float (x : Float)
  | str (s : String)
  | arr (items : List Json)
  | obj (fields : List (String × Json))
deriving Inhabited

namespace Json

/-- The fields with one more: a key that is there keeps its place and takes the new value. -/
def putField (key : String) (value : Json) : List (String × Json) → List (String × Json)
  | [] => [(key, value)]
  | (k, v) :: rest =>
    if k = key then (k, value) :: rest else (k, v) :: putField key value rest

def field? (key : String) : List (String × Json) → Option Json
  | [] => none
  | (k, v) :: rest => if k = key then some v else field? key rest

mutual

def depth : Json → Nat
  | arr items => depthItems items + 1
  | obj fields => depthFields fields + 1
  | _ => 0

def depthItems : List Json → Nat
  | [] => 0
  | v :: rest => max (depth v) (depthItems rest)

def depthFields : List (String × Json) → Nat
  | [] => 0
  | (_, v) :: rest => max (depth v) (depthFields rest)

end

theorem depthItems_le_iff {items : List Json} {n : Nat} :
    depthItems items ≤ n ↔ ∀ v ∈ items, v.depth ≤ n := by
  induction items with
  | nil => simp [depthItems]
  | cons v rest ih => simp [depthItems, Nat.max_le, ih]

theorem depthFields_le_iff {fields : List (String × Json)} {n : Nat} :
    depthFields fields ≤ n ↔ ∀ f ∈ fields, f.2.depth ≤ n := by
  induction fields with
  | nil => simp [depthFields]
  | cons f rest ih => simp [depthFields, Nat.max_le, ih]

@[simp] theorem field?_putField (key other : String) (value : Json) (fields : List (String × Json)) :
    field? other (putField key value fields) =
      if key = other then some value else field? other fields := by
  fun_induction putField key value fields with
  | case1 => simp [field?]
  | case2 v rest =>
    by_cases h : key = other <;> simp [field?, h]
  | case3 k v rest hk ih =>
    by_cases h : k = other
    · subst h; simp [field?, Ne.symm hk]
    · simp [field?, h, ih]

end Json

end Stencil

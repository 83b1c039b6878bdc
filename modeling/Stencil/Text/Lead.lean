/-!
# Leading texts

What follows a given beginning. The main statement: `after? lead s` is `some rest` exactly when `s` is
`lead ++ rest`.
-/

namespace Stencil.Text

def after? : List Char → List Char → Option (List Char)
  | [], s => some s
  | _ :: _, [] => none
  | a :: lead, c :: s => if a = c then after? lead s else none

theorem after?_eq_some_iff {lead s rest : List Char} :
    after? lead s = some rest ↔ s = lead ++ rest := by
  fun_induction after? lead s with
  | case1 s => simp [eq_comm]
  | case2 a lead => simp
  | case3 a lead s ih => simp [ih]
  | case4 a lead c s h => simp [Ne.symm h]

@[simp] theorem after?_append (lead rest : List Char) : after? lead (lead ++ rest) = some rest :=
  after?_eq_some_iff.2 rfl

theorem length_of_after? {lead s rest : List Char} (h : after? lead s = some rest) :
    s.length = lead.length + rest.length := by
  simp [after?_eq_some_iff.1 h]

end Stencil.Text

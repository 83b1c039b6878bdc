/-!
# Whole numbers in decimal

A natural number is written with its decimal digits and no leading zero, an integer with a minus sign
before a negative one. Reading the digits gives the number back.
-/

namespace Stencil.Number

def digitChar (d : Nat) : Char := Char.ofNat (48 + d)

def digitValue (c : Char) : Nat := c.toNat - 48

def isAsciiDigit (c : Char) : Bool := 48 ≤ c.toNat && c.toNat ≤ 57

def digitsBefore (n : Nat) (after : List Char) : List Char :=
  if n < 10 then digitChar n :: after
  else digitsBefore (n / 10) (digitChar (n % 10) :: after)

def digits (n : Nat) : List Char := digitsBefore n []

def ofDigitsAfter (n : Nat) (cs : List Char) : Nat :=
  cs.foldl (fun n c => 10 * n + digitValue c) n

def ofDigits (cs : List Char) : Nat := ofDigitsAfter 0 cs

@[simp] theorem digitValue_digitChar {d : Nat} (h : d < 10) : digitValue (digitChar d) = d := by
  have : d = 0 ∨ d = 1 ∨ d = 2 ∨ d = 3 ∨ d = 4 ∨ d = 5 ∨ d = 6 ∨ d = 7 ∨ d = 8 ∨ d = 9 := by omega
  rcases this with h | h | h | h | h | h | h | h | h | h <;> subst h <;> rfl

theorem ofDigits_digitsBefore (n : Nat) (after : List Char) :
    ofDigits (digitsBefore n after) = ofDigitsAfter n after := by
  fun_induction digitsBefore n after with
  | case1 n after h => simp [ofDigits, ofDigitsAfter, digitValue_digitChar h]
  | case2 n after h ih =>
    rw [ih]
    simp only [ofDigitsAfter, List.foldl_cons, digitValue_digitChar (Nat.mod_lt n (by omega))]
    congr 1
    omega

@[simp] theorem ofDigits_digits (n : Nat) : ofDigits (digits n) = n := ofDigits_digitsBefore n []

def signed (n : Int) : List Char :=
  if n < 0 then '-' :: digits n.natAbs else digits n.natAbs

def digitLimit : Nat := 4300

def tooLong (n : Int) : Bool := n.natAbs.log2 > 14280 && n.natAbs ≥ Nat.pow 10 digitLimit

end Stencil.Number

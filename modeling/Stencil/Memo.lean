import Stencil.Fault
/-!
# Memos

A memo keeps what the most recently used texts compiled to, and counts how often it could answer. Each
entry carries the proof that it holds what its text compiles to, so an answer from a memo is always the
answer of the compiler.
-/

namespace Stencil

/-- A text that compiles, with what it compiles to. -/
structure Memo.Entry {α : Type} (compile : String → Except Fault α) where
  text : String
  code : α
  compiled : compile text = .ok code

/-- Compiled texts, the one used last first. Without a limit nothing is ever left out. -/
structure Memo {α : Type} (compile : String → Except Fault α) where
  limit : Option Nat
  entries : List (Memo.Entry compile) := []
  hits : Nat := 0
  misses : Nat := 0

namespace Memo

variable {α : Type} {compile : String → Except Fault α}

def fresh (compile : String → Except Fault α) (limit : Option Nat) : Memo compile := { limit }

def find? (m : Memo compile) (text : String) : Option (Entry compile) :=
  m.entries.find? (·.text == text)

def cut (limit : Option Nat) (entries : List (Entry compile)) : List (Entry compile) :=
  match limit with
  | some n => entries.take n
  | none => entries

def hit (m : Memo compile) (e : Entry compile) : Memo compile :=
  { m with hits := m.hits + 1, entries := e :: m.entries.filter (·.text != e.text) }

/-- The memo after a text that it had not kept: one that compiles comes first, one that does not leaves
the entries alone. -/
def miss (m : Memo compile) (e : Option (Entry compile)) : Memo compile :=
  { m with misses := m.misses + 1, entries := cut m.limit (e.toList ++ m.entries) }

/-- What a text compiles to, and the memo afterwards. -/
def answer (m : Memo compile) (text : String) : Except Fault α × Memo compile :=
  match m.find? text with
  | some e => (.ok e.code, m.hit e)
  | none =>
    match h : compile text with
    | .ok code => (.ok code, m.miss (some ⟨text, code, h⟩))
    | .error fault => (.error fault, m.miss none)

@[simp] theorem answer_fst (m : Memo compile) (text : String) : (m.answer text).1 = compile text := by
  unfold answer
  split
  · rename_i e he
    have : e.text = text := by simpa using List.find?_some he
    simp [← this, e.compiled]
  · split <;> simp_all

end Memo

end Stencil

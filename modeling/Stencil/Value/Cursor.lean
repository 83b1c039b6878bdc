import Stencil.Value.Basic
/-!
# Cursors

A cursor steps through the items of a value with their keys. The entries of a dictionary come with their
own keys, other items with their numbers. Lists and dictionaries are read as they are at each step: a
list may grow on the way, a dictionary may not change its size.
-/

namespace Stencil.Value

/-- A place in a value: the items before it are done. -/
inductive Cursor where
  | list (cell done : Nat)
  | dict (cell size done : Nat)
  | view (kind : ViewKind) (cell size done : Nat)
  | stream (cell done : Nat)
  | fixed (items : List Value) (done : Nat)

def start (v : Value) : Eval Cursor := do
  match v with
  | list cell => return .list cell 0
  | dict cell => return .dict cell (← Eval.dictAt cell).length 0
  | view kind cell => return .view kind cell (← Eval.dictAt cell).length 0
  | stream cell => return .stream cell 0
  | v => return .fixed (← v.items) 0

namespace Cursor

def numbered (done : Nat) (item : Value) (after : Cursor) : Option ((Value × Value) × Cursor) :=
  some ((.int done, item), after)

/-- The entry of a dictionary at a number, while the dictionary has the size that it began with. -/
def entry? (cell size done : Nat) : Eval (Option (Value × Value)) := do
  let entries ← Eval.dictAt cell
  if entries.length = size then return entries[done]? else throw .resized

def next : Cursor → Eval (Option ((Value × Value) × Cursor))
  | list cell done => do
    match (← Eval.listAt cell)[done]? with
    | some item => return numbered done item (list cell (done + 1))
    | Option.none => return Option.none
  | dict cell size done => do
    match ← entry? cell size done with
    | some pair => return some (pair, dict cell size (done + 1))
    | Option.none => return Option.none
  | view kind cell size done => do
    match ← entry? cell size done with
    | some pair =>
      let item := match kind with
        | .keys => pair.1
        | .values => pair.2
        | .entries => .tuple [pair.1, pair.2]
      return numbered done item (view kind cell size (done + 1))
    | Option.none => return Option.none
  | stream cell done => do
    match ← Eval.streamAt cell with
    | (item :: rest, fault) => do
      Eval.put cell (.stream rest fault)
      return numbered done item (stream cell (done + 1))
    | ([], some fault) => do
      Eval.put cell (.stream [] Option.none)
      throw fault
    | ([], Option.none) => return Option.none
  | fixed [] _ => return Option.none
  | fixed (item :: rest) done => return numbered done item (fixed rest (done + 1))

def pending : Cursor → Eval Nat
  | list cell done => do return (← Eval.listAt cell).size - done
  | dict _ size done | view _ _ size done => return size - done
  | stream cell _ => do return (← Eval.streamAt cell).1.length
  | fixed items _ => return items.length

end Cursor

end Stencil.Value

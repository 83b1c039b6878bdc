import Stencil.Proofs.Run
import Stencil.Value.Cursor
/-!
# What a cursor gives

A loop over a value goes through pairs of key and item that can be told before it begins, as long as
nothing on the way changes the cells that there are. A stream is the exception: the loop itself uses it
up.
-/

namespace Stencil

/-- The cells of a store with their contents, all but a drained one, are cells of another. -/
def Store.Keeps (drained : Option Nat) (s t : Store) : Prop :=
  ∀ cell c, s.cells[cell]? = some c → drained ≠ some cell → t.cells[cell]? = some c

theorem Store.Keeps.refl (drained : Option Nat) (s : Store) : s.Keeps drained s := fun _ _ h _ => h

theorem Store.Keeps.trans {drained : Option Nat} {s t u : Store} (h : s.Keeps drained t)
    (k : t.Keeps drained u) : s.Keeps drained u := fun cell c hc hd => k cell c (h cell c hc hd) hd

theorem Store.Keeps.but {s t : Store} (h : s.Keeps none t) (drained : Option Nat) : s.Keeps drained t :=
  fun cell c hc _ => h cell c hc (by simp)

namespace Eval

theorem listAt_run {cell : Nat} {items : Array Value} {s : Store}
    (h : s.cells[cell]? = some (.list items)) : listAt cell s = .ok items s := by
  unfold listAt
  rw [bind_run, get_run]
  simp only [h]
  rfl

theorem dictAt_run {cell : Nat} {entries : List (Value × Value)} {s : Store}
    (h : s.cells[cell]? = some (.dict entries)) : dictAt cell s = .ok entries s := by
  unfold dictAt
  rw [bind_run, get_run]
  simp only [h]
  rfl

theorem streamAt_run {cell : Nat} {items : List Value} {fault : Option Fault} {s : Store}
    (h : s.cells[cell]? = some (.stream items fault)) : streamAt cell s = .ok (items, fault) s := by
  unfold streamAt
  rw [bind_run, get_run]
  simp only [h]
  rfl

theorem listAt_cases (cell : Nat) (s : Store) :
    (∃ items, s.cells[cell]? = some (.list items)) ∨ listAt cell s = .error .wrongType s := by
  unfold listAt
  rw [bind_run, get_run]
  dsimp only
  rcases s.cells[cell]? with _ | (_ | _ | _)
  case some.list items => exact .inl ⟨items, rfl⟩
  all_goals exact .inr rfl

theorem dictAt_cases (cell : Nat) (s : Store) :
    (∃ entries, s.cells[cell]? = some (.dict entries)) ∨ dictAt cell s = .error .wrongType s := by
  unfold dictAt
  rw [bind_run, get_run]
  dsimp only
  rcases s.cells[cell]? with _ | (_ | _ | _)
  case some.dict entries => exact .inl ⟨entries, rfl⟩
  all_goals exact .inr rfl

theorem streamAt_cases (cell : Nat) (s : Store) :
    (∃ items fault, s.cells[cell]? = some (.stream items fault)) ∨
      streamAt cell s = .error .wrongType s := by
  unfold streamAt
  rw [bind_run, get_run]
  dsimp only
  rcases s.cells[cell]? with _ | (_ | _ | _)
  case some.stream items fault => exact .inl ⟨items, fault, rfl⟩
  all_goals exact .inr rfl

end Eval

namespace Value

def number (first : Nat) : List Value → List (Value × Value)
  | [] => []
  | item :: rest => (.int first, item) :: number (first + 1) rest

@[simp] theorem length_number (first : Nat) (items : List Value) : (number first items).length = items.length := by
  induction items generalizing first with
  | nil => rfl
  | cons item rest ih => exact congrArg Nat.succ (ih (first + 1))

/-- The pairs that a loop over a value goes through, and the fault that comes after them: the entries of
a dictionary, and the items of any other value with their numbers. -/
def pairs (v : Value) : Eval (List (Value × Value) × Option Fault) := do
  match v with
  | dict cell => return (← Eval.dictAt cell, Option.none)
  | stream cell => do
    let (items, fault) ← Eval.streamAt cell
    return (number 0 items, fault)
  | v => return (number 0 (← v.items), Option.none)

def drained : Value → Option Nat
  | stream cell => some cell
  | _ => Option.none

def Cursor.drained : Cursor → Option Nat
  | .stream cell _ => some cell
  | _ => Option.none

/-- What a cursor has still to give: pairs, and the fault that comes after them. -/
inductive Remaining (s : Store) : Cursor → List (Value × Value) → Option Fault → Prop where
  | list {cell done : Nat} {items : Array Value} (h : s.cells[cell]? = some (.list items)) :
    Remaining s (.list cell done) (number done (items.toList.drop done)) Option.none
  | dict {cell done : Nat} {entries : List (Value × Value)} (h : s.cells[cell]? = some (.dict entries)) :
    Remaining s (.dict cell entries.length done) (entries.drop done) Option.none
  | view {kind : ViewKind} {cell done : Nat} {entries : List (Value × Value)}
    (h : s.cells[cell]? = some (.dict entries)) :
    Remaining s (.view kind cell entries.length done) (number done ((viewItems kind entries).drop done))
      Option.none
  | stream {cell done : Nat} {items : List Value} {fault : Option Fault}
    (h : s.cells[cell]? = some (.stream items fault)) :
    Remaining s (.stream cell done) (number done items) fault
  | fixed {items : List Value} {done : Nat} :
    Remaining s (.fixed items done) (number done items) Option.none

variable {s t : Store} {cursor : Cursor} {p : Value × Value} {ps : List (Value × Value)}
  {stop : Option Fault}

theorem Remaining.kept (h : Remaining s cursor ps stop) (hk : s.Keeps Option.none t) :
    Remaining t cursor ps stop := by
  have keep {cell : Nat} {c : Cell} (hc : s.cells[cell]? = some c) : t.cells[cell]? = some c :=
    hk cell c hc (by simp)
  cases h with
  | list h => exact .list (keep h)
  | dict h => exact .dict (keep h)
  | view h => exact .view (keep h)
  | stream h => exact .stream (keep h)
  | fixed => exact .fixed

@[simp] theorem length_viewItems (kind : ViewKind) (entries : List (Value × Value)) :
    (viewItems kind entries).length = entries.length := by
  cases kind <;> exact List.length_map _

theorem Remaining.pending (h : Remaining s cursor ps stop) : cursor.pending s = .ok ps.length s := by
  cases h with
  | list h =>
    rw [Cursor.pending, bind_run, Eval.listAt_run h, length_number, List.length_drop, Array.length_toList]
    rfl
  | dict h => rw [Cursor.pending, List.length_drop]; rfl
  | view h => rw [Cursor.pending, length_number, List.length_drop, length_viewItems]; rfl
  | stream h =>
    rw [Cursor.pending, bind_run, Eval.streamAt_run h, length_number]
    rfl
  | fixed => rw [Cursor.pending, length_number]; rfl

theorem number_eq_cons {first : Nat} {items : List Value} (h : number first items = p :: ps) :
    ∃ item rest, items = item :: rest ∧ p = (.int first, item) ∧ ps = number (first + 1) rest := by
  cases items with
  | nil => cases h
  | cons item rest =>
    obtain ⟨rfl, rfl⟩ := List.cons.inj h
    exact ⟨item, rest, rfl, rfl, rfl⟩

theorem number_eq_nil {first : Nat} {items : List Value} (h : number first items = []) : items = [] := by
  cases items with
  | nil => rfl
  | cons item rest => cases h

theorem drop_eq_cons {α : Type} {l rest : List α} {a : α} {n : Nat} (h : l.drop n = a :: rest) :
    l[n]? = some a ∧ rest = l.drop (n + 1) := by
  constructor
  · rw [← List.head?_drop, h, List.head?_cons]
  · rw [← List.tail_drop, h, List.tail_cons]

theorem drop_eq_nil {α : Type} {l : List α} {n : Nat} (h : l.drop n = []) : l[n]? = Option.none := by
  rw [← List.head?_drop, h, List.head?_nil]

theorem entry?_run {cell done : Nat} {entries : List (Value × Value)}
    (h : s.cells[cell]? = some (.dict entries)) :
    Cursor.entry? cell entries.length done s = .ok entries[done]? s := by
  rw [Cursor.entry?, bind_run, Eval.dictAt_run h]
  dsimp only
  rw [if_pos rfl]
  rfl

def viewed (kind : ViewKind) (entry : Value × Value) : Value :=
  match kind with
  | .keys => entry.1
  | .values => entry.2
  | .entries => .tuple [entry.1, entry.2]

theorem getElem?_viewItems (kind : ViewKind) (entries : List (Value × Value)) (n : Nat) :
    (viewItems kind entries)[n]? = entries[n]?.map (viewed kind) := by
  cases kind <;> exact List.getElem?_map

theorem Remaining.next (h : Remaining s cursor (p :: ps) stop) :
    ∃ after t, cursor.next s = .ok (some (p, after)) t ∧ Remaining t after ps stop ∧
      after.drained = cursor.drained ∧ s.Keeps cursor.drained t := by
  generalize hall : p :: ps = all at h
  cases h with
  | @list cell done items h =>
    obtain ⟨item, rest, hrest, rfl, rfl⟩ := number_eq_cons hall.symm
    obtain ⟨hitem, rfl⟩ := drop_eq_cons hrest
    rw [Array.getElem?_toList] at hitem
    refine ⟨.list cell (done + 1), s, ?_, .list h, rfl, .refl _ s⟩
    rw [Cursor.next, bind_run, Eval.listAt_run h]
    dsimp only
    rw [hitem]
    rfl
  | @dict cell done entries h =>
    obtain ⟨hitem, rfl⟩ := drop_eq_cons hall.symm
    refine ⟨.dict cell entries.length (done + 1), s, ?_, .dict h, rfl, .refl _ s⟩
    rw [Cursor.next, bind_run, entry?_run h, hitem]
    rfl
  | @view kind cell done entries h =>
    obtain ⟨item, rest, hrest, rfl, rfl⟩ := number_eq_cons hall.symm
    obtain ⟨hitem, rfl⟩ := drop_eq_cons hrest
    rw [getElem?_viewItems] at hitem
    obtain ⟨entry, hentry, rfl⟩ := Option.map_eq_some_iff.1 hitem
    refine ⟨.view kind cell entries.length (done + 1), s, ?_, .view h, rfl, .refl _ s⟩
    rw [Cursor.next, bind_run, entry?_run h, hentry]
    cases kind <;> rfl
  | @stream cell done items fault h =>
    obtain ⟨item, rest, rfl, rfl, rfl⟩ := number_eq_cons hall.symm
    -- the item is taken out of the cell, which is the drained one
    obtain ⟨hcell, -⟩ := Array.getElem?_eq_some_iff.1 h
    refine ⟨.stream cell (done + 1), ⟨s.cells.setIfInBounds cell (.stream rest stop)⟩, ?_, .stream ?_, rfl, ?_⟩
    · rw [Cursor.next, bind_run, Eval.streamAt_run h]
      rfl
    · exact Array.getElem?_setIfInBounds_self_of_lt hcell
    · intro other c hc hne
      have hother : cell ≠ other := fun h => hne (congrArg some h)
      exact (Array.getElem?_setIfInBounds_ne hother).trans hc
  | @fixed items done =>
    obtain ⟨item, rest, rfl, rfl, rfl⟩ := number_eq_cons hall.symm
    exact ⟨.fixed rest (done + 1), s, rfl, .fixed, rfl, .refl _ s⟩

theorem Remaining.last (h : Remaining s cursor [] stop) :
    ∃ t, cursor.next s = match stop with
      | Option.none => .ok Option.none t
      | some fault => .error fault t := by
  generalize hall : [] = all at h
  cases h with
  | @list cell done items h =>
    have hend := drop_eq_nil (number_eq_nil hall.symm)
    rw [Array.getElem?_toList] at hend
    refine ⟨s, ?_⟩
    rw [Cursor.next, bind_run, Eval.listAt_run h]
    dsimp only
    rw [hend]
    rfl
  | @dict cell done entries h =>
    refine ⟨s, ?_⟩
    rw [Cursor.next, bind_run, entry?_run h, drop_eq_nil hall.symm]
    rfl
  | @view kind cell done entries h =>
    have hend := drop_eq_nil (number_eq_nil hall.symm)
    rw [getElem?_viewItems, Option.map_eq_none_iff] at hend
    refine ⟨s, ?_⟩
    rw [Cursor.next, bind_run, entry?_run h, hend]
    rfl
  | @stream cell done items fault h =>
    obtain rfl := number_eq_nil hall.symm
    rw [Cursor.next, bind_run, Eval.streamAt_run h]
    cases stop with
    | none => exact ⟨s, rfl⟩
    | some fault => exact ⟨_, rfl⟩
  | @fixed items done =>
    obtain rfl := number_eq_nil hall.symm
    exact ⟨s, rfl⟩

/-- A loop over a value begins with all the pairs still to come, or fails as telling the pairs does. -/
def Begins (v : Value) (s : Store) : Prop :=
  (∃ ps stop cursor, v.pairs s = .ok (ps, stop) s ∧ start v s = .ok cursor s ∧
    Remaining s cursor ps stop ∧ cursor.drained = v.drained) ∨
  ∃ fault, v.pairs s = .error fault s ∧
    (start v s = .error fault s ∨ ∃ cursor, start v s = .ok cursor s ∧ cursor.pending s = .error fault s)

theorem begins_fixed {v : Value} (hstart : start v = do return .fixed (← v.items) 0)
    (hpairs : v.pairs = do return (number 0 (← v.items), Option.none)) (hd : v.drained = Option.none)
    (hitems : (∃ items, v.items s = .ok items s) ∨ ∃ fault, v.items s = .error fault s) : Begins v s := by
  rcases hitems with ⟨items, hi⟩ | ⟨fault, hi⟩
  · refine .inl ⟨_, _, .fixed items 0, ?_, ?_, .fixed, hd.symm⟩
    · rw [hpairs, bind_run, hi]
      rfl
    · rw [hstart, bind_run, hi]
      rfl
  · refine .inr ⟨fault, ?_, .inl ?_⟩
    · rw [hpairs, bind_run, hi]
    · rw [hstart, bind_run, hi]

theorem begins (v : Value) (s : Store) : Begins v s := by
  cases v with
  | text _ | safe _ | bytes _ | tuple _ | range _ _ _ => exact begins_fixed rfl rfl rfl (.inl ⟨_, rfl⟩)
  | absent why lenient =>
    refine begins_fixed rfl rfl rfl ?_
    cases lenient with
    | true => exact .inl ⟨_, rfl⟩
    | false => exact .inr ⟨_, rfl⟩
  | none | bool _ | int _ | float _ | outside _ | function _ | method _ _ | other _ =>
    exact begins_fixed rfl rfl rfl (.inr ⟨_, rfl⟩)
  | list cell =>
    rcases Eval.listAt_cases cell s with ⟨items, h⟩ | h
    · refine .inl ⟨_, _, .list cell 0, ?_, rfl, .list h, rfl⟩
      simp [pairs, Value.items, itemsUpToFault, Eval.listAt_run h]
    · refine .inr ⟨.wrongType, ?_, .inr ⟨.list cell 0, rfl, ?_⟩⟩
      · simp [pairs, Value.items, itemsUpToFault, h]
      · simp [Cursor.pending, h]
  | dict cell =>
    rcases Eval.dictAt_cases cell s with ⟨entries, h⟩ | h
    · refine .inl ⟨entries, _, .dict cell entries.length 0, ?_, ?_, .dict h, rfl⟩
      · simp [pairs, Eval.dictAt_run h]
      · simp [start, Eval.dictAt_run h]
    · refine .inr ⟨.wrongType, ?_, .inl ?_⟩
      · simp [pairs, h]
      · simp [start, h]
  | view kind cell =>
    rcases Eval.dictAt_cases cell s with ⟨entries, h⟩ | h
    · refine .inl ⟨_, _, .view kind cell entries.length 0, ?_, ?_, .view h, rfl⟩
      · simp [pairs, Value.items, itemsUpToFault, Eval.dictAt_run h]
      · simp [start, Eval.dictAt_run h]
    · refine .inr ⟨.wrongType, ?_, .inl ?_⟩
      · simp [pairs, Value.items, itemsUpToFault, h]
      · simp [start, h]
  | stream cell =>
    rcases Eval.streamAt_cases cell s with ⟨items, fault, h⟩ | h
    · refine .inl ⟨_, _, .stream cell 0, ?_, rfl, .stream h, rfl⟩
      simp [pairs, Eval.streamAt_run h]
    · refine .inr ⟨.wrongType, ?_, .inr ⟨.stream cell 0, rfl, ?_⟩⟩
      · simp [pairs, h]
      · simp [Cursor.pending, h]

end Value

end Stencil

import Stencil.Engine
import Stencil.Proofs.Files.Folders
import Stencil.Proofs.Run
import Stencil.Proofs.Template.Slot
import Stencil.Proofs.Value.Cursor
import Stencil.Value.Slots
/-!
# Plain templates filled

Filling a plain template puts the text of a value in place of each slot whose key has one, all at once, and
leaves everything else as it is written.
-/

namespace Stencil

namespace Value

open Template

theorem reads_listAt (cell : Nat) : Reads (Eval.listAt cell) := by
  intro s
  rcases Eval.listAt_cases cell s with ⟨items, h⟩ | h
  · rw [Eval.listAt_run h]
    rfl
  · rw [h]
    rfl

theorem reads_dictAt (cell : Nat) : Reads (Eval.dictAt cell) := by
  intro s
  rcases Eval.dictAt_cases cell s with ⟨entries, h⟩ | h
  · rw [Eval.dictAt_run h]
    rfl
  · rw [h]
    rfl

theorem reads_integerText (n : Int) : Reads (integerText n) := by
  unfold integerText
  split
  · exact reads_throw _
  · exact reads_pure _

theorem reads_shownWithin (depth : Nat) (inside : List Nat) (v : Value) : Reads (shownWithin depth inside v) := by
  induction depth generalizing inside v with
  | zero => exact reads_throw _
  | succ depth ih =>
    have hall (inside : List Nat) (l : List Value) : Reads (l.mapM (shownWithin depth inside)) :=
      reads_mapM (ih inside) l
    unfold shownWithin
    cases v with
    | int n => exact reads_integerText n
    | tuple items =>
      rcases items with _ | ⟨item, _ | ⟨other, items⟩⟩
      · exact (hall inside _).bind fun _ => reads_pure _
      · exact (ih inside item).bind fun _ => reads_pure _
      · exact (hall inside _).bind fun _ => reads_pure _
    | list cell =>
      dsimp only
      split
      · exact reads_pure _
      · exact (reads_listAt cell).bind fun items => (hall _ _).bind fun _ => reads_pure _
    | dict cell =>
      dsimp only
      split
      · exact reads_pure _
      · refine (reads_dictAt cell).bind fun entries => Reads.bind ?_ fun _ => reads_pure _
        exact reads_mapM (fun entry => (ih _ _).bind fun _ => (ih _ _).bind fun _ => reads_pure _) entries
    | view kind cell =>
      exact (reads_dictAt cell).bind fun entries => (hall inside _).bind fun _ => reads_pure _
    | function name => split <;> first | exact reads_pure _ | contradiction
    | _ => exact reads_pure _

theorem reads_display (v : Value) : Reads v.display := by
  cases v with
  | text | safe => exact reads_pure _
  | absent why lenient =>
    cases lenient with
    | true => exact reads_pure _
    | false => exact reads_throw _
  | _ => exact reads_shownWithin _ _ _

def textIn (store : Store) (v : Value) : Except Fault String := resultAt v.display store

/-- What a part is replaced by: a slot by the text of the value that its key has, unless it has none, and
everything else by itself. -/
def placed (scope : Scope Value) (store : Store) : Part → Except Fault (List Char)
  | .plain c => .ok [c]
  | .slot key written =>
    match scope.find? (String.ofList key) with
    | Option.none | some none => .ok written
    | some v => (textIn store v).map String.toList

variable {scope : Scope Value}

theorem reads_slotText (key : String) : Reads (slotText scope key) := by
  unfold slotText
  split
  · exact reads_pure _
  · exact reads_pure _
  · exact (reads_display _).bind fun _ => reads_pure _

theorem reads_filled (p : Part) : Reads (p.filled (slotText scope)) := by
  cases p with
  | plain c => exact reads_pure _
  | slot key written => exact (reads_slotText _).bind fun _ => reads_pure _

theorem resultAt_filled (store : Store) (p : Part) :
    resultAt (p.filled (slotText scope)) store = placed scope store p := by
  have shown (v : Value) (written : List Char) : resultAt (do
      let value ← (do return some (← v.display) : Eval (Option String))
      pure ((value.map String.toList).getD written)) store = (textIn store v).map String.toList := by
    rw [(Reads.bind (reads_display v) fun _ => reads_pure _).resultAt_bind, (reads_display v).resultAt_bind,
      textIn]
    cases resultAt v.display store <;> rfl
  cases p with
  | plain c => rfl
  | slot key written =>
    rw [Part.filled, placed, slotText]
    cases scope.find? (String.ofList key) with
    | none => rfl
    | some v =>
      cases v with
      | none => rfl
      | _ => exact shown _ written

theorem fillSlots_run (text : String) (store : Store) : fillSlots scope text store =
    (MonadExcept.ofExcept (((parts text.toList).mapM (placed scope store)).map fun texts =>
      String.ofList texts.flatten) : Eval String) store := by
  have hfill : fillSlots scope text = (fun texts => String.ofList texts.flatten) <$>
      (parts text.toList).mapM (Part.filled (slotText scope)) := by
    rw [fillSlots, substitute_eq_mapM, bind_pure_comp, Functor.map_map]
  have hreads : Reads (fillSlots scope text) := by
    rw [hfill, ← bind_pure_comp]
    exact (reads_mapM reads_filled _).bind fun _ => reads_pure _
  rw [hreads.run, hfill, ← bind_pure_comp, (reads_mapM reads_filled _).resultAt_bind, resultAt_mapM reads_filled]
  simp only [resultAt_filled]
  cases (parts text.toList).mapM (placed scope store) <;> rfl

/-- A text is not the path of a file in a working directory. -/
def NamesNoFile (files : Files) (working : Path) (text : String) : Prop :=
  Path.endsInPart text.toList = false ∨ files.hasFile (working.join (Path.ofText text)).parts = false

theorem plainSource_of_namesNoFile {files : Files} {working : Path} {text : String}
    (h : NamesNoFile files working text) : Engine.plainSource files text working = .ok text := by
  unfold Engine.plainSource
  rcases h with hend | hnone
  · simp [hend]
  · simp [hnone]

/-- No two slots of a text overlap. When the text names no file, filling it puts in place of each one, all at
once, the text of the value that its key has, and leaves the slots of other keys and all that stands in no slot
as they are. -/
theorem fillSlots_at_once (scope : Scope Value) (text : String) :
    (∀ start stop key start' stop' key', SlotAt text.toList start stop key →
      SlotAt text.toList start' stop' key' →
      (start = start' ∧ stop = stop' ∧ key = key') ∨ stop ≤ start' ∨ stop' ≤ start) ∧
    (parts text.toList).flatMap Part.written = text.toList ∧
    (∀ start stop key, SlotAt text.toList start stop key ↔
      ∃ front written back, parts text.toList = front ++ .slot key written :: back ∧
        start = (front.flatMap Part.written).length ∧ stop = start + written.length) ∧
    ∀ files working store, NamesNoFile files working text →
      (do fillSlots scope (← MonadExcept.ofExcept (Engine.plainSource files text working)) : Eval String) store =
        (MonadExcept.ofExcept (((parts text.toList).mapM (placed scope store)).map fun texts =>
          String.ofList texts.flatten) : Eval String) store := by
  refine ⟨fun _ _ _ _ _ _ => SlotAt.apart, written_parts _, fun _ _ _ => slotAt_iff, fun files working store hnone => ?_⟩
  rw [plainSource_of_namesNoFile hnone]
  exact fillSlots_run text store

/-- A slot between further braces, whose value spells another slot, before a slot whose key has no value and
one whose key is unknown. -/
theorem fillSlots_at_once_sample :
    let text := "\x7b\x7b\x7b a \x7d\x7d\x7d\x7b\x7bb\x7d\x7d\x7b\x7bc\x7d\x7d"
    let scope := Scope.ofList [("a", Value.text "\x7b\x7bb\x7d\x7d\\1"), ("b", Value.none)]
    let working := Path.ofPlace ["home"]
    SlotAt text.toList 1 8 ['a'] ∧ SlotAt text.toList 9 14 ['b'] ∧
      ((1 = 9 ∧ 8 = 14 ∧ ['a'] = ['b']) ∨ 8 ≤ 9 ∨ 14 ≤ 1) ∧ NamesNoFile Files.empty working text ∧
      (do fillSlots scope (← MonadExcept.ofExcept (Engine.plainSource Files.empty text working)) : Eval String)
        Store.empty = .ok "\x7b\x7b\x7bb\x7d\x7d\\1\x7d\x7b\x7bb\x7d\x7d\x7b\x7bc\x7d\x7d" Store.empty := by
  intro text scope working
  obtain ⟨hapart, -, -, hfill⟩ := fillSlots_at_once scope text
  have hspace : Text.Blank [' '] := List.forall_mem_singleton.2 rfl
  have ha : SlotAt text.toList 1 8 ['a'] :=
    ⟨['\x7b'], _, "\x7d\x7b\x7bb\x7d\x7d\x7b\x7bc\x7d\x7d".toList,
      .mk (List.cons_ne_nil _ _) (List.forall_mem_singleton.2 rfl) hspace hspace, by decide, rfl, rfl⟩
  have hb : SlotAt text.toList 9 14 ['b'] :=
    ⟨"\x7b\x7b\x7b a \x7d\x7d\x7d".toList, _, "\x7b\x7bc\x7d\x7d".toList,
      .mk (a := []) (b := []) (List.cons_ne_nil _ _) (List.forall_mem_singleton.2 rfl) nofun nofun, by decide,
      rfl, rfl⟩
  have hfile : NamesNoFile Files.empty working text := by
    have hpath : (working.join (Path.ofText text)).parts = ["home", text] := by decide +kernel
    have henter : Files.empty.enter [] ["home"] = .error (.notFound Option.none) := by
      rw [Files.enter, Files.next_plain (by decide) (by decide) (by decide)]
      rfl
    refine .inr ?_
    rw [hpath]
    show ((Files.empty.enter [] ["home"] >>= fun folder => Files.next folder text) >>= _).toOption.isSome = _
    rw [henter]
    rfl
  refine ⟨ha, hb, hapart _ _ _ _ _ _ ha hb, hfile, ?_⟩
  rw [hfill _ _ _ hfile]
  have hparts : parts text.toList = [.plain '\x7b', .slot ['a'] "\x7b\x7b a \x7d\x7d".toList, .plain '\x7d',
    .slot ['b'] "\x7b\x7bb\x7d\x7d".toList, .slot ['c'] "\x7b\x7bc\x7d\x7d".toList] := by decide +kernel
  rw [hparts]
  rfl

end Value

end Stencil

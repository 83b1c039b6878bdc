import Stencil.Proofs.Template.Grammar
/-!
# Beginnings of templates

A sequence of signs is a beginning of a template when further signs can complete it. The automaton of the
grammar refuses just the sequences that are none, and the blocks that it has open say what can complete the
others.
-/

namespace Stencil.Template

def Viable (w : List Sign) : Prop := ∃ v, Derives .body (w ++ v)

def Context.kind : Context → BlockKind
  | .arm | .last => .choice
  | .loop => .loop

def openingSign : BlockKind → Sign
  | .choice => .choice
  | .loop => .loop

def closingSign : BlockKind → Sign
  | .choice => .endChoice
  | .loop => .endLoop

/-- Where a block begins: a choice in its first arm. -/
def Context.first : Context → Context
  | .arm | .last => .arm
  | .loop => .loop

theorem shifts_append (blocks : List Context) (u v : List Sign) :
    shifts blocks (u ++ v) = (shifts blocks u).bind (shifts · v) :=
  List.foldlM_append

theorem shift_closer (blocks : List Context) (c : Context) : shift (c :: blocks) (closingSign c.kind) = some blocks := by
  cases c <;> rfl

theorem shifts_closers (blocks : List Context) : shifts blocks (blocks.map fun c => closingSign c.kind) = some [] := by
  induction blocks with
  | nil => rfl
  | cons c blocks ih =>
    rw [List.map_cons, shifts_cons, shift_closer]
    exact ih

theorem viable_iff {w : List Sign} : Viable w ↔ ∃ blocks, shifts [] w = some blocks := by
  constructor
  · rintro ⟨v, hv⟩
    have hall := shifts_nil_iff.2 hv
    rw [shifts_append] at hall
    obtain ⟨blocks, hw, -⟩ := Option.bind_eq_some_iff.1 hall
    exact ⟨blocks, hw⟩
  · rintro ⟨blocks, hw⟩
    refine ⟨blocks.map fun c => closingSign c.kind, shifts_nil_iff.1 ?_⟩
    rw [shifts_append, hw]
    exact shifts_closers blocks

theorem Derives.append {u v : List Sign} (hu : Derives .body u) (hv : Derives .body v) :
    Derives .body (u ++ v) := by
  have hall : shifts [] (u ++ v) = shifts [] v := shifts_of_derives hu [] v
  exact shifts_nil_iff.1 (hall.trans (shifts_nil_iff.2 hv))

/-- What may stand between the opening tag of a block and its closing one, and where it ends: in an arm, in
the last body, or in the body of a loop. -/
inductive Inside : Context → List Sign → Prop where
  | arm {u : List Sign} : Derives .body u → Inside .arm u
  | further {u v : List Sign} : Inside .arm u → Derives .body v → Inside .arm (u ++ .further :: v)
  | last {u v : List Sign} : Inside .arm u → Derives .body v → Inside .last (u ++ .otherwise :: v)
  | loop {u : List Sign} : Derives .body u → Inside .loop u

theorem Inside.empty (c : Context) : Inside c.first [] := by
  cases c with
  | arm | last => exact .arm .nil
  | loop => exact .loop .nil

theorem Inside.append {c : Context} {u v : List Sign} (h : Inside c u) (hv : Derives .body v) :
    Inside c (u ++ v) := by
  cases h with
  | arm hu => exact .arm (hu.append hv)
  | further hu hw =>
    rw [List.append_assoc, List.cons_append]
    exact .further hu (hw.append hv)
  | last hu hw =>
    rw [List.append_assoc, List.cons_append]
    exact .last hu (hw.append hv)
  | loop hu => exact .loop (hu.append hv)

end Stencil.Template

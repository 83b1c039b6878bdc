import Stencil.Proofs.Template.Instruction
import Stencil.Proofs.Template.Tree
import Stencil.Template.Compile
/-!
# Trees of templates are proper

A step of the parser puts arms into choices only, so no arm stands astray in what it has read.
-/

namespace Stencil.Template

open Instruction

/-- The arms of a block that are complete have proper bodies. -/
def Head.Proper : Head → Prop
  | .arm arms _ | .last arms => SoundArms (fun _ => True) (fun _ => True) arms
  | .loop .. => True

theorem proper_reverse {body : Body} (h : Proper body) : Proper body.reverse :=
  soundAll_iff.2 fun i hi => soundAll_iff.1 h i (List.mem_reverse.1 hi)

theorem proper_addText {body : Body} (h : Proper body) (t : String) : Proper (addText t body) := by
  unfold addText
  split
  · exact h
  · exact ⟨trivial, h⟩

theorem sound_close {head : Head} {body : Body} (hh : head.Proper) (hb : Proper body) :
    Sound (fun _ => True) (fun _ => True) (head.close body) := by
  cases head with
  | arm arms cond => exact soundArms_concat hh trivial hb
  | last arms => exact ⟨hh, hb⟩
  | loop iterable key value => exact ⟨trivial, fun _ _ => ⟨trivial, trivial⟩, trivial, hb⟩

theorem kept_proper : Kept (fun _ => True) Head.Proper Proper where
  empty := trivial
  text _ h := proper_addText h _
  echo _ h := ⟨trivial, h⟩
  choice _ := trivial
  loop _ := trivial
  further _ hh hb := soundArms_concat hh trivial (proper_reverse hb)
  otherwise hh hb := soundArms_concat hh trivial (proper_reverse hb)
  close hh hb ha := ⟨sound_close hh (proper_reverse hb), ha⟩

theorem proper_tree {ps : List Piece} {body : Body} (h : tree ps = .ok body) : Proper body := by
  rw [← body.reverse_reverse]
  exact proper_reverse (kept_proper.tree (fun _ _ => trivial) h)

theorem proper_parseText {resolve : Resolver} {text : String} {body : Body}
    (h : parseText resolve text = .ok body) : Proper body := by
  obtain ⟨x, -, hx⟩ := exists_of_bind_ok h
  exact proper_tree hx

end Stencil.Template

import Stencil.Proofs.Render.Markup
/-!
# Echoes read back

An echo writes the text of a value in such a way that one pass over its entities gives the text back. Each
character is written by itself, so neither what stands around it nor what the text was made from matters.
-/

namespace Stencil.Expression

open Render Text

def echoed (s : String) : String := String.ofList (escape s.toList)

/-- A text for markup with its entities read as characters. -/
def readBack (s : String) : String := String.ofList (readEntities s.toList)

variable {a b : String}

theorem readBack_echoed (s : String) : readBack (echoed s) = s := by
  rw [readBack, echoed, String.toList_ofList, readEntities_escape, String.ofList_toList]

@[simp] theorem echoed_append (a b : String) : echoed (a ++ b) = echoed a ++ echoed b := by
  rw [echoed, String.toList_append, escape_eq_flatMap, List.flatMap_append, String.ofList_append,
    ← escape_eq_flatMap, ← escape_eq_flatMap]
  rfl

theorem echoed_eq_self_iff : echoed a = a ↔ ∀ c ∈ a.toList, c ∉ namedEntities.map (·.1) := by
  rw [← escape_eq_self_iff, echoed]
  constructor
  · intro h
    rw [← String.toList_ofList (l := escape a.toList), h]
  · intro h
    rw [h, String.ofList_toList]

theorem echo_value {v : Value} (h : v ≠ .none) : language.echo v = echoed <$> v.display := by
  rw [echo_eq_map, display_eq evaluator h]
  rfl

theorem echo_text (s : String) : language.echo (.text s) = pure (echoed s) := by
  rw [echo_value Value.noConfusion, Value.display, map_pure]

theorem echo_text_inj : language.echo (.text a) = language.echo (.text b) ↔ a = b := by
  constructor
  · intro h
    rw [echo_text, echo_text] at h
    have hrun := congrFun h Store.empty
    have hsame : echoed a = echoed b := (EStateM.Result.ok.inj hrun).1
    rw [← readBack_echoed a, hsame, readBack_echoed]
  · rintro rfl
    rfl

/-- Of every value but none the echo gives the text back when its entities are read, and it fails when the
value has no text. Of texts it is an injection that respects joining and writes each character by itself. What
an echo has written is written anew like any other text, and only a text without special characters is the
same then. -/
theorem echo_reads_back :
    (∀ v : Value, v ≠ .none → readBack <$> language.echo v = v.display) ∧
    (∀ a b : String, language.echo (.text (a ++ b)) =
      (do return (← language.echo (.text a)) ++ (← language.echo (.text b)))) ∧
    (∀ a b : String, language.echo (.text a) = language.echo (.text b) → a = b) ∧
    (∀ a : String, language.echo (.text a) = pure (String.ofList (a.toList.flatMap inMarkup))) ∧
    ∀ a : String, (do language.echo (.text (← language.echo (.text a)))) = language.echo (.text a) ↔
      ∀ c ∈ a.toList, c ∉ ['&', '<', '>', '"', '\''] := by
  refine ⟨fun v hv => ?_, fun a b => ?_, fun a b h => echo_text_inj.1 h, fun a => ?_, fun a => ?_⟩
  · have hback : readBack ∘ echoed = id := funext readBack_echoed
    rw [echo_value hv, Functor.map_map]
    exact (congrArg (· <$> v.display) hback).trans (id_map _)
  · rw [echo_text, echo_text, echo_text, echoed_append]
    rfl
  · rw [echo_text, echoed, escape_eq_flatMap]
  · have htwice : (do language.echo (.text (← language.echo (.text a)))) = language.echo (.text (echoed a)) := by
      rw [echo_text, pure_bind]
    rw [htwice, echo_text_inj]
    exact echoed_eq_self_iff

theorem echo_reads_back_sample :
    Value.safe "<i>&amp;" ≠ .none ∧
    (readBack <$> language.echo (.safe "<i>&amp;")) Store.empty = .ok "<i>&amp;" Store.empty ∧
    language.echo (.text ("&am" ++ "p;")) Store.empty = .ok ("&amp;am" ++ "p;") Store.empty := by
  obtain ⟨hback, hjoin, -, hchars, -⟩ := echo_reads_back
  have hsafe : Value.safe "<i>&amp;" ≠ .none := Value.noConfusion
  refine ⟨hsafe, ?_, ?_⟩
  · rw [hback _ hsafe]
    rfl
  · rw [hjoin, hchars, hchars]
    rfl

end Stencil.Expression

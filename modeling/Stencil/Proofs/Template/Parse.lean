import Stencil.Proofs.Template.Calls
import Stencil.Proofs.Template.Inclusion
import Stencil.Proofs.Template.Visit
import Stencil.Template.Compile
/-!
# What is a template and what is its tree

The parser keeps one open block for each context of the automaton of the grammar, so a text is a template
just when its scan is a word of the grammar, and the tree of a template is the sequence of its scan.
-/

namespace Stencil.Template

open Tag

def Head.context : Head → Context
  | .arm .. => .arm
  | .last .. => .last
  | .loop .. => .loop

def State.contexts (s : State) : List Context := s.blocks.map (·.head.context)

theorem contexts_step (s : State) (p : Piece) :
    (s.step p).toOption.map State.contexts = p.sign?.bind (shift s.contexts) := by
  obtain ⟨body, blocks⟩ := s
  cases p with
  | text t => rfl
  | bad cause line => rfl
  | mark m line =>
    cases m with
    | comment | echo | choice | loop => rfl
    | further | otherwise | endChoice | endLoop =>
      rcases blocks with _ | ⟨⟨_ | _ | _, opened, around⟩, blocks⟩ <;> rfl

theorem contexts_run {ps : List Piece} {w : List Sign} (h : ps.mapM Piece.sign? = some w) (s : State) :
    (ps.foldlM State.step s).toOption.map State.contexts = shifts s.contexts w := by
  induction ps generalizing s w with
  | nil =>
    obtain rfl := Option.some.inj h
    rfl
  | cons p ps ih =>
    rw [List.mapM_cons] at h
    obtain ⟨sign, hp, h⟩ := Option.bind_eq_some_iff.1 h
    obtain ⟨w, hw, h⟩ := Option.bind_eq_some_iff.1 h
    obtain rfl := Option.some.inj h
    have hstep := contexts_step s p
    rw [hp, Option.bind_some] at hstep
    rw [List.foldlM_cons, shifts_cons, ← hstep]
    cases s.step p with
    | error fault => rfl
    | ok next => exact ih hw next

theorem tree_ok_iff {ps : List Piece} {w : List Sign} (h : ps.mapM Piece.sign? = some w) :
    (∃ body, tree ps = .ok body) ↔ Derives .body w := by
  have hrun := contexts_run h ⟨[], []⟩
  rw [← shifts_nil_iff]
  change _ ↔ shifts (State.contexts ⟨[], []⟩) w = some []
  rw [← hrun, tree]
  cases ps.foldlM State.step ⟨[], []⟩ with
  | error fault =>
    constructor
    · rintro ⟨body, hb⟩
      cases hb
    · intro hs
      cases hs
  | ok s =>
    obtain ⟨body, blocks⟩ := s
    cases blocks with
    | nil => exact ⟨fun _ => rfl, fun _ => ⟨body.reverse, rfl⟩⟩
    | cons block blocks =>
      constructor
      · rintro ⟨body, hb⟩
        cases hb
      · intro hs
        cases hs

theorem tree_bad {ps : List Piece} {cause : TagFault} {line : Nat} (h : .bad cause line ∈ ps) (body : Body) :
    tree ps ≠ .ok body := by
  have hrun (s s' : State) : ps.foldlM State.step s ≠ .ok s' := by
    induction ps generalizing s with
    | nil => cases h
    | cons p ps ih =>
      rw [List.foldlM_cons]
      rcases List.mem_cons.1 h with rfl | h
      · exact nofun
      · cases s.step p with
        | error fault => exact nofun
        | ok next => exact ih h next
  intro ht
  obtain ⟨s, hs, -⟩ := exists_of_bind_ok ht
  exact hrun _ _ hs

/-- A text is a template just when all tags of its scan are right by themselves and in the order that the
grammar allows, and then its tree is the sequence of its scan. -/
theorem parse_ok_iff (s : List Char) :
    (∃ body, parse s = .ok body) ↔
      (∀ v ∈ visits s, v.WellFormed) ∧ Derives .body ((visits s).map Visit.sign) := by
  rcases pieces_cases s s with ⟨hall, hagree⟩ | ⟨⟨v, hv, hbad⟩, cause, line, hmem⟩
  · have := tree_ok_iff hagree.signs
    exact ⟨fun h => ⟨hall, this.1 h⟩, fun h => this.2 h.2⟩
  · constructor
    · rintro ⟨body, hb⟩
      exact absurd hb (tree_bad hmem body)
    · rintro ⟨hall, -⟩
      exact absurd (hall v hv) hbad

theorem linear_parse {s : List Char} {body : Body} (h : parse s = .ok body) :
    linearAll body = joined ((visits s).filterMap Visit.item?) := by
  rcases pieces_cases s s with ⟨-, hagree⟩ | ⟨-, cause, line, hmem⟩
  · rw [← hagree.items]
    exact linear_tree h
  · exact absurd h (tree_bad hmem body)

mutual

theorem calls_le_linear : ∀ i : Instruction String, Instruction.calls i ≤ 2 * (linear i).length
  | .literal _ | .echo _ => by simp [Instruction.calls, linear]
  | .choose arms none => by
    have harms := callsArms_le_linear arms .choice
    simp only [Instruction.calls, linear, List.length_append, List.length_singleton]
    omega
  | .choose arms (some body) => by
    have harms := callsArms_le_linear arms .choice
    have hbody := callsAll_le_linear body
    simp only [Instruction.calls, linear, List.length_append, List.length_cons, List.length_nil]
    omega
  | .loop _ _ _ body => by
    have hbody := callsAll_le_linear body
    simp only [Instruction.calls, linear, List.length_append, List.length_cons, List.length_nil]
    omega
  | .stray _ => Nat.zero_le _

theorem callsArms_le_linear : ∀ (arms : List (Arm String)) (word : String → Mark),
    Instruction.callsArms arms ≤ 2 * (linearArms word arms).length
  | [], _ => Nat.le_refl 0
  | .mk _ body :: rest, word => by
    have hbody := callsAll_le_linear body
    have hrest := callsArms_le_linear rest .further
    simp only [Instruction.callsArms, linearArms, linearArm, List.length_append, List.length_cons]
    omega

theorem callsAll_le_linear : ∀ body : Body, Instruction.callsAll body ≤ 2 * (linearAll body).length
  | [] => Nat.le_refl 0
  | i :: rest => by
    have hi := calls_le_linear i
    have hrest := callsAll_le_linear rest
    simp only [Instruction.callsAll, linearAll, List.length_append]
    omega

end

theorem length_joined_le (items : List Item) : (joined items).length ≤ items.length := by
  induction items with
  | nil => exact Nat.le_refl 0
  | cons item rest ih =>
    cases item with
    | mark m => exact Nat.succ_le_succ ih
    | text s =>
      rw [joined]
      split
      · next hrest =>
        rw [hrest] at ih
        exact Nat.le_succ_of_le ih
      · exact Nat.succ_le_succ ih

theorem calls_parse_le {s : List Char} {body : Body} (h : parse s = .ok body) :
    calls body ≤ 2 * (visits s).length + 2 := by
  have hbody := callsAll_le_linear body
  have hjoined := length_joined_le ((visits s).filterMap Visit.item?)
  have hitems := List.length_filterMap_le Visit.item? (visits s)
  rw [linear_parse h] at hbody
  rw [calls]
  omega

theorem parseText_of_expand {resolve : Resolver} {text : String} {x : List Char}
    (h : expand resolve text.toList = .ok x) : parseText resolve text = parse x := by
  rw [parseText, h]
  rfl

/-- Once its includes are expanded, a text is a template just when its scan is a word of the grammar, and
the tree of a template has every text and tag of the scan, once and in order, comments apart. -/
theorem parseText_grammar {resolve : Resolver} {text : String} {x : List Char}
    (h : expand resolve text.toList = .ok x) :
    ((∃ body, parseText resolve text = .ok body) ↔
      (∀ v ∈ visits x, v.WellFormed) ∧ Derives .body ((visits x).map Visit.sign)) ∧
    ∀ body, parseText resolve text = .ok body →
      linearAll body = joined ((visits x).filterMap Visit.item?) := by
  rw [parseText_of_expand h]
  exact ⟨parse_ok_iff x, fun body hb => linear_parse hb⟩

theorem parseText_grammar_sample :
    ∃ body, parseText none "a@if(x)b\x7b--c--\x7dd@endif" = .ok body ∧
      linearAll body = [.text "a", .mark (.choice "x"), .text "bd", .mark .endChoice] := by
  have hplain : expand (none : Resolver) "a@if(x)b\x7b--c--\x7dd@endif".toList =
      .ok "a@if(x)b\x7b--c--\x7dd@endif".toList := expand_plain (by decide)
  have h1 : next? scanRules "a@if(x)b\x7b--c--\x7dd@endif".toList =
      some (['a'], ⟨.choice, [], "x)b\x7b--c--\x7dd@endif".toList⟩) := by decide
  have h2 : next? scanRules "b\x7b--c--\x7dd@endif".toList =
      some (['b'], ⟨.comment, [], "d@endif".toList⟩) := by decide
  have h3 : next? scanRules "d@endif".toList = some (['d'], ⟨.endChoice, [], []⟩) := by decide
  have hv : visits "a@if(x)b\x7b--c--\x7dd@endif".toList =
      [.text ['a'], .tag .choice [] (some ['x']), .text ['b'], .tag .comment [] none, .text ['d'],
        .tag .endChoice [] none] := by
    rw [visits_tag h1]
    have g1 : goOn? ⟨.choice, [], "x)b\x7b--c--\x7dd@endif".toList⟩ =
        some "b\x7b--c--\x7dd@endif".toList := by decide
    have g2 : goOn? ⟨.comment, [], "d@endif".toList⟩ = some "d@endif".toList := rfl
    have g3 : goOn? ⟨.endChoice, [], []⟩ = some [] := rfl
    rw [g1, Option.map_some, visits_tag h2, g2, Option.map_some, visits_tag h3, g3, Option.map_some,
      visits_end rfl]
    rfl
  obtain ⟨hiff, hlinear⟩ := parseText_grammar hplain
  rw [hv] at hiff hlinear
  obtain ⟨body, hb⟩ := hiff.2 ⟨by simp [Visit.WellFormed, Rule.takesArgument], shifts_nil_iff.1 rfl⟩
  refine ⟨body, hb, ?_⟩
  rw [hlinear body hb]
  decide
end Stencil.Template

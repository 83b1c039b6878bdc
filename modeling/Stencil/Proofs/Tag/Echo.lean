import Stencil.Proofs.Tag.Found
/-!
# Where echoes end

An echo ends with the first closing braces after its opening ones, and its expression is what stands
between them without the white space around it. An echo with nothing but white space there is no tag by
itself: it takes in the text up to the next closing braces of its line, or stands for a white space.
-/

namespace Stencil.Tag

open Text

variable {rules : List Rule} {s : List Char} {f : Found}

theorem echoEnd_ne_nil : echoEnd ≠ [] := List.cons_ne_nil _ _

theorem not_mem_of_blank {b : List Char} (hb : Blank b) : '\x7d' ∉ b :=
  fun h => absurd (hb _ h) (by decide)

theorem cut?_blanks {b : List Char} (hb : Blank b) (s : List Char) :
    cut? echoEnd (b ++ (echoEnd ++ s)) = some (b, s) := by
  have hhere : cut? echoEnd (echoEnd ++ s) = some ([], s) := cut?_here echoEnd_ne_nil s
  rw [echoEnd, cut?_append_of_not_mem (not_mem_of_blank hb), ← echoEnd, hhere]
  simp

/-- The closing braces that end the shortest expression are the first ones, unless the text before these is
white space. -/
theorem echoBody?_cut {body after : List Char} (h : echoBody? s = some (body, after))
    (hne : after? echoEnd (dropBlanks s) = none) :
    ∃ b, Blank b ∧ Stops isBlank body.reverse ∧ cut? echoEnd s = some (body ++ b, after) := by
  -- no closing braces begin where the expression goes on
  have hskip {c : Char} {t : List Char} (hc : after? echoEnd (dropBlanks (c :: t)) = none) :
      after? echoEnd (c :: t) = none := by
    rw [Option.eq_none_iff_forall_ne_some]
    intro rest hr
    have hbrace : isBlank c = false := by
      rw [after?_eq_some_iff] at hr
      rw [(List.cons.inj hr).1]
      decide
    rw [dropBlanks, List.dropWhile_cons_of_neg (by simp [hbrace]), hr] at hc
    cases hc
  fun_induction echoBody? s generalizing body with
  | case1 => cases h
  | case2 => cases h
  | case3 c s _ rest ha =>
    obtain ⟨rfl, rfl⟩ := Prod.mk.inj (Option.some.inj h)
    obtain ⟨b, hb, hs⟩ := dropBlanks_split s
    rw [after?_eq_some_iff.1 ha] at hs
    have hc : isBlank c = false := by
      rw [Bool.eq_false_iff]
      intro hc
      rw [dropBlanks, List.dropWhile_cons_of_pos hc] at hne
      rw [dropBlanks] at ha
      rw [ha] at hne
      cases hne
    refine ⟨b, hb, stops_cons.2 hc, ?_⟩
    rw [cut?, hskip hne, hs, cut?_blanks hb]
    rfl
  | case4 c s _ hnone ih =>
    obtain ⟨⟨body', rest⟩, hr, heq⟩ := Option.map_eq_some_iff.1 h
    obtain ⟨rfl, rfl⟩ := Prod.mk.inj heq
    obtain ⟨b, hb, hstop, hcut⟩ := ih hr hnone
    refine ⟨b, hb, ?_, ?_⟩
    · obtain ⟨-, -, -, hbody⟩ := echoBody?_split hr
      rw [List.reverse_cons]
      exact hstop.append (by simpa using hbody) [c]
    · rw [cut?, hskip hne, hcut]
      rfl

theorem echoAfter?_cut {expr after between rest : List Char} (h : echoAfter? s = some (expr, after))
    (hcut : cut? echoEnd s = some (between, rest)) (hb : ¬Blank between) :
    after = rest ∧ expr = trim between := by
  obtain ⟨b₀, hb₀, hs⟩ := dropBlanks_split s
  have hne : after? echoEnd (dropBlanks s) = none := by
    rw [Option.eq_none_iff_forall_ne_some]
    intro r hr
    rw [hs, after?_eq_some_iff.1 hr, cut?_blanks hb₀] at hcut
    obtain ⟨rfl, -⟩ := Prod.mk.inj (Option.some.inj hcut)
    exact hb hb₀
  rw [echoAfter?, hne] at h
  split at h
  · next found hf =>
    obtain rfl := Option.some.inj h
    have hne' : after? echoEnd (dropBlanks (dropBlanks s)) = none := by
      rw [dropBlanks_dropBlanks]
      exact hne
    obtain ⟨b, hgap, hstop, hcut'⟩ := echoBody?_cut hf hne'
    obtain ⟨b', -, hbody, hexpr⟩ := echoBody?_split hf
    have hfirst : Stops isBlank expr := by
      have hstart := stops_dropWhile isBlank s
      rw [← dropBlanks, hbody] at hstart
      exact hstart.left
    rw [hs, echoEnd, cut?_append_of_not_mem (not_mem_of_blank hb₀), ← echoEnd, hcut'] at hcut
    obtain ⟨rfl, rfl⟩ := Prod.mk.inj (Option.some.inj hcut)
    exact ⟨rfl, (trim_append hb₀ hgap hexpr hfirst hstop).symm⟩
  · cases h

theorem echo_of_match? (hr : f.rule = .echo) (h : f.rule.match? s = some f) :
    ∃ t, s = '\x7b' :: '\x7b' :: t ∧ echoAfter? t = some (f.picked, f.rest) := by
  rw [hr] at h
  obtain ⟨t, ha, h⟩ := Option.bind_eq_some_iff.1 h
  obtain ⟨⟨expr, rest⟩, he, h⟩ := Option.bind_eq_some_iff.1 h
  obtain rfl := Option.some.inj h
  exact ⟨t, after?_eq_some_iff.1 ha, he⟩

theorem exists_cut?_echoEnd {inner after : List Char} (h : s = inner ++ (echoEnd ++ after)) :
    ∃ between rest, cut? echoEnd s = some (between, rest) := by
  cases hcut : cut? echoEnd s with
  | none =>
    rw [cut?_eq_none_iff echoEnd_ne_nil] at hcut
    exact absurd ⟨inner, after, by rw [h, List.append_assoc]⟩ hcut
  | some pair => exact ⟨pair.1, pair.2, rfl⟩

/-- What stands between the opening braces of an echo and the first closing braces after them, and what comes
after these. -/
structure Token.Encloses (t : Token) (text between after : List Char) : Prop where
  here : text.drop t.start = '\x7b' :: '\x7b' :: (between ++ (echoEnd ++ after))
  first : ∀ q < between.length, ¬echoEnd <+: (between ++ (echoEnd ++ after)).drop q

/-- An echo has an expression, and closing braces come after its opening ones. It ends directly after the
first of these, with all that stands before them for its expression, the white space around it left out, just
when something other than white space stands there. -/
theorem echo_ends_first {text : List Char} {t : Token} (h : t ∈ scan rules text) (hr : t.rule = .echo) :
    ∃ between after, t.Encloses text between after ∧ t.picked ≠ [] ∧
      (t.stop = t.start + 2 + between.length + 2 ∧ t.picked = trim between ↔ ¬Blank between) := by
  obtain ⟨front, tail, f, htext, hfirst, ht⟩ := mem_scanFrom h
  have hrule : f.rule = .echo := by rw [← hr, ht]
  obtain ⟨s, rfl, he⟩ := echo_of_match? hrule (match?_of_first? hfirst)
  obtain ⟨inner, hinner, hne⟩ := echoAfter?_split he
  obtain ⟨between, after, hcut⟩ := exists_cut?_echoEnd hinner
  obtain ⟨hs, hunended⟩ := (cut?_eq_some_iff echoEnd_ne_nil).1 hcut
  have hstart : t.start = front.length := by rw [ht, Nat.zero_add]
  have hpicked : t.picked = f.picked := by rw [ht]
  refine ⟨between, after, ⟨?_, hs ▸ hunended⟩, hpicked ▸ hne, ?_⟩
  · rw [hstart, htext, List.drop_left, ← hs]
  · constructor
    · rintro ⟨-, htrim⟩ hblank
      rw [trim_blank hblank, hpicked] at htrim
      exact hne htrim
    · intro hblank
      obtain ⟨hrest, htrim⟩ := echoAfter?_cut he hcut hblank
      refine ⟨?_, hpicked.trans htrim⟩
      have hstop : t.stop = text.length - f.rest.length := by
        rw [ht]
        exact Nat.zero_add _
      have hend : echoEnd.length = 2 := rfl
      rw [hstop, hstart, htext, hrest, hs]
      simp only [List.length_append, List.length_cons, hend]
      omega

theorem echo_ends_first_sample :
    let text := "x\x7b\x7b a\n \x7d\x7d\x7d".toList
    let t : Token := ⟨.echo, 1, 9, ['a']⟩
    t ∈ scan scanRules text ∧ ∃ between after, t.Encloses text between after ∧ t.picked ≠ [] ∧
      (t.stop = t.start + 2 + between.length + 2 ∧ t.picked = trim between ↔ ¬Blank between) := by
  intro text t
  have hnext : next? scanRules text = some (['x'], ⟨.echo, ['a'], ['\x7d']⟩) := by decide
  have hmem : t ∈ scan scanRules text := by
    rw [scan, scanFrom_tag hnext, scanFrom_end rfl]
    exact List.mem_singleton.2 rfl
  exact ⟨hmem, echo_ends_first hmem rfl⟩

/-- An echo without an expression takes in the next echo of its line. -/
theorem echo_takes_in_next :
    let text := "\x7b\x7b\x7d\x7d \x7b\x7b a \x7d\x7d".toList
    let t : Token := ⟨.echo, 0, 12, "\x7d\x7d \x7b\x7b a".toList⟩
    t ∈ scan scanRules text ∧ ∃ between after, t.Encloses text between after ∧
      t.stop ≠ t.start + 2 + between.length + 2 ∧ t.picked ≠ trim between := by
  intro text t
  have hnext : next? scanRules text = some ([], ⟨.echo, t.picked, []⟩) := by decide
  have hmem : t ∈ scan scanRules text := by
    rw [scan, scanFrom_tag hnext, scanFrom_end rfl]
    exact List.mem_singleton.2 rfl
  exact ⟨hmem, [], " \x7b\x7b a \x7d\x7d".toList, ⟨rfl, by simp⟩, by decide, by decide⟩

end Stencil.Tag

import Stencil.Proofs.Tag.Order
import Stencil.Proofs.Template.Block
import Stencil.Proofs.Template.Later
/-!
# Comments

A comment in front of a text is left out with all that stands in it, whatever tags these are. Includes are
carried out first, so a comment is what the includes written in it leave: an include in a comment asks for
its text, and when it fails there is no tree.
-/

namespace Stencil.Template

open Text Tag

def commentOpen : List Char := ['\x7b', '-', '-']

def commentEnd : List Char := ['-', '-', '\x7d']

def commented (c : List Char) : List Char := commentOpen ++ (c ++ commentEnd)

theorem cut?_commentEnd {c : List Char} (h : ¬commentEnd <:+: c) (rest : List Char) :
    cut? commentEnd (c ++ (commentEnd ++ rest)) = some (c, rest) := by
  induction c with
  | nil => rfl
  | cons a c ih =>
    rw [List.infix_cons_iff, not_or] at h
    have hno : after? commentEnd (a :: (c ++ (commentEnd ++ rest))) = none := by
      rw [Option.eq_none_iff_forall_ne_some]
      intro found hfound
      have hprefix : commentEnd <+: a :: (c ++ (commentEnd ++ rest)) :=
        ⟨found, (after?_eq_some_iff.1 hfound).symm⟩
      -- with less than three characters before the end, its brace would be a hyphen
      match c, h.1 with
      | [], _ => simp [commentEnd] at hprefix
      | [b], _ => simp [commentEnd] at hprefix
      | b :: d :: c, hinside =>
        refine hinside (List.prefix_of_prefix_length_le hprefix ?_ (by simp [commentEnd]))
        rw [← List.cons_append]
        exact List.prefix_append _ _
    rw [List.cons_append, cut?, hno, ih h.2]
    rfl

theorem next?_commented {c : List Char} (h : ¬commentEnd <:+: c) (rest : List Char) :
    next? scanRules (commented c ++ rest) = some ([], ⟨.comment, [], rest⟩) := by
  have hmem : Rule.comment ∈ scanRules := by decide
  have hmatch : Rule.comment.match? (commented c ++ rest) = some ⟨.comment, [], rest⟩ := by
    rw [commented, List.append_assoc, List.append_assoc]
    change (cut? commentEnd (c ++ (commentEnd ++ rest))).bind _ = _
    rw [cut?_commentEnd h]
    rfl
  refine next?_of_first? (orderly_scanRules.first?_eq_some_iff.2 ⟨hmem, hmatch, ?_⟩) (List.cons_ne_nil _ _)
  intro hlast
  cases hlast

theorem parse_commented {c : List Char} (h : ¬commentEnd <:+: c) (s : List Char) :
    parse (commented c ++ s) = (parse s).mapError (Fault.later (lineFeeds (commented c))) := by
  have hnext := next?_commented h s
  rw [parse, pieces, piecesFrom_mark hnext rfl, piecesFrom_later _ List.suffix_rfl]
  exact tree_later _ _

section

variable {σ : Type} {fetch : Option (String → EStateM Fault σ (List Char))}

theorem throw_map (f : List Char → List Char) (fault : Fault) :
    f <$> (throw fault : EStateM Fault σ (List Char)) = throw fault := rfl

theorem expandFrom_joined {z : Char} (hz : z ∉ includeMark) {template s x : List Char} {log log' : σ}
    (h : expandFrom fetch template s log = .ok x log') (template' b : List Char) :
    expandFrom fetch template' (s ++ z :: b) log =
      ((x ++ z :: ·) <$> expandFrom fetch template' b) log' := by
  fun_induction includeNames s generalizing x log with
  | case1 s hc =>
    rw [expandFrom_plain hc] at h
    obtain ⟨rfl, rfl⟩ := EStateM.Result.ok.inj h
    exact congrFun (expandFrom_before throw_map hz ⟨(cut?_eq_none_iff includeMark_ne_nil).1 hc⟩ template' b) log
  | case2 s before after hc ha =>
    rw [expandFrom_endless hc ha] at h
    cases h
  | case3 s before after hc argument rest ha _ _ ih =>
    cases fetch with
    | none =>
      rw [expandFrom_unresolved hc ha] at h
      cases h
    | some fetch =>
      rw [expandFrom_include hc ha] at h
      obtain ⟨inner, log₁, hinner, h⟩ := exists_of_run_ok h
      obtain ⟨outer, log₂, houter, h⟩ := exists_of_run_ok h
      obtain ⟨rfl, rfl⟩ := EStateM.Result.ok.inj h
      rw [expandFrom_include (cut?_append includeMark_ne_nil hc _) (argument?_append ha _), bind_ok hinner,
        bind_run, ih houter, map_run, map_run]
      cases expandFrom (some fetch) template' b log₂ with
      | error fault log₃ => rfl
      | ok y log₃ => simp [pure, EStateM.pure]

@[simp] theorem lineAt_append (t s u : List Char) : lineAt (t ++ u) (s ++ u) = lineAt t s := by
  simp only [lineAt, lineFeeds, List.count_append, Nat.add_sub_add_right]

theorem expandFrom_failed {template s : List Char} {fault : Fault} {log log' : σ}
    (h : expandFrom fetch template s log = .error fault log')
    (hended : ∀ line, fault ≠ .tag .endlessInclude line) (u : List Char) :
    expandFrom fetch (template ++ u) (s ++ u) log = .error fault log' := by
  fun_induction includeNames s generalizing log with
  | case1 s hc =>
    rw [expandFrom_plain hc] at h
    cases h
  | case2 s before after hc ha =>
    rw [expandFrom_endless hc ha] at h
    cases h
    exact absurd rfl (hended _)
  | case3 s before after hc argument rest ha _ _ ih =>
    have hcut := cut?_append includeMark_ne_nil hc u
    have harg := argument?_append ha u
    cases fetch with
    | none =>
      rw [expandFrom_unresolved hc ha] at h
      rw [expandFrom_unresolved hcut harg, ← List.append_assoc, lineAt_append]
      exact h
    | some fetch =>
      rw [expandFrom_include hc ha] at h
      rw [expandFrom_include hcut harg]
      rcases cases_of_run_error h with hinner | ⟨inner, log₁, hinner, h⟩
      · exact bind_error hinner
      · rw [bind_ok hinner]
        rcases cases_of_run_error h with houter | ⟨outer, log₂, -, h⟩
        · exact bind_error (ih houter)
        · cases h

variable {resolve : Option (String → EStateM Fault σ String)} {c x : List Char} {log log' : σ}

theorem exists_fetch (resolve : Option (String → EStateM Fault σ String)) :
    ∃ fetch, ∀ t, expand resolve t = expandFrom fetch t t :=
  ⟨_, fun _ => rfl⟩

theorem expandFrom_commentOpen (template s : List Char) :
    expandFrom fetch template (commentOpen ++ s) = (commentOpen ++ ·) <$> expandFrom fetch template s :=
  expandFrom_before throw_map (u := ['\x7b', '-']) (z := '-') (by decide) ⟨by decide⟩ template s

theorem expandFrom_commentEnd {template s : List Char} (h : expandFrom fetch template s log = .ok x log')
    (template' b : List Char) :
    expandFrom fetch template' (s ++ (commentEnd ++ b)) log =
      ((fun y => x ++ (commentEnd ++ y)) <$> expandFrom fetch template' b) log' := by
  have hbrace : expandFrom fetch template' (['-'] ++ '\x7d' :: b) =
      (['-'] ++ '\x7d' :: ·) <$> expandFrom fetch template' b :=
    expandFrom_before throw_map (by decide) ⟨by decide⟩ template' b
  change expandFrom fetch template' (s ++ '-' :: (['-'] ++ '\x7d' :: b)) log = _
  rw [expandFrom_joined (by decide) h, hbrace, Functor.map_map]
  rfl

theorem expand_commented (h : expand resolve c log = .ok x log') (b : List Char) :
    ∃ k, expand resolve (commented c ++ b) log =
      laterRun k (((commented x ++ ·) <$> expand resolve b) log') := by
  obtain ⟨fetch, hfetch⟩ := exists_fetch resolve
  obtain ⟨k, -, hlater⟩ := expandFrom_later fetch (commented c) (List.suffix_refl b) log'
  refine ⟨k, ?_⟩
  rw [hfetch] at h
  have hjoined (template : List Char) : expandFrom fetch template (commented c ++ b) log =
      ((commented x ++ ·) <$> expandFrom fetch template b) log' := by
    rw [commented, List.append_assoc, List.append_assoc, expandFrom_commentOpen, map_run,
      expandFrom_commentEnd h, map_run, map_run]
    cases expandFrom fetch template b log' with
    | error fault log₁ => rfl
    | ok y log₁ => simp [commented]
  rw [hfetch, hfetch, hjoined, map_run, hlater, map_run]
  cases expandFrom fetch b b log' <;> rfl

theorem expand_commented_failed {fault : Fault} (h : expand resolve c log = .error fault log')
    (hended : ∀ line, fault ≠ .tag .endlessInclude line) (b : List Char) :
    expand resolve (commented c ++ b) log = .error fault log' := by
  obtain ⟨fetch, hfetch⟩ := exists_fetch resolve
  rw [hfetch] at h
  have hfailed := expandFrom_failed h hended (commentEnd ++ b)
  -- the beginning of a comment has no line feed
  obtain ⟨k, hk, hlater⟩ :=
    expandFrom_later fetch commentOpen (List.suffix_refl (c ++ (commentEnd ++ b))) log
  obtain rfl : k = 0 := Nat.le_zero.1 hk
  rw [hfetch, commented, List.append_assoc, List.append_assoc, expandFrom_commentOpen, map_run, hlater,
    hfailed]
  exact congrArg (EStateM.Result.error · log') (Fault.later_zero fault)

end

/-- The names that are asked for when a text is expanded, in order. -/
def Asks (resolve : Resolver) (text : List Char) (names : List String) : Prop :=
  ∀ log, expand (resolve.map asking) text log = noted (log ++ names) (expand resolve text)

variable {resolve : Resolver} {text c x : List Char} {names own : List String}

theorem asks_of_told {result : Except Fault (List Char)}
    (h : Told (expand resolve text) (expand (resolve.map asking) text) names result) :
    Asks resolve text names := by
  intro log
  rw [h.gives]
  exact h.asks log

theorem exists_asks (resolve : Resolver) (text : List Char) : ∃ names, Asks resolve text names := by
  cases resolve with
  | none =>
    obtain ⟨result, htold, -⟩ := told_without text
    exact ⟨[], asks_of_told htold⟩
  | some r =>
    rcases carriedOut_within r deepestNesting text with ⟨asked, result, htold, -⟩ | ⟨asked, -, htold, -⟩
    · exact ⟨asked, asks_of_told htold⟩
    · exact ⟨asked, asks_of_told htold⟩

theorem told_missing {r : String → Except Fault String} {before after argument rest : List Char} {fault : Fault}
    (hc : cut? includeMark text = some (before, after)) (ha : argument? after = some (argument, rest))
    (hr : r (includeName argument) = .error fault) :
    Told (expand (some r) text) (expand (some (asking r)) text) [includeName argument] (.error fault) := by
  change Told (expandFrom (some (fetching r 899)) text text)
    (expandFrom (some (fetching (asking r) 899)) text text) _ _
  rw [expandFrom_include hc ha, expandFrom_include hc ha]
  exact (told_fetching_missing hr 899).stop

theorem asks_free (h : Free text) : Asks resolve text [] := by
  intro log
  rw [expand_free h, expand_free h, List.append_nil]
  rfl

theorem noted_injective {α : Type} {log log' : List String} {a a' : Except Fault α}
    (h : noted log a = noted log' a') : log = log' ∧ a = a' := by
  cases a with
  | ok a =>
    cases a' with
    | ok a' =>
      obtain ⟨rfl, rfl⟩ := EStateM.Result.ok.inj h
      exact ⟨rfl, rfl⟩
    | error => cases h
  | error fault =>
    cases a' with
    | ok => cases h
    | error fault' =>
      obtain ⟨rfl, rfl⟩ := EStateM.Result.error.inj h
      exact ⟨rfl, rfl⟩

theorem asks_of_run {result : Except Fault (List Char)}
    (h : expand (resolve.map asking) text [] = noted names result) :
    expand resolve text = result ∧ Asks resolve text names := by
  obtain ⟨asked, hasked⟩ := exists_asks resolve text
  obtain ⟨rfl, hresult⟩ := noted_injective ((hasked []).symm.trans h)
  exact ⟨hresult, hasked⟩

theorem expand_dropped (hx : expand resolve c = .ok x) (hown : Asks resolve c own) {b : List Char}
    (hb : Asks resolve b names) :
    ∃ k, expand resolve (commented c ++ b) =
        ((expand resolve b).map (commented x ++ ·)).mapError (Fault.later k) ∧
      Asks resolve (commented c ++ b) (own ++ names) := by
  have hrun := hown []
  rw [hx] at hrun
  obtain ⟨k, hwhole⟩ := expand_commented hrun b
  refine ⟨k, asks_of_run ?_⟩
  rw [hwhole, map_run, hb]
  cases expand resolve b <;> rfl

/-- A text in front of another one changes nothing but the lines of what is wrong with that one, and has some
names asked for before the names of that one. -/
structure Dropped (resolve : Resolver) (front b : List Char) (own : List String) : Prop where
  outcome : ∃ k,
    parseText resolve (String.ofList (front ++ b)) =
      (parseText resolve (String.ofList b)).mapError (Fault.later k) ∧
    compile resolve (String.ofList (front ++ b)) =
      (compile resolve (String.ofList b)).mapError (Fault.later k)
  asks : ∀ names, Asks resolve b names → Asks resolve (front ++ b) (own ++ names)

theorem dropped_commented (hx : expand resolve c = .ok x) (hend : ¬commentEnd <:+: x)
    (hown : Asks resolve c own) (b : List Char) : Dropped resolve (commented c) b own := by
  refine ⟨?_, fun names hnames => ?_⟩
  · have htree : ∃ k, parseText resolve (String.ofList (commented c ++ b)) =
        (parseText resolve (String.ofList b)).mapError (Fault.later k) := by
      obtain ⟨names, hnames⟩ := exists_asks resolve b
      obtain ⟨k, hexpand, -⟩ := expand_dropped hx hown hnames
      rw [parseText, parseText, String.toList_ofList, String.toList_ofList, hexpand]
      cases expand resolve b with
      | error fault => exact ⟨k, rfl⟩
      | ok y => exact ⟨_, parse_commented hend y⟩
    obtain ⟨k, htree⟩ := htree
    refine ⟨k, htree, ?_⟩
    rw [compile, compile, htree]
    cases parseText resolve (String.ofList b) with
    | error fault => rfl
    | ok body =>
      show dumpWithin callRoom (fields body) = (dumpWithin callRoom (fields body)).mapError (Fault.later k)
      unfold dumpWithin
      split <;> rfl
  · obtain ⟨k, -, hasks⟩ := expand_dropped hx hown hnames
    exact hasks

/-- A comment in which no include begins is left out with all that stands in it, and asks for nothing. One
with includes is left out when they are carried out and bring in no end of a comment, and asks for what they
ask for. When they fail, the whole text fails in the same way. -/
theorem comment_dropped (resolve : Resolver) (c b : List Char) :
    (Free c → ¬commentEnd <:+: c → Dropped resolve (commented c) b []) ∧
    (∀ x own, expand resolve c = .ok x → ¬commentEnd <:+: x → Asks resolve c own →
      Dropped resolve (commented c) b own) ∧
    (∀ fault own, expand resolve c = .error fault → (∀ line, fault ≠ .tag .endlessInclude line) →
      Asks resolve c own →
      parseText resolve (String.ofList (commented c ++ b)) = .error fault ∧
        Asks resolve (commented c ++ b) own) := by
  refine ⟨fun hfree hend => ?_, fun x own hx hend hown => ?_, fun fault own hfault hended hown => ?_⟩
  · exact dropped_commented (expand_free hfree) hend (asks_free hfree) b
  · exact dropped_commented hx hend hown b
  · have hrun := hown []
    rw [hfault] at hrun
    have hwhole : expand (resolve.map asking) (commented c ++ b) [] = noted own (.error fault) :=
      expand_commented_failed hrun hended b
    obtain ⟨hexpand, hasks⟩ := asks_of_run hwhole
    refine ⟨?_, hasks⟩
    rw [parseText, String.toList_ofList, hexpand]
    rfl

theorem comment_dropped_sample :
    let read : String → Except Fault String := fun name =>
      if name = "note" then .ok "kept" else .error (.notFound (some name))
    let tags := " @if(')' \n\x7b\x7b @endforeach".toList
    let note := "@include('note')".toList
    let gone := "@include('gone')".toList
    let b := "Hello\n@endif".toList
    Dropped (some read) (commented tags) b [] ∧ Dropped (some read) (commented note) b ["note"] ∧
      parseText (some read) (String.ofList (commented gone ++ b)) = .error (.notFound (some "gone")) := by
  intro read tags note gone b
  have hkept : Told (expand (some read) note) (expand (some (asking read)) note) ["note"] (.ok "kept".toList) := by
    have hinner : Told (expandWithin (some read) 899 "kept".toList)
        (expandWithin (some (asking read)) 899 "kept".toList) [] (.ok "kept".toList) := by
      change Told (expandFrom _ _ _) (expandFrom _ _ _) _ _
      rw [expandFrom_plain (by decide), expandFrom_plain (by decide)]
      exact told_pure _
    have hcut : cut? includeMark note = some ([], "'note')".toList) := by decide
    have harg : argument? "'note')".toList = some ("'note'".toList, []) := by decide
    have hname : includeName "'note'".toList = "note" := by decide
    change Told (expandFrom (some (fetching read 899)) note note)
      (expandFrom (some (fetching (asking read) 899)) note note) _ _
    rw [expandFrom_include hcut harg, expandFrom_include hcut harg, expandFrom_plain rfl, expandFrom_plain rfl,
      hname]
    exact (told_fetching (r := read) rfl hinner).bind ((told_pure []).map _)
  have hlost : Told (expand (some read) gone) (expand (some (asking read)) gone) ["gone"]
      (.error (.notFound (some "gone"))) := by
    have hcut : cut? includeMark gone = some ([], "'gone')".toList) := by decide
    have harg : argument? "'gone')".toList = some ("'gone'".toList, []) := by decide
    have hname : includeName "'gone'".toList = "gone" := by decide
    have hread : read (includeName "'gone'".toList) = .error (.notFound (some "gone")) := by
      rw [hname]
      rfl
    have h := told_missing hcut harg hread
    rwa [hname] at h
  obtain ⟨hfree, -, -⟩ := comment_dropped (some read) tags b
  obtain ⟨-, hcarried, -⟩ := comment_dropped (some read) note b
  obtain ⟨-, -, hfailed⟩ := comment_dropped (some read) gone b
  refine ⟨hfree ⟨by decide +kernel⟩ (by decide +kernel), ?_, ?_⟩
  · exact hcarried _ _ hkept.gives (by decide +kernel) (asks_of_told hkept)
  · exact (hfailed _ _ hlost.gives (by simp) (asks_of_told hlost)).1

/-- An include in a comment fails, and the text after the comment with it. -/
theorem include_in_comment_fails :
    let resolve : Resolver := some fun name => .error (.notFound (some name))
    let c := " @include('gone') ".toList
    let b := "Hello".toList
    ¬commentEnd <:+: c ∧ parseText resolve (String.ofList b) = .ok [.literal "Hello"] ∧
      parseText resolve (String.ofList (commented c ++ b)) = .error (.notFound (some "gone")) ∧
      ¬∃ k, parseText resolve (String.ofList (commented c ++ b)) =
        (parseText resolve (String.ofList b)).mapError (Fault.later k) := by
  intro resolve c b
  have htext : parseText resolve (String.ofList b) = .ok [.literal "Hello"] := by
    have hexpand : expand resolve b = .ok b := expand_plain (by decide)
    have hnext : next? scanRules b = none := by decide
    rw [parseText, String.toList_ofList, hexpand]
    change parse b = _
    rw [parse, pieces, piecesFrom_end hnext]
    rfl
  have hfail : parseText resolve (String.ofList (commented c ++ b)) = .error (.notFound (some "gone")) := by
    have hcut : cut? includeMark (commented c ++ b) =
        some ("\x7b-- ".toList, "'gone') --\x7dHello".toList) := by decide
    have harg : argument? "'gone') --\x7dHello".toList = some ("'gone'".toList, " --\x7dHello".toList) := by
      decide
    have hname : includeName "'gone'".toList = "gone" := by decide
    have hexpand : expand resolve (commented c ++ b) = .error (.notFound (some (includeName "'gone'".toList))) :=
      (told_missing hcut harg rfl).gives
    rw [parseText, String.toList_ofList, hexpand, hname]
    rfl
  refine ⟨by decide +kernel, htext, hfail, ?_⟩
  rintro ⟨k, h⟩
  rw [htext, hfail] at h
  cases h

end Stencil.Template

import Stencil.Proofs.Template.Viable
import Stencil.Proofs.Template.Visit
/-!
# Where the tags of a text are

The scan of a text with the offsets of all that it meets, and the blocks that a scan leaves open, each with
the tag that opened it.
-/

namespace Stencil.Template

open Text Tag

structure Sight where
  visit : Visit
  start : Nat
deriving Repr, DecidableEq

namespace Sight

/-- The line of a text on which a visit begins. -/
def line (text : List Char) (t : Sight) : Nat := lineFeeds (text.take t.start) + 1

/-- The sign that a visit is in the grammar. -/
def sign (t : Sight) : Sign := t.visit.sign

end Sight

def sightText (offset : Nat) (s : List Char) : List Sight := (visitText s).map (⟨·, offset⟩)

def sightsFrom (offset : Nat) (s : List Char) : List Sight :=
  match h : next? scanRules s with
  | none => sightText offset s
  | some (gap, f) =>
    sightText offset gap ++ ⟨visitOf f, offset + gap.length⟩ ::
      match hg : goOn? f with
      | none => []
      | some rest =>
        have := length_of_next? h
        have := length_of_goOn? hg
        sightsFrom (offset + (s.length - rest.length)) rest
termination_by s.length

def sights (text : List Char) : List Sight := sightsFrom 0 text

theorem sightsFrom_end {s : List Char} (h : next? scanRules s = none) (offset : Nat) :
    sightsFrom offset s = sightText offset s := by
  rw [sightsFrom]
  split
  · rfl
  · next hn =>
    rw [h] at hn
    cases hn

theorem sightsFrom_tag {s gap : List Char} {f : Found} (h : next? scanRules s = some (gap, f)) (offset : Nat) :
    sightsFrom offset s = sightText offset gap ++ ⟨visitOf f, offset + gap.length⟩ ::
      ((goOn? f).map fun rest => sightsFrom (offset + (s.length - rest.length)) rest).getD [] := by
  rw [sightsFrom]
  split
  · next hn =>
    rw [h] at hn
    cases hn
  · next hn =>
    rw [h] at hn
    obtain ⟨rfl, rfl⟩ := Prod.mk.inj (Option.some.inj hn)
    split
    · next hg => simp only [hg, Option.map_none, Option.getD_none]
    · next hg => simp only [hg, Option.map_some, Option.getD_some]

/-- The blocks that a sequence of visits leaves open, innermost first, each with the part of it that is
being read and the visit that opened it. A block is open when only what may stand inside of it comes after
the visit. -/
inductive LeavesOpen : List Sight → List (Context × Sight) → Prop where
  | none {w : List Sight} : Derives .body (w.map Sight.sign) → LeavesOpen w []
  | block {w inner : List Sight} {blocks : List (Context × Sight)} {c : Context} {t : Sight} :
      LeavesOpen w blocks → t.sign = openingSign c.kind → Inside c (inner.map Sight.sign) →
      LeavesOpen (w ++ t :: inner) ((c, t) :: blocks)

def advance (blocks : List (Context × Sight)) (t : Sight) : Option (List (Context × Sight)) :=
  match blocks, t.sign with
  | blocks, .literal | blocks, .echo | blocks, .comment => some blocks
  | blocks, .choice => some ((.arm, t) :: blocks)
  | blocks, .loop => some ((.loop, t) :: blocks)
  | (.arm, o) :: blocks, .further => some ((.arm, o) :: blocks)
  | (.arm, o) :: blocks, .otherwise => some ((.last, o) :: blocks)
  | (.arm, _) :: blocks, .endChoice | (.last, _) :: blocks, .endChoice => some blocks
  | (.loop, _) :: blocks, .endLoop => some blocks
  | _, _ => none

def advances (blocks : List (Context × Sight)) (w : List Sight) : Option (List (Context × Sight)) :=
  w.foldlM advance blocks

theorem advances_cons (blocks : List (Context × Sight)) (t : Sight) (w : List Sight) :
    advances blocks (t :: w) = (advance blocks t).bind (advances · w) :=
  List.foldlM_cons

theorem advances_append (blocks : List (Context × Sight)) (u v : List Sight) :
    advances blocks (u ++ v) = (advances blocks u).bind (advances · v) :=
  List.foldlM_append

theorem advances_split {blocks middle next : List (Context × Sight)} {front : List Sight} {t : Sight}
    (hfront : advances blocks front = some middle) (ht : advance middle t = some next) (back : List Sight) :
    advances blocks (front ++ t :: back) = advances next back := by
  rw [advances_append, hfront, Option.bind_some, advances_cons, ht, Option.bind_some]

theorem advance_contexts (blocks : List (Context × Sight)) (t : Sight) :
    (advance blocks t).map (List.map Prod.fst) = shift (blocks.map Prod.fst) t.sign := by
  unfold advance
  cases ht : t.sign with
  | literal | echo | comment | choice | loop => rcases blocks with _ | ⟨⟨_ | _ | _, _⟩, _⟩ <;> rfl
  | further | otherwise | endChoice | endLoop => rcases blocks with _ | ⟨⟨_ | _ | _, _⟩, _⟩ <;> rfl

theorem advances_contexts (blocks : List (Context × Sight)) (w : List Sight) :
    (advances blocks w).map (List.map Prod.fst) = shifts (blocks.map Prod.fst) (w.map Sight.sign) := by
  induction w generalizing blocks with
  | nil => rfl
  | cons t w ih =>
    rw [advances_cons, List.map_cons, shifts_cons, ← advance_contexts]
    cases advance blocks t with
    | none => rfl
    | some next => exact ih next

theorem advance_eq_none {blocks : List (Context × Sight)} {t : Sight}
    (h : shift (blocks.map Prod.fst) t.sign = none) : advance blocks t = none := by
  have hcontexts := advance_contexts blocks t
  rw [h] at hcontexts
  exact Option.map_eq_none_iff.1 hcontexts

theorem advance_frame {blocks next : List (Context × Sight)} {t : Sight} (h : advance blocks t = some next)
    (outer : List (Context × Sight)) : advance (blocks ++ outer) t = some (next ++ outer) := by
  unfold advance at h ⊢
  cases ht : t.sign <;> rw [ht] at h <;> rcases blocks with _ | ⟨⟨_ | _ | _, _⟩, _⟩ <;> cases h <;> rfl

theorem advances_frame {blocks next : List (Context × Sight)} {w : List Sight}
    (h : advances blocks w = some next) (outer : List (Context × Sight)) :
    advances (blocks ++ outer) w = some (next ++ outer) := by
  induction w generalizing blocks with
  | nil =>
    obtain rfl := Option.some.inj h
    rfl
  | cons t w ih =>
    rw [advances_cons] at h ⊢
    obtain ⟨middle, ht, hw⟩ := Option.bind_eq_some_iff.1 h
    rw [advance_frame ht, Option.bind_some]
    exact ih hw

theorem advances_body {w : List Sight} (h : Derives .body (w.map Sight.sign))
    (blocks : List (Context × Sight)) : advances blocks w = some blocks := by
  have hcontexts := advances_contexts [] w
  rw [List.map_nil, shifts_nil_iff.2 h] at hcontexts
  obtain ⟨next, hnext, hnil⟩ := Option.map_eq_some_iff.1 hcontexts
  obtain rfl := List.map_eq_nil_iff.1 hnil
  exact advances_frame hnext blocks

theorem advance_leaf {t : Sight} (h : t.sign.isLeaf = true) (blocks : List (Context × Sight)) :
    advance blocks t = some blocks := by
  unfold advance
  cases ht : t.sign <;> rw [ht] at h <;> first | rfl | cases h

theorem advance_opener {t : Sight} {c : Context} (h : t.sign = openingSign c.kind)
    (blocks : List (Context × Sight)) : advance blocks t = some ((c.first, t) :: blocks) := by
  unfold advance
  rw [h]
  cases c <;> rfl

theorem advance_further {t : Sight} (h : t.sign = .further) (o : Sight) (blocks : List (Context × Sight)) :
    advance ((.arm, o) :: blocks) t = some ((.arm, o) :: blocks) := by
  unfold advance
  rw [h]

theorem advance_otherwise {t : Sight} (h : t.sign = .otherwise) (o : Sight)
    (blocks : List (Context × Sight)) : advance ((.arm, o) :: blocks) t = some ((.last, o) :: blocks) := by
  unfold advance
  rw [h]

theorem advance_closer {t : Sight} {c : Context} (h : t.sign = closingSign c.kind) (o : Sight)
    (blocks : List (Context × Sight)) : advance ((c, o) :: blocks) t = some blocks := by
  unfold advance
  rw [h]
  cases c <;> rfl

theorem advances_inside {c : Context} {inner : List Sight} (h : Inside c (inner.map Sight.sign)) (t : Sight)
    (blocks : List (Context × Sight)) :
    advances ((c.first, t) :: blocks) inner = some ((c, t) :: blocks) := by
  generalize hw : inner.map Sight.sign = w at h
  induction h generalizing inner with
  | arm hu | loop hu => exact advances_body (hw ▸ hu) _
  | further _ hv ih =>
    obtain ⟨front, back, rfl, hfront, hback⟩ := List.map_eq_append_iff.1 hw
    obtain ⟨turn, back, rfl, hturn, hback⟩ := List.map_eq_cons_iff.1 hback
    rw [advances_split (ih hfront) (advance_further hturn t blocks)]
    exact advances_body (hback ▸ hv) _
  | last _ hv ih =>
    obtain ⟨front, back, rfl, hfront, hback⟩ := List.map_eq_append_iff.1 hw
    obtain ⟨turn, back, rfl, hturn, hback⟩ := List.map_eq_cons_iff.1 hback
    have hsplit := advances_split (ih hfront) (advance_otherwise hturn t blocks) back
    exact hsplit.trans (advances_body (hback ▸ hv) _)

theorem advances_of_leavesOpen {w : List Sight} {blocks : List (Context × Sight)} (h : LeavesOpen w blocks) :
    advances [] w = some blocks := by
  induction h with
  | none hw => exact advances_body hw []
  | block _ ht hinner ih =>
    rw [advances_split ih (advance_opener ht _)]
    exact advances_inside hinner _ _

theorem LeavesOpen.append {w u : List Sight} {blocks : List (Context × Sight)} (h : LeavesOpen w blocks)
    (hu : Derives .body (u.map Sight.sign)) : LeavesOpen (w ++ u) blocks := by
  cases h with
  | none hw =>
    refine .none ?_
    rw [List.map_append]
    exact hw.append hu
  | block hw ht hinner =>
    rw [List.append_assoc, List.cons_append]
    refine .block hw ht ?_
    rw [List.map_append]
    exact hinner.append hu

theorem derives_block {t o : Sight} {c : Context} {inner : List Sight} (ht : t.sign = openingSign c.kind)
    (hinner : Inside c (inner.map Sight.sign)) (ho : o.sign = closingSign c.kind) :
    Derives .body ((t :: (inner ++ [o])).map Sight.sign) := by
  have hrun : advances [] (t :: (inner ++ [o])) = some [] := by
    rw [advances_cons, advance_opener ht, Option.bind_some,
      advances_split (advances_inside hinner t []) (advance_closer ho t [])]
    rfl
  have hcontexts := advances_contexts [] (t :: (inner ++ [o]))
  rw [hrun] at hcontexts
  exact shifts_nil_iff.1 hcontexts.symm

theorem LeavesOpen.turn {w : List Sight} {blocks : List (Context × Sight)} {c c' : Context} {t o : Sight}
    (h : LeavesOpen w ((c, o) :: blocks)) (hkind : c'.kind = c.kind)
    (hinside : ∀ u, Inside c u → Inside c' (u ++ [t.sign])) : LeavesOpen (w ++ [t]) ((c', o) :: blocks) := by
  cases h with
  | block hw ho hinner =>
    rw [List.append_assoc, List.cons_append]
    refine .block hw (hkind ▸ ho) ?_
    rw [List.map_append]
    exact hinside _ hinner

theorem LeavesOpen.close {w : List Sight} {blocks : List (Context × Sight)} {c : Context} {t o : Sight}
    (h : LeavesOpen w ((c, o) :: blocks)) (ht : t.sign = closingSign c.kind) : LeavesOpen (w ++ [t]) blocks := by
  cases h with
  | block hw ho hinner =>
    rw [List.append_assoc, List.cons_append]
    exact hw.append (derives_block ho hinner ht)

theorem LeavesOpen.concat {w : List Sight} {blocks next : List (Context × Sight)} {t : Sight}
    (h : LeavesOpen w blocks) (ht : advance blocks t = some next) : LeavesOpen (w ++ [t]) next := by
  have leaf (hleaf : t.sign.isLeaf = true) : LeavesOpen (w ++ [t]) blocks := h.append (.leaf hleaf .nil)
  -- one case for each way in which the automaton goes on
  unfold advance at ht
  split at ht
  case h_1 hs | h_2 hs | h_3 hs =>
    obtain rfl := Option.some.inj ht
    exact leaf (by rw [hs]; rfl)
  case h_4 hs =>
    obtain rfl := Option.some.inj ht
    exact .block h hs (.empty .arm)
  case h_5 hs =>
    obtain rfl := Option.some.inj ht
    exact .block h hs (.empty .loop)
  case h_6 hs =>
    obtain rfl := Option.some.inj ht
    exact h.turn rfl fun u hu => hs ▸ .further hu .nil
  case h_7 hs =>
    obtain rfl := Option.some.inj ht
    exact h.turn rfl fun u hu => hs ▸ .last hu .nil
  case h_8 hs | h_9 hs | h_10 hs =>
    obtain rfl := Option.some.inj ht
    exact h.close hs
  case h_11 => cases ht

theorem leavesOpen_of_advances {before w : List Sight} {blocks next : List (Context × Sight)}
    (h : LeavesOpen before blocks) (hw : advances blocks w = some next) : LeavesOpen (before ++ w) next := by
  induction w generalizing before blocks with
  | nil =>
    obtain rfl := Option.some.inj hw
    rw [List.append_nil]
    exact h
  | cons t w ih =>
    rw [advances_cons] at hw
    obtain ⟨middle, ht, hw⟩ := Option.bind_eq_some_iff.1 hw
    have hall := ih (h.concat ht) hw
    rwa [List.append_assoc] at hall

theorem leavesOpen_iff {w : List Sight} {blocks : List (Context × Sight)} :
    LeavesOpen w blocks ↔ advances [] w = some blocks :=
  ⟨advances_of_leavesOpen, fun h => leavesOpen_of_advances (.none (w := []) .nil) h⟩

theorem LeavesOpen.unique {w : List Sight} {blocks blocks' : List (Context × Sight)} (h : LeavesOpen w blocks)
    (h' : LeavesOpen w blocks') : blocks = blocks' :=
  Option.some.inj ((advances_of_leavesOpen h).symm.trans (advances_of_leavesOpen h'))

theorem viable_iff_leavesOpen {w : List Sight} :
    Viable (w.map Sight.sign) ↔ ∃ blocks, LeavesOpen w blocks := by
  have hcontexts := advances_contexts [] w
  rw [viable_iff]
  constructor
  · rintro ⟨contexts, hw⟩
    rw [List.map_nil, hw] at hcontexts
    obtain ⟨blocks, hblocks, -⟩ := Option.map_eq_some_iff.1 hcontexts
    exact ⟨blocks, leavesOpen_iff.2 hblocks⟩
  · rintro ⟨blocks, hblocks⟩
    rw [leavesOpen_iff.1 hblocks] at hcontexts
    exact ⟨_, hcontexts.symm⟩

end Stencil.Template

import Stencil.Template.Tree
/-!
# The grammar of templates

Templates are spelled with stretches of text and tags. Which sequences are templates is said twice: by a
grammar, and by an automaton that keeps a stack of the blocks that are open. The two agree.
-/

namespace Stencil.Template

inductive Sign where
  | literal
  | echo
  | comment
  | choice
  | further
  | otherwise
  | endChoice
  | loop
  | endLoop
deriving Repr, DecidableEq

def Sign.isLeaf : Sign → Bool
  | .literal | .echo | .comment => true
  | _ => false

/-- The two kinds of phrase: a body, and all that follows the first body of a choice. -/
inductive Phrase where
  | body
  | tail

/-- The grammar: a body is a sequence of leaves, choices and loops, and a tail is any number of further
arms, then the last body or none, then the end of the choice. -/
inductive Derives : Phrase → List Sign → Prop where
  | nil : Derives .body []
  | leaf {s : Sign} {w : List Sign} : s.isLeaf → Derives .body w → Derives .body (s :: w)
  | choice {u t w : List Sign} : Derives .body u → Derives .tail t → Derives .body w →
      Derives .body (.choice :: (u ++ t ++ w))
  | loop {u w : List Sign} : Derives .body u → Derives .body w →
      Derives .body (.loop :: (u ++ .endLoop :: w))
  | further {u t : List Sign} : Derives .body u → Derives .tail t → Derives .tail (.further :: (u ++ t))
  | otherwise {u : List Sign} : Derives .body u → Derives .tail (.otherwise :: (u ++ [.endChoice]))
  | endChoice : Derives .tail [.endChoice]

/-- A block that is open: a choice in one of its arms, a choice in its last body, or a loop. -/
inductive Context where
  | arm
  | last
  | loop
deriving Repr, DecidableEq

def shift : List Context → Sign → Option (List Context)
  | blocks, .literal | blocks, .echo | blocks, .comment => some blocks
  | blocks, .choice => some (.arm :: blocks)
  | blocks, .loop => some (.loop :: blocks)
  | .arm :: blocks, .further => some (.arm :: blocks)
  | .arm :: blocks, .otherwise => some (.last :: blocks)
  | .arm :: blocks, .endChoice | .last :: blocks, .endChoice => some blocks
  | .loop :: blocks, .endLoop => some blocks
  | _, _ => none

def shifts (blocks : List Context) (w : List Sign) : Option (List Context) := w.foldlM shift blocks

theorem shifts_cons (blocks : List Context) (s : Sign) (w : List Sign) :
    shifts blocks (s :: w) = (shift blocks s).bind (shifts · w) :=
  List.foldlM_cons

theorem shift_leaf {s : Sign} (h : s.isLeaf) (blocks : List Context) : shift blocks s = some blocks := by
  cases s <;> first | rfl | cases h

/-- The block that a phrase ends: a tail ends the choice that it stands in, a body ends nothing. -/
def Phrase.within : Phrase → List Context → List Context
  | .body, blocks => blocks
  | .tail, blocks => .arm :: blocks

theorem shifts_of_derives {phrase : Phrase} {w : List Sign} (h : Derives phrase w)
    (blocks : List Context) (v : List Sign) :
    shifts (phrase.within blocks) (w ++ v) = shifts blocks v := by
  induction h generalizing blocks v with
  | nil => rfl
  | leaf hs _ ih =>
    rw [List.cons_append, shifts_cons, shift_leaf hs]
    exact ih blocks v
  | @choice u t w _ _ _ ihu iht ihw =>
    rw [List.cons_append, List.append_assoc, List.append_assoc]
    calc shifts (.arm :: blocks) (u ++ (t ++ (w ++ v)))
      _ = shifts (.arm :: blocks) (t ++ (w ++ v)) := ihu (.arm :: blocks) _
      _ = shifts blocks (w ++ v) := iht blocks _
      _ = shifts blocks v := ihw blocks v
  | @loop u w _ _ ihu ihw =>
    rw [List.cons_append, List.append_assoc]
    calc shifts (.loop :: blocks) (u ++ (.endLoop :: (w ++ v)))
      _ = shifts (.loop :: blocks) (.endLoop :: (w ++ v)) := ihu (.loop :: blocks) _
      _ = shifts blocks v := ihw blocks v
  | @further u t _ _ ihu iht =>
    rw [List.cons_append, List.append_assoc]
    calc shifts (.arm :: blocks) (u ++ (t ++ v))
      _ = shifts (.arm :: blocks) (t ++ v) := ihu (.arm :: blocks) _
      _ = shifts blocks v := iht blocks v
  | @otherwise u _ ihu =>
    rw [List.cons_append, List.append_assoc]
    calc shifts (.last :: blocks) (u ++ .endChoice :: v)
      _ = shifts (.last :: blocks) (.endChoice :: v) := ihu (.last :: blocks) _
      _ = shifts blocks v := rfl
  | endChoice => rfl

def Closes : List Context → List Sign → Prop
  | [], w => Derives .body w
  | .arm :: blocks, w =>
    ∃ u t v, w = u ++ (t ++ v) ∧ Derives .body u ∧ Derives .tail t ∧ Closes blocks v
  | .last :: blocks, w => ∃ u v, w = u ++ .endChoice :: v ∧ Derives .body u ∧ Closes blocks v
  | .loop :: blocks, w => ∃ u v, w = u ++ .endLoop :: v ∧ Derives .body u ∧ Closes blocks v

theorem Closes.prepend {p : List Sign} (hp : ∀ u, Derives .body u → Derives .body (p ++ u))
    {blocks : List Context} {w : List Sign} (h : Closes blocks w) : Closes blocks (p ++ w) := by
  cases blocks with
  | nil => exact hp w h
  | cons block blocks =>
    cases block with
    | arm =>
      obtain ⟨u, t, v, rfl, hu, ht, hv⟩ := h
      exact ⟨p ++ u, t, v, by rw [List.append_assoc], hp u hu, ht, hv⟩
    | last =>
      obtain ⟨u, v, rfl, hu, hv⟩ := h
      exact ⟨p ++ u, v, by rw [List.append_assoc], hp u hu, hv⟩
    | loop =>
      obtain ⟨u, v, rfl, hu, hv⟩ := h
      exact ⟨p ++ u, v, by rw [List.append_assoc], hp u hu, hv⟩

theorem Closes.cons {blocks next : List Context} {s : Sign} {w : List Sign}
    (hs : shift blocks s = some next) (h : Closes next w) : Closes blocks (s :: w) := by
  cases s with
  | literal | echo | comment =>
    obtain rfl : blocks = next := Option.some.inj hs
    exact h.prepend (p := [_]) fun u hu => .leaf rfl hu
  | choice =>
    obtain rfl : .arm :: blocks = next := Option.some.inj hs
    obtain ⟨u, t, v, rfl, hu, ht, hv⟩ := h
    have := hv.prepend (p := .choice :: (u ++ t)) fun r hr => .choice hu ht hr
    rwa [List.cons_append, List.append_assoc] at this
  | loop =>
    obtain rfl : .loop :: blocks = next := Option.some.inj hs
    obtain ⟨u, v, rfl, hu, hv⟩ := h
    have := hv.prepend (p := .loop :: (u ++ [.endLoop])) fun r hr => by
      rw [List.cons_append, List.append_assoc]
      exact .loop hu hr
    rwa [List.cons_append, List.append_assoc] at this
  | further =>
    match blocks, hs with
    | .arm :: blocks, hs =>
      obtain rfl : .arm :: blocks = next := Option.some.inj hs
      obtain ⟨u, t, v, rfl, hu, ht, hv⟩ := h
      exact ⟨[], .further :: (u ++ t), v, by simp, .nil, .further hu ht, hv⟩
  | otherwise =>
    match blocks, hs with
    | .arm :: blocks, hs =>
      obtain rfl : .last :: blocks = next := Option.some.inj hs
      obtain ⟨u, v, rfl, hu, hv⟩ := h
      exact ⟨[], .otherwise :: (u ++ [.endChoice]), v, by simp, .nil, .otherwise hu, hv⟩
  | endChoice =>
    match blocks, hs with
    | .arm :: blocks, hs =>
      obtain rfl : blocks = next := Option.some.inj hs
      exact ⟨[], [.endChoice], w, rfl, .nil, .endChoice, h⟩
    | .last :: blocks, hs =>
      obtain rfl : blocks = next := Option.some.inj hs
      exact ⟨[], w, rfl, .nil, h⟩
  | endLoop =>
    match blocks, hs with
    | .loop :: blocks, hs =>
      obtain rfl : blocks = next := Option.some.inj hs
      exact ⟨[], w, rfl, .nil, h⟩

theorem closes_of_shifts {blocks : List Context} {w : List Sign} (h : shifts blocks w = some []) :
    Closes blocks w := by
  induction w generalizing blocks with
  | nil =>
    obtain rfl : blocks = [] := Option.some.inj h
    exact .nil
  | cons s w ih =>
    rw [shifts_cons] at h
    obtain ⟨next, hs, hw⟩ := Option.bind_eq_some_iff.1 h
    exact (ih hw).cons hs

theorem shifts_nil_iff {w : List Sign} : shifts [] w = some [] ↔ Derives .body w := by
  constructor
  · exact closes_of_shifts
  · intro h
    have := shifts_of_derives h [] []
    rwa [List.append_nil] at this

end Stencil.Template

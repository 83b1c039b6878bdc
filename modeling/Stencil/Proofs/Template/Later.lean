import Stencil.Proofs.Tag.Found
import Stencil.Proofs.Template.Expansion
import Stencil.Proofs.Template.Visit
/-!
# Lines that move

A template behind another text has its tags on later lines. Both passes do with it what they do with the
template alone, and what is wrong with it is the same, on lines that are as many further down.
-/

namespace Stencil

def TagFault.later (k : Nat) : TagFault → TagFault
  | .wrongCloser closer opened line => .wrongCloser closer opened (line + k)
  | .neverClosed kind line => .neverClosed kind (line + k)
  | cause => cause

def Fault.later (k : Nat) : Fault → Fault
  | .tag cause line => .tag (cause.later k) (line + k)
  | fault => fault

@[simp] theorem Fault.later_zero (fault : Fault) : fault.later 0 = fault := by
  cases fault with
  | tag cause line => cases cause <;> rfl
  | _ => rfl

namespace Template

open Text Tag

variable {σ α : Type} {k : Nat} {w t s : List Char}

theorem lineAt_later (w : List Char) (h : s <:+ t) : lineAt (w ++ t) s = lineAt t s + lineFeeds w := by
  have hle : lineFeeds s ≤ lineFeeds t := h.sublist.count_le _
  have hsum : lineFeeds (w ++ t) = lineFeeds w + lineFeeds t := List.count_append
  unfold lineAt
  omega

def Piece.later (k : Nat) : Piece → Piece
  | .text s => .text s
  | .mark m line => .mark m (line + k)
  | .bad cause line => .bad (cause.later k) (line + k)

def Open.later (k : Nat) (o : Open) : Open := { o with line := o.line + k }

def State.later (k : Nat) (s : State) : State := { s with blocks := s.blocks.map (Open.later k) }

theorem turn_later (s : State) (tag : ArmTag) (line : Nat) (next : List (Arm String) → Head) :
    (s.later k).turn tag (line + k) next =
      ((s.turn tag line next).map (State.later k)).mapError (Fault.later k) := by
  obtain ⟨body, _ | ⟨⟨head, opened, around⟩, blocks⟩⟩ := s
  · rfl
  · cases head <;> rfl

theorem close_later (s : State) (kind : BlockKind) (line : Nat) :
    (s.later k).close kind (line + k) =
      ((s.close kind line).map (State.later k)).mapError (Fault.later k) := by
  obtain ⟨body, _ | ⟨⟨head, opened, around⟩, blocks⟩⟩ := s
  · rfl
  · simp only [State.close, State.later, List.map_cons, Open.later]
    split <;> rfl

theorem step_later (s : State) (p : Piece) :
    (s.later k).step (p.later k) = ((s.step p).map (State.later k)).mapError (Fault.later k) := by
  cases p with
  | text => rfl
  | bad => rfl
  | mark m line =>
    cases m with
    | comment | echo | choice | loop => rfl
    | further cond => exact turn_later s .further line fun before => .arm before cond
    | otherwise => exact turn_later s .otherwise line _
    | endChoice => exact close_later s .choice line
    | endLoop => exact close_later s .loop line

theorem run_later (ps : List Piece) (s : State) :
    (ps.map (Piece.later k)).foldlM State.step (s.later k) =
      ((ps.foldlM State.step s).map (State.later k)).mapError (Fault.later k) := by
  induction ps generalizing s with
  | nil => rfl
  | cons p ps ih =>
    rw [List.map_cons, List.foldlM_cons, List.foldlM_cons, step_later]
    cases s.step p with
    | error fault => rfl
    | ok s' => exact ih s'

theorem finish_later (s : State) : (s.later k).finish = s.finish.mapError (Fault.later k) := by
  obtain ⟨body, _ | ⟨block, blocks⟩⟩ := s <;> rfl

theorem tree_later (k : Nat) (ps : List Piece) :
    tree (ps.map (Piece.later k)) = (tree ps).mapError (Fault.later k) := by
  have hrun := run_later (k := k) ps ⟨[], []⟩
  rw [tree, tree]
  change List.foldlM State.step (State.later k ⟨[], []⟩) _ >>= _ = _
  rw [hrun]
  cases ps.foldlM State.step ⟨[], []⟩ with
  | error fault => rfl
  | ok s => exact finish_later s

theorem suffix_of_readMark {f : Found} {m : Mark} {rest : List Char} (h : readMark f = .ok (m, rest)) :
    rest <:+ f.rest := by
  have of_map {e : Except TagFault Mark} {r : List Char} (h : e.map (·, r) = .ok (m, rest)) : r = rest := by
    cases e with
    | error cause => cases h
    | ok m' => exact (Prod.mk.inj (Except.ok.inj h)).2
  unfold readMark at h
  split at h
  · split at h
    · next ha =>
      obtain rfl := of_map h
      exact suffix_of_argument? ha
    · cases h
  · exact of_map h ▸ List.suffix_rfl

theorem later_of_markWith {r : Rule} {argument : List Char} {cause : TagFault}
    (h : markWith r argument = .error cause) : cause.later k = cause := by
  unfold markWith at h
  split at h
  · obtain rfl := Except.error.inj h
    rfl
  · cases r with
    | loop =>
      change loopMark argument = _ at h
      unfold loopMark at h
      split at h
      · cases h
      · obtain rfl := Except.error.inj h
        rfl
    | _ => cases h

theorem later_of_markAlone {r : Rule} {picked : List Char} {cause : TagFault}
    (h : markAlone r picked = .error cause) : cause.later k = cause := by
  cases r with
  | otherwise =>
    cases picked with
    | nil => cases h
    | cons c picked =>
      obtain rfl := Except.error.inj h
      rfl
  | _ => cases h

theorem later_of_readMark {f : Found} {cause : TagFault} (h : readMark f = .error cause) :
    cause.later k = cause := by
  have of_map {e : Except TagFault Mark} {r : List Char} (h : e.map (·, r) = .error cause) :
      e = .error cause := by
    cases e with
    | error cause' => exact congrArg Except.error (Except.error.inj h)
    | ok m => cases h
  unfold readMark at h
  split at h
  · split at h
    · exact later_of_markWith (of_map h)
    · obtain rfl := Except.error.inj h
      rfl
  · exact later_of_markAlone (of_map h)

theorem later_textPiece (s : List Char) : (textPiece s).map (Piece.later k) = textPiece s := by
  unfold textPiece
  split <;> rfl

theorem piecesFrom_later (w : List Char) (h : s <:+ t) :
    piecesFrom (w ++ t) s = (piecesFrom t s).map (Piece.later (lineFeeds w)) := by
  induction hlen : s.length using Nat.strongRecOn generalizing s with
  | ind n ih =>
    cases hnext : next? scanRules s with
    | none => rw [piecesFrom_end hnext, piecesFrom_end hnext, later_textPiece]
    | some pair =>
      obtain ⟨gap, f⟩ := pair
      have hline := lineAt_later w ((List.drop_suffix gap.length s).trans h)
      rw [piecesFrom_tag hnext, piecesFrom_tag hnext, List.map_append, later_textPiece, hline]
      cases hm : readMark f with
      | error cause => simp [Piece.later, later_of_readMark hm]
      | ok read =>
        obtain ⟨m, rest⟩ := read
        have hlt : rest.length < n := by
          have := length_of_next? hnext
          have := length_of_readMark hm
          omega
        have hrest := ih rest.length hlt ((suffix_of_readMark hm).trans ((suffix_of_next? hnext).trans h)) rfl
        dsimp only
        rw [hrest]
        rfl

def laterRun (k : Nat) : EStateM.Result Fault σ α → EStateM.Result Fault σ α
  | .ok a s => .ok a s
  | .error fault s => .error (fault.later k) s

/-- Only an include of the template itself is found on a later line; a text that it brings in has lines of
its own. -/
theorem expandFrom_later (fetch : Option (String → EStateM Fault σ (List Char))) (w : List Char)
    (h : s <:+ t) (log : σ) :
    ∃ k ≤ lineFeeds w, expandFrom fetch (w ++ t) s log = laterRun k (expandFrom fetch t s log) := by
  fun_induction includeNames s generalizing log with
  | case1 s hc =>
    rw [expandFrom_plain hc, expandFrom_plain hc]
    exact ⟨0, Nat.zero_le _, rfl⟩
  | case2 s before after hc ha =>
    obtain ⟨-, rfl⟩ := firstInclude_of_cut? hc
    rw [expandFrom_endless hc ha, expandFrom_endless hc ha, lineAt_later w ((List.suffix_append _ _).trans h)]
    exact ⟨_, Nat.le_refl _, rfl⟩
  | case3 s before after hc argument rest ha _ _ ih =>
    obtain ⟨-, hs⟩ := firstInclude_of_cut? hc
    have hafter : includeMark ++ after <:+ t := by
      rw [hs] at h
      exact (List.suffix_append _ _).trans h
    cases fetch with
    | none =>
      rw [expandFrom_unresolved hc ha, expandFrom_unresolved hc ha, lineAt_later w hafter]
      exact ⟨_, Nat.le_refl _, rfl⟩
    | some fetch =>
      have hrest : rest <:+ t :=
        (suffix_of_argument? ha).trans ((List.suffix_append _ _).trans hafter)
      rw [expandFrom_include hc ha, expandFrom_include hc ha, bind_run, bind_run]
      cases fetch (includeName argument) log with
      | error fault log' =>
        refine ⟨0, Nat.zero_le _, ?_⟩
        dsimp only
        rw [laterRun, Fault.later_zero]
      | ok inner log' =>
        obtain ⟨k, hk, hlater⟩ := ih hrest log'
        refine ⟨k, hk, ?_⟩
        dsimp only
        rw [bind_run, bind_run, hlater]
        cases expandFrom (some fetch) t rest log' <;> rfl

end Template

end Stencil

import Stencil.Expression.Language
import Stencil.Proofs.Render.Indifferent
/-!
# What a memo keeps

The texts of a memo are the distinct texts that compiled, the one used last first, up to the limit of the
memo. So whether a call is answered from the memo depends on the texts of the calls before it alone.
-/

namespace Stencil

namespace Memo

def firsts (limit : Option Nat) (l : List String) : List String :=
  match limit with
  | some n => l.take n
  | none => l

def touch (t : String) (l : List String) : List String := t :: l.filter (· != t)

theorem firsts_firsts (limit : Option Nat) (l : List String) : firsts limit (firsts limit l) = firsts limit l := by
  cases limit with
  | none => rfl
  | some n =>
    simp only [firsts]
    rw [List.take_take, Nat.min_self]

theorem filter_ne_of_not_mem {t : String} {l : List String} (h : t ∉ l) : l.filter (· != t) = l := by
  rw [List.filter_eq_self]
  intro x hx
  rw [bne_iff_ne]
  rintro rfl
  exact h hx

theorem take_filter_ne {t : String} {l : List String} (h : l.Nodup) (n : Nat) :
    ((l.take (n + 1)).filter (· != t)).take n = (l.filter (· != t)).take n := by
  induction l generalizing n with
  | nil => rfl
  | cons x l ih =>
    obtain ⟨hx, hl⟩ := List.nodup_cons.1 h
    rw [List.take_succ_cons, List.filter_cons, List.filter_cons]
    by_cases hxt : x = t
    · subst hxt
      have hout : x ∉ l.take n := fun hmem => hx (List.mem_of_mem_take hmem)
      rw [if_neg (by simp), if_neg (by simp), filter_ne_of_not_mem hx, filter_ne_of_not_mem hout,
        List.take_take, Nat.min_self]
    · rw [if_pos (by simpa using hxt), if_pos (by simpa using hxt)]
      cases n with
      | zero => rfl
      | succ n => rw [List.take_succ_cons, List.take_succ_cons, ih hl]

theorem firsts_touch (limit : Option Nat) {l : List String} (h : l.Nodup) (t : String) :
    firsts limit (touch t (firsts limit l)) = firsts limit (touch t l) := by
  cases limit with
  | none => rfl
  | some n =>
    cases n with
    | zero => rfl
    | succ n =>
      simp only [firsts, touch, List.take_succ_cons]
      rw [take_filter_ne h]

theorem firsts_touch_of_mem {limit : Option Nat} {t : String} {l : List String} (h : t ∈ firsts limit l) :
    firsts limit (touch t (firsts limit l)) = touch t (firsts limit l) := by
  cases limit with
  | none => rfl
  | some n =>
    -- the text itself is taken out, so there is room for it in front
    have hlt : ((l.take n).filter (· != t)).length < (l.take n).length := by
      rw [List.length_filter_lt_length_iff_exists]
      exact ⟨t, h, by simp⟩
    have hle : (l.take n).length ≤ n := List.length_take_le n l
    apply List.take_of_length_le
    show ((l.take n).filter (· != t)).length + 1 ≤ n
    omega

theorem nodup_eraseDups (l : List String) : l.eraseDups.Nodup := by
  induction hlen : l.length using Nat.strongRecOn generalizing l with
  | ind n ih =>
    cases l with
    | nil => exact List.nodup_nil
    | cons x l =>
      have hle : (l.filter fun y => !y == x).length ≤ l.length := List.length_filter_le _ _
      rw [List.length_cons] at hlen
      rw [List.eraseDups_cons, List.nodup_cons]
      refine ⟨?_, ih _ (by omega) _ rfl⟩
      intro hx
      have hne := (List.mem_filter.1 (List.mem_eraseDups.1 hx)).2
      simp at hne

theorem eraseDups_filter (p : String → Bool) (l : List String) : (l.filter p).eraseDups = l.eraseDups.filter p := by
  induction hlen : l.length using Nat.strongRecOn generalizing l with
  | ind n ih =>
    cases l with
    | nil => rfl
    | cons x l =>
      have hle : (l.filter fun y => !y == x).length ≤ l.length := List.length_filter_le _ _
      rw [List.length_cons] at hlen
      rw [List.eraseDups_cons, List.filter_cons, List.filter_cons, ← ih _ (by omega) _ rfl]
      by_cases hx : p x = true
      · rw [if_pos hx, if_pos hx, List.eraseDups_cons, List.filter_filter, List.filter_filter]
        simp only [Bool.and_comm]
      · rw [if_neg hx, if_neg hx, List.filter_filter]
        congr 1
        apply List.filter_congr
        intro y _
        by_cases hy : y = x
        · rw [hy, Bool.not_eq_true _ |>.mp hx]
          rfl
        · simp [hy]

variable {α : Type} {compile : String → Except Fault α}

def recent (compile : String → Except Fault α) (texts : List String) : List String :=
  (texts.reverse.filter fun t => (compile t).isOk).eraseDups

theorem nodup_recent (texts : List String) : (recent compile texts).Nodup := nodup_eraseDups _

theorem recent_ok {t : String} {code : α} (h : compile t = .ok code) (texts : List String) :
    recent compile (texts ++ [t]) = touch t (recent compile texts) := by
  have hok : (compile t).isOk = true := by rw [h]; rfl
  rw [recent, List.reverse_concat, List.filter_cons, if_pos hok, List.eraseDups_cons, eraseDups_filter]
  rfl

theorem recent_error {t : String} {fault : Fault} (h : compile t = .error fault) (texts : List String) :
    recent compile (texts ++ [t]) = recent compile texts := by
  have hbad : (compile t).isOk = false := by rw [h]; rfl
  rw [recent, List.reverse_concat, List.filter_cons, if_neg (by simp [hbad])]
  rfl

/-- The texts that a memo has an answer for. -/
def texts (m : Memo compile) : List String := m.entries.map (·.text)

theorem texts_hit (m : Memo compile) (e : Entry compile) : (m.hit e).texts = touch e.text m.texts := by
  rw [texts, texts, touch, List.filter_map]
  rfl

theorem map_cut (limit : Option Nat) (entries : List (Entry compile)) :
    (cut limit entries).map (·.text) = firsts limit (entries.map (·.text)) := by
  cases limit with
  | none => rfl
  | some n => exact List.map_take

theorem answer_cases (m : Memo compile) (t : String) :
    (∃ e : Entry compile, e.text = t ∧ t ∈ m.texts ∧ (m.answer t).2 = m.hit e) ∨
    (∃ e : Entry compile, e.text = t ∧ t ∉ m.texts ∧ (m.answer t).2 = m.miss (some e)) ∨
    (∃ fault, compile t = .error fault ∧ t ∉ m.texts ∧ (m.answer t).2 = m.miss none) := by
  unfold answer
  cases hf : m.find? t with
  | some e =>
    have ht : e.text = t := by simpa using List.find?_some hf
    exact .inl ⟨e, ht, ht ▸ List.mem_map_of_mem (List.mem_of_find?_eq_some hf), rfl⟩
  | none =>
    have hout : t ∉ m.texts := by
      intro hmem
      obtain ⟨e, he, ht⟩ := List.mem_map.1 hmem
      have hne := List.find?_eq_none.1 hf e he
      simp [ht] at hne
    dsimp only
    split
    · next code h => exact .inr (.inl ⟨⟨t, code, h⟩, rfl, hout, rfl⟩)
    · next fault h => exact .inr (.inr ⟨fault, h, hout, rfl⟩)

/-- The memo after calls with these texts: it has the ones used last, and each call is counted once. -/
structure Follows (m : Memo compile) (limit : Option Nat) (used : List String) : Prop where
  bounded : m.limit = limit
  kept : m.texts = firsts limit (recent compile used)
  counted : m.hits + m.misses = used.length

variable {m : Memo compile} {limit : Option Nat} {used : List String}

theorem follows_fresh (limit : Option Nat) : (fresh compile limit).Follows limit [] := by
  refine ⟨rfl, ?_, rfl⟩
  cases limit with
  | none => rfl
  | some n => exact List.take_nil.symm

theorem Follows.answer (h : m.Follows limit used) (t : String) :
    (m.answer t).2.Follows limit (used ++ [t]) := by
  have hcount := h.counted
  -- a hit, a miss that compiles, and a miss that does not
  rcases m.answer_cases t with ⟨e, ht, hmem, heq⟩ | ⟨e, ht, hout, heq⟩ | ⟨fault, hfault, -, heq⟩
  · rw [heq]
    refine ⟨h.bounded, ?_, ?_⟩
    · rw [h.kept] at hmem
      rw [texts_hit, ht, h.kept, recent_ok (ht ▸ e.compiled), ← firsts_touch limit (nodup_recent used),
        firsts_touch_of_mem hmem]
    · rw [List.length_append]
      simp only [hit, List.length_singleton]
      omega
  · rw [heq]
    refine ⟨h.bounded, ?_, ?_⟩
    · have hkept : (m.miss (some e)).texts = firsts limit (t :: m.texts) := by
        rw [← ht, ← h.bounded]
        exact map_cut m.limit (e :: m.entries)
      have htouch : t :: m.texts = touch t m.texts := by
        rw [touch, filter_ne_of_not_mem hout]
      rw [hkept, htouch, h.kept, firsts_touch limit (nodup_recent used), recent_ok (ht ▸ e.compiled)]
    · rw [List.length_append]
      simp only [miss, List.length_singleton]
      omega
  · rw [heq]
    refine ⟨h.bounded, ?_, ?_⟩
    · have hkept : (m.miss none).texts = firsts limit m.texts := by
        rw [← h.bounded]
        exact map_cut m.limit m.entries
      rw [hkept, h.kept, firsts_firsts, recent_error hfault]
    · rw [List.length_append]
      simp only [miss, List.length_singleton]
      omega

theorem answer_counts (m : Memo compile) (t : String) :
    (t ∈ m.texts ∧ (m.answer t).2.hits = m.hits + 1 ∧ (m.answer t).2.misses = m.misses) ∨
    (t ∉ m.texts ∧ (m.answer t).2.hits = m.hits ∧ (m.answer t).2.misses = m.misses + 1) := by
  rcases m.answer_cases t with ⟨e, -, hmem, heq⟩ | ⟨e, -, hout, heq⟩ | ⟨-, -, hout, heq⟩
  · exact .inl ⟨hmem, by rw [heq]; rfl, by rw [heq]; rfl⟩
  · exact .inr ⟨hout, by rw [heq]; rfl, by rw [heq]; rfl⟩
  · exact .inr ⟨hout, by rw [heq]; rfl, by rw [heq]; rfl⟩

theorem Follows.length (h : m.Follows limit used) :
    m.entries.length = (firsts limit (recent compile used)).length := by
  rw [← h.kept, texts, List.length_map]

theorem Follows.answer_error (h : m.Follows limit used) {t : String} {fault : Fault}
    (ht : compile t = .error fault) :
    (m.answer t).2.misses = m.misses + 1 ∧ (m.answer t).2.entries = m.entries := by
  rcases m.answer_cases t with ⟨e, hte, -, -⟩ | ⟨e, hte, -, -⟩ | ⟨-, -, -, heq⟩
  · have := e.compiled
    rw [hte, ht] at this
    cases this
  · have := e.compiled
    rw [hte, ht] at this
    cases this
  · rw [heq]
    refine ⟨rfl, ?_⟩
    show cut m.limit m.entries = m.entries
    have hlen := h.length
    rw [h.bounded]
    cases limit with
    | none => rfl
    | some n =>
      apply List.take_of_length_le
      rw [hlen]
      exact List.length_take_le _ _

theorem Follows.answer_kept (h : m.Follows limit used) {t : String} {code : α} (ht : compile t = .ok code)
    (hlimit : limit ≠ some 0) : t ∈ (m.answer t).2.texts := by
  rw [(h.answer t).kept, recent_ok ht]
  cases limit with
  | none => exact List.mem_cons_self
  | some n =>
    cases n with
    | zero => exact absurd rfl hlimit
    | succ n => exact List.mem_cons_self

end Memo

namespace Session

variable {σ ν : Type} {L : Language σ ν}

/-- A call for the value of an expression: its text, the variables, and the store at that time. -/
structure Call (σ ν : Type) where
  expr : String
  scope : Scope ν
  store : σ

/-- What a call gives, with the memo and the store that it leaves. -/
def Call.run (c : Call σ ν) (m : Memo L.compile) : EStateM.Result Fault (Session L) ν :=
  evaluate c.scope c.expr ⟨m, c.store⟩

/-- The memo that a call leaves, whether it fails or not. -/
def Call.after (c : Call σ ν) (m : Memo L.compile) : Memo L.compile := (left (c.run m)).memo

def memoAfter (L : Language σ ν) (size : Option Int) (calls : List (Call σ ν)) : Memo L.compile :=
  calls.foldl (fun m c => c.after m) (Memo.fresh L.compile (size.map Int.toNat))

theorem after_eq (c : Call σ ν) (m : Memo L.compile) : c.after m = (m.answer c.expr).2 := by
  unfold Call.after Call.run evaluate
  rw [bind_run, code]
  rcases m.answer c.expr with ⟨fault | code, memo⟩
  · rfl
  · dsimp only
    unfold Session.lift
    cases L.value code c.scope c.store <;> rfl

theorem follows_memoAfter (L : Language σ ν) (size : Option Int) (calls : List (Call σ ν)) :
    (memoAfter L size calls).Follows (size.map Int.toNat) (calls.map (·.expr)) := by
  -- by induction on the calls to come, for any memo that they find
  have hrun (m : Memo L.compile) (used : List String) (h : m.Follows (size.map Int.toNat) used) :
      (calls.foldl (fun m c => c.after m) m).Follows (size.map Int.toNat) (used ++ calls.map (·.expr)) := by
    induction calls generalizing m used with
    | nil => simpa using h
    | cons c calls ih =>
      have hnext : (c.after m).Follows (size.map Int.toNat) (used ++ [c.expr]) := by
        rw [after_eq]
        exact h.answer c.expr
      have hrest := ih (c.after m) (used ++ [c.expr]) hnext
      rwa [List.append_assoc] at hrest
  exact hrun _ [] (Memo.follows_fresh _)

/-- A call gives what it gives with an unused memo, and counts once, as a hit or as a miss. It is a hit just when
its text is one of the last distinct texts that compiled, as many as the size allows, and all of these are kept.
A text that does not compile is a miss and changes nothing that is kept; one that compiles is kept even if its
evaluation fails, unless the size is zero. -/
theorem memo_follows_calls (L : Language σ ν) (size : Option Int) (calls : List (Call σ ν)) :
    let limit := size.map Int.toNat
    let m := memoAfter L size calls
    let used := Memo.recent L.compile (calls.map (·.expr))
    m.hits + m.misses = calls.length ∧
    m.texts = Memo.firsts limit used ∧
    (m.entries.length = match size with
      | some n => min n.toNat used.length
      | none => used.length) ∧
    ∀ c : Call σ ν,
      outcome (c.run m) = outcome (c.run (Memo.fresh L.compile limit)) ∧
      ((c.after m).hits = m.hits + 1 ↔ c.expr ∈ Memo.firsts limit used) ∧
      ((c.after m).misses = m.misses + 1 ↔ c.expr ∉ Memo.firsts limit used) ∧
      (∀ fault, L.compile c.expr = .error fault →
        (c.after m).misses = m.misses + 1 ∧ (c.after m).entries = m.entries) ∧
      ∀ code fault, L.compile c.expr = .ok code → (outcome (c.run m)).1 = .error fault → limit ≠ some 0 →
        c.expr ∈ (c.after m).texts := by
  intro limit m used
  have hm : m.Follows limit (calls.map (·.expr)) := follows_memoAfter L size calls
  refine ⟨?_, hm.kept, ?_, fun c => ⟨?_, ?_⟩⟩
  · rw [hm.counted, List.length_map]
  · rw [hm.length]
    cases size with
    | none => rfl
    | some n => exact List.length_take
  · exact indifferent_evaluate c.scope c.expr _ _ rfl
  · rw [after_eq, ← hm.kept]
    refine ⟨?_, ?_, fun fault hfault => hm.answer_error hfault, fun code _ hcode _ h => hm.answer_kept hcode h⟩
    · rcases m.answer_counts c.expr with ⟨hmem, hhits, -⟩ | ⟨hout, hhits, -⟩
      · exact ⟨fun _ => hmem, fun _ => hhits⟩
      · rw [hhits]
        exact ⟨fun h => by omega, fun h => absurd h hout⟩
    · rcases m.answer_counts c.expr with ⟨hmem, -, hmisses⟩ | ⟨hout, -, hmisses⟩
      · rw [hmisses]
        exact ⟨fun h => by omega, fun h => absurd hmem h⟩
      · exact ⟨fun _ => hout, fun _ => hmisses⟩

theorem memo_follows_calls_sample :
    let c : Call Store Value := ⟨"1/0", Scope.ofList [], Store.empty⟩
    let m := memoAfter Expression.language (some 1) [c, ⟨")", Scope.ofList [], Store.empty⟩]
    (outcome (c.run m)).1 = .error .divisionByZero ∧ m.hits + m.misses = 2 ∧ m.entries.length = 1 ∧
      (c.after m).hits = m.hits + 1 := by
  intro c m
  have hok : Expression.language.compile "1/0" = .ok (.binary .divide (.literal (.int 1)) (.literal (.int 0))) := by
    have hs : Expression.stripSigils "1/0".toList = "1/0".toList := by
      simp [Expression.stripSigils, Expression.startsName]
    show (Expression.parse (Expression.stripSigils "1/0".toList) >>= _) = _
    rw [hs]
    rfl
  have hbad : Expression.language.compile ")" = .error .malformedExpression := by
    have hs : Expression.stripSigils [')'] = [')'] := by simp [Expression.stripSigils, Expression.startsName]
    show (Expression.parse (Expression.stripSigils [')']) >>= _) = _
    rw [hs]
    rfl
  have hused : Memo.recent Expression.language.compile ["1/0", ")"] = ["1/0"] := by
    change Memo.recent Expression.language.compile (([] ++ ["1/0"]) ++ [")"]) = _
    rw [Memo.recent_error hbad, Memo.recent_ok hok]
    rfl
  obtain ⟨hcount, -, hlength, hcalls⟩ :=
    memo_follows_calls Expression.language (some 1) [c, ⟨")", Scope.ofList [], Store.empty⟩]
  obtain ⟨-, hhit, -⟩ := hcalls c
  refine ⟨?_, hcount, ?_, hhit.2 ?_⟩
  · rw [Call.run, outcome_evaluate, hok]
    have hvalue : Expression.language.value (.binary .divide (.literal (.int 1)) (.literal (.int 0))) c.scope
        c.store = .error .divisionByZero c.store := by
      show Expression.value (.binary .divide (.literal (.int 1)) (.literal (.int 0))) c.scope c.store = _
      rw [Expression.value]
      rfl
    dsimp only
    rw [hvalue]
  · rw [hlength]
    show min 1 (Memo.recent Expression.language.compile ["1/0", ")"]).length = 1
    rw [hused]
    rfl
  · show "1/0" ∈ Memo.firsts (some 1) (Memo.recent Expression.language.compile ["1/0", ")"])
    rw [hused]
    exact List.mem_cons_self

end Session

end Stencil

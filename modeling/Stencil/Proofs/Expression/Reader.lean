import Stencil.Proofs.Expression.Names
import Stencil.Proofs.Run
/-!
# Where the names in an expression come from

The reader of tokens puts no name into an expression that is not a token of its text. So the value of an
expression depends on the bindings of its identifiers alone.
-/

namespace Stencil.Expression

def TokensIn (P : String → Prop) (lexemes : List Lexeme) : Prop :=
  ∀ l ∈ lexemes, ∀ name, l.token = .name name → P name

variable {α β : Type} {P : String → Prop} {Q : α → Prop} {R : β → Prop}

/-- A reader that takes tokens whose names are of a set to what has a property, and leaves such tokens. -/
def Parse.Sound (P : String → Prop) (Q : α → Prop) (x : Parse α) : Prop :=
  ∀ lexemes a rest, TokensIn P lexemes → x lexemes = .ok (a, rest) → Q a ∧ TokensIn P rest

namespace Parse

theorem sound_pure {a : α} (h : Q a) : Sound P Q (pure a) := by
  intro lexemes b rest hl heq
  obtain ⟨rfl, rfl⟩ := Prod.mk.inj (Except.ok.inj heq)
  exact ⟨h, hl⟩

theorem sound_throw (fault : Fault) : Sound P Q (throw fault : Parse α) := nofun

theorem Sound.bind {x : Parse α} {f : α → Parse β} (hx : Sound P Q x) (hf : ∀ a, Q a → Sound P R (f a)) :
    Sound P R (x >>= f) := by
  intro lexemes b rest hl heq
  obtain ⟨⟨a, middle⟩, ha, hb⟩ := exists_of_bind_ok (x := x lexemes) (f := fun p => f p.1 p.2) heq
  obtain ⟨hqa, hmiddle⟩ := hx lexemes a middle hl ha
  exact hf a hqa middle b rest hmiddle hb

theorem Sound.after {x : Parse α} {f : α → Parse β} (hx : Sound P Q x) (hf : ∀ a, Sound P R (f a)) :
    Sound P R (x >>= f) := hx.bind fun a _ => hf a

theorem Sound.mono {Q' : α → Prop} {x : Parse α} (hx : Sound P Q x) (h : ∀ a, Q a → Q' a) : Sound P Q' x := by
  intro lexemes a rest hl heq
  obtain ⟨hqa, hrest⟩ := hx lexemes a rest hl heq
  exact ⟨h a hqa, hrest⟩

theorem Sound.map {x : Parse α} {f : α → β} (hx : Sound P Q x) (h : ∀ a, Q a → R (f a)) :
    Sound P R (f <$> x) := by
  rw [map_eq_pure_bind]
  exact hx.bind fun a ha => sound_pure (h a ha)

def TokenIn (P : String → Prop) (t : Option Token) : Prop := ∀ name, t = some (.name name) → P name

theorem sound_get : Sound P (TokensIn P) get := by
  intro lexemes a rest hl heq
  obtain ⟨rfl, rfl⟩ := Prod.mk.inj (Except.ok.inj heq)
  exact ⟨hl, hl⟩

theorem sound_peek? : Sound P (TokenIn P) peek? := by
  refine sound_get.bind fun lexemes hl => sound_pure fun name hname => ?_
  obtain ⟨l, hl', ht⟩ := Option.map_eq_some_iff.1 hname
  exact hl l (List.mem_of_head? hl') name ht

theorem sound_line : Sound P (fun _ => True) line :=
  sound_get.bind fun _ _ => sound_pure trivial

theorem sound_skip : Sound P (fun _ => True) skip := by
  intro lexemes a rest hl heq
  obtain ⟨-, rfl⟩ := Prod.mk.inj (Except.ok.inj heq)
  exact ⟨trivial, fun l hmem => hl l (List.mem_of_mem_tail hmem)⟩

theorem sound_atSymbol (s : String) : Sound P (fun _ => True) (atSymbol s) :=
  sound_peek?.bind fun _ _ => sound_pure trivial

theorem sound_takeSymbol (s : String) : Sound P (fun _ => True) (takeSymbol s) := by
  refine (sound_atSymbol s).after fun b => ?_
  cases b with
  | true => exact sound_skip.after fun _ => sound_pure trivial
  | false => exact sound_pure trivial

theorem sound_takeWord (s : String) : Sound P (fun _ => True) (takeWord s) := by
  refine sound_peek?.bind fun t _ => ?_
  split
  · exact sound_skip.after fun _ => sound_pure trivial
  · exact sound_pure trivial

theorem sound_expect (s : String) : Sound P (fun _ => True) (expect s) := by
  refine (sound_takeSymbol s).after fun b => ?_
  cases b with
  | true => exact sound_pure trivial
  | false => exact sound_throw _

theorem sound_expectName : Sound P (fun _ => True) expectName := by
  refine sound_peek?.bind fun t _ => ?_
  split
  · exact sound_skip.after fun _ => sound_pure trivial
  · exact sound_throw _

theorem sound_takeArgumentName : Sound P (fun _ => True) takeArgumentName := by
  refine sound_get.bind fun lexemes _ => ?_
  dsimp only
  split
  · exact sound_skip.after fun _ => sound_skip.after fun _ => sound_pure trivial
  · exact sound_pure trivial

theorem sound_takeOperator (table : List (String × α)) : Sound P (fun _ => True) (takeOperator table) := by
  refine sound_peek?.bind fun t _ => ?_
  split
  · split
    · exact sound_skip.after fun _ => sound_pure trivial
    · exact sound_pure trivial
  · exact sound_pure trivial

theorem sound_takeComparison : Sound P (fun _ => True) takeComparison := by
  refine sound_get.bind fun lexemes _ => ?_
  dsimp only
  split
  · exact sound_skip.after fun _ => sound_pure trivial
  · exact sound_skip.after fun _ => sound_skip.after fun _ => sound_pure trivial
  · exact sound_takeOperator _

theorem sound_adjacentTexts (fuel : Nat) (s : String) : Sound P (fun _ => True) (adjacentTexts fuel s) := by
  induction fuel generalizing s with
  | zero => exact sound_pure trivial
  | succ fuel ih =>
    refine sound_peek?.bind fun t _ => ?_
    split
    · exact sound_skip.after fun _ => ih _
    · exact sound_pure trivial

theorem sound_dottedName (fuel : Nat) (s : String) : Sound P (fun _ => True) (dottedName fuel s) := by
  induction fuel generalizing s with
  | zero => exact sound_pure trivial
  | succ fuel ih =>
    refine (sound_takeSymbol _).after fun b => ?_
    cases b with
    | true => exact sound_expectName.after fun _ => ih _
    | false => exact sound_pure trivial

theorem allNamesIn_concat {items : List Expr} {e : Expr} (h : AllNamesIn P items) (he : NamesIn P e) :
    AllNamesIn P (items ++ [e]) := by
  induction items with
  | nil => exact ⟨he, trivial⟩
  | cons first rest ih => exact ⟨h.1, ih h.2⟩

theorem argsIn_concat {args : List Arg} {arg : Arg} (h : ArgsIn P args) (ha : ArgsIn P [arg]) :
    ArgsIn P (args ++ [arg]) := by
  induction args with
  | nil => exact ha
  | cons first rest ih => cases first <;> exact ⟨h.1, ih h.2⟩

theorem sound_add {g : Given} {arg : Arg} (h : ArgsIn P g.args) (ha : ArgsIn P [arg]) :
    Sound P (fun g => ArgsIn P g.args) (g.add arg) := by
  have hmore := argsIn_concat h ha
  unfold Given.add
  split
  · split
    · exact sound_throw _
    · exact sound_pure hmore
  · split
    · exact sound_throw _
    · split
      · exact sound_throw _
      · exact sound_pure hmore
  · split
    · exact sound_throw _
    · exact sound_pure hmore
  · split
    · exact sound_throw _
    · exact sound_pure hmore

def SubscriptIn (P : String → Prop) : Subscript → Prop
  | .key e => NamesIn P e
  | .slice start stop step => OptionIn P start ∧ OptionIn P stop ∧ OptionIn P step

theorem sound_keys {subs : List Subscript} (h : ∀ s ∈ subs, SubscriptIn P s) :
    Sound P (AllNamesIn P) (subs.mapM fun
      | .key k => (return k : Parse Expr)
      | .slice .. => throw .repeatedArgument) := by
  induction subs with
  | nil => exact sound_pure trivial
  | cons first rest ih =>
    have hfirst := h first List.mem_cons_self
    have hrest := ih fun s hs => h s (List.mem_cons_of_mem _ hs)
    rw [List.mapM_cons]
    refine Sound.bind (Q := NamesIn P) ?_ fun e he => hrest.bind fun es hes => sound_pure ⟨he, hes⟩
    cases first with
    | key k => exact sound_pure hfirst
    | slice => exact sound_throw _

theorem sound_subscripted {e : Expr} {subs : List Subscript} (he : NamesIn P e)
    (h : ∀ s ∈ subs, SubscriptIn P s) : Sound P (NamesIn P) (subscripted e subs) := by
  unfold subscripted
  split
  · exact sound_pure ⟨he, h _ List.mem_cons_self⟩
  · exact sound_pure ⟨he, h _ List.mem_cons_self⟩
  · exact (sound_keys h).bind fun keys hkeys => sound_pure ⟨he, hkeys⟩

theorem sound_comma {first : Bool} {k : Unit → Parse α} (h : ∀ u, Sound P Q (k u)) :
    Sound P Q (if (!first) = true then expect "," >>= k else k ()) := by
  split
  · exact (sound_expect _).after h
  · exact h ()

/-- What each part of the reader reads when it may take so many steps. -/
structure SoundWithin (P : String → Prop) (fuel : Nat) : Prop where
  expression : Sound P (NamesIn P) (expression fuel)
  conditions : ∀ at_ e, NamesIn P e → Sound P (NamesIn P) (conditions fuel at_ e)
  disjunction : Sound P (NamesIn P) (disjunction fuel)
  moreDisjuncts : ∀ e, NamesIn P e → Sound P (NamesIn P) (moreDisjuncts fuel e)
  conjunction : Sound P (NamesIn P) (conjunction fuel)
  moreConjuncts : ∀ e, NamesIn P e → Sound P (NamesIn P) (moreConjuncts fuel e)
  negation : Sound P (NamesIn P) (negation fuel)
  chain : Sound P (LinksIn P) (chain fuel)
  sum : Sound P (NamesIn P) (sum fuel)
  moreTerms : ∀ e, NamesIn P e → Sound P (NamesIn P) (moreTerms fuel e)
  joined : Sound P (NamesIn P) (joined fuel)
  moreJoined : Sound P (AllNamesIn P) (moreJoined fuel)
  product : Sound P (NamesIn P) (product fuel)
  moreFactors : ∀ e, NamesIn P e → Sound P (NamesIn P) (moreFactors fuel e)
  power : Sound P (NamesIn P) (power fuel)
  morePowers : ∀ e, NamesIn P e → Sound P (NamesIn P) (morePowers fuel e)
  signed : ∀ filters, Sound P (NamesIn P) (signed fuel filters)
  primary : Sound P (NamesIn P) (primary fuel)
  parenthesized : ∀ before, AllNamesIn P before → Sound P (NamesIn P) (parenthesized fuel before)
  items : ∀ close first, Sound P (AllNamesIn P) (items fuel close first)
  entries : ∀ first, Sound P (EntriesIn P) (entries fuel first)
  postfixed : ∀ e, NamesIn P e → Sound P (NamesIn P) (postfixed fuel e)
  subscripts : ∀ first, Sound P (fun subs => ∀ s ∈ subs, SubscriptIn P s) (subscripts fuel first)
  subscript : Sound P (SubscriptIn P) (subscript fuel)
  bound : Sound P (OptionIn P) (bound fuel)
  arguments : ∀ g first, ArgsIn P g.args → Sound P (ArgsIn P) (arguments fuel g first)
  argument : Sound P (fun arg => ArgsIn P [arg]) (argument fuel)
  filtered : ∀ e, NamesIn P e → Sound P (NamesIn P) (filtered fuel e)
  testArguments : Sound P (ArgsIn P) (testArguments fuel)

variable {fuel : Nat} (ih : SoundWithin P fuel)

include ih

theorem expression_sound : Sound P (NamesIn P) (expression (fuel + 1)) := by
  rw [expression]
  exact sound_line.after fun at_ => ih.disjunction.bind fun e he => ih.conditions at_ e he

theorem conditions_sound (at_ : Nat) {e : Expr} (he : NamesIn P e) :
    Sound P (NamesIn P) (conditions (fuel + 1) at_ e) := by
  rw [conditions]
  refine (sound_takeWord _).after fun taken => ?_
  split
  · refine ih.disjunction.bind fun cond hcond => (sound_takeWord _).after fun other => ?_
    split
    · exact ih.expression.bind fun no hno => sound_line.after fun next =>
        ih.conditions next _ ⟨hcond, he, hno⟩
    · exact sound_line.after fun next => ih.conditions next _ ⟨hcond, he, trivial⟩
  · exact sound_pure he

theorem disjunction_sound : Sound P (NamesIn P) (disjunction (fuel + 1)) := by
  rw [disjunction]
  exact ih.conjunction.bind ih.moreDisjuncts

theorem moreDisjuncts_sound {e : Expr} (he : NamesIn P e) : Sound P (NamesIn P) (moreDisjuncts (fuel + 1) e) := by
  rw [moreDisjuncts]
  refine (sound_takeWord _).after fun taken => ?_
  split
  · exact ih.conjunction.bind fun right hright => ih.moreDisjuncts _ ⟨he, hright⟩
  · exact sound_pure he

theorem conjunction_sound : Sound P (NamesIn P) (conjunction (fuel + 1)) := by
  rw [conjunction]
  exact ih.negation.bind ih.moreConjuncts

theorem moreConjuncts_sound {e : Expr} (he : NamesIn P e) : Sound P (NamesIn P) (moreConjuncts (fuel + 1) e) := by
  rw [moreConjuncts]
  refine (sound_takeWord _).after fun taken => ?_
  split
  · exact ih.negation.bind fun right hright => ih.moreConjuncts _ ⟨he, hright⟩
  · exact sound_pure he

theorem negation_sound : Sound P (NamesIn P) (negation (fuel + 1)) := by
  rw [negation]
  refine (sound_takeWord _).after fun taken => ?_
  split
  · exact ih.negation.bind fun e he => sound_pure he
  · refine ih.sum.bind fun e he => ih.chain.bind fun links hlinks => sound_pure ?_
    split
    · exact he
    · exact ⟨he, hlinks⟩

theorem chain_sound : Sound P (LinksIn P) (chain (fuel + 1)) := by
  rw [chain]
  refine sound_takeComparison.after fun taken => ?_
  split
  · exact ih.sum.bind fun e he => ih.chain.bind fun links hlinks => sound_pure ⟨he, hlinks⟩
  · exact sound_pure trivial

theorem sum_sound : Sound P (NamesIn P) (sum (fuel + 1)) := by
  rw [sum]
  exact ih.joined.bind ih.moreTerms

theorem moreTerms_sound {e : Expr} (he : NamesIn P e) : Sound P (NamesIn P) (moreTerms (fuel + 1) e) := by
  rw [moreTerms]
  refine (sound_takeOperator _).after fun taken => ?_
  split
  · exact ih.joined.bind fun right hright => ih.moreTerms _ ⟨he, hright⟩
  · exact sound_pure he

theorem joined_sound : Sound P (NamesIn P) (joined (fuel + 1)) := by
  rw [joined]
  refine ih.product.bind fun first hfirst => ih.moreJoined.bind fun rest hrest => sound_pure ?_
  split
  · exact hfirst
  · exact ⟨hfirst, hrest⟩

theorem moreJoined_sound : Sound P (AllNamesIn P) (moreJoined (fuel + 1)) := by
  rw [moreJoined]
  refine (sound_takeSymbol _).after fun taken => ?_
  split
  · exact ih.product.bind fun e he => ih.moreJoined.bind fun rest hrest => sound_pure ⟨he, hrest⟩
  · exact sound_pure trivial

theorem product_sound : Sound P (NamesIn P) (product (fuel + 1)) := by
  rw [product]
  exact ih.power.bind ih.moreFactors

theorem moreFactors_sound {e : Expr} (he : NamesIn P e) : Sound P (NamesIn P) (moreFactors (fuel + 1) e) := by
  rw [moreFactors]
  refine (sound_takeOperator _).after fun taken => ?_
  split
  · exact ih.power.bind fun right hright => ih.moreFactors _ ⟨he, hright⟩
  · exact sound_pure he

theorem power_sound : Sound P (NamesIn P) (power (fuel + 1)) := by
  rw [power]
  exact (ih.signed true).bind ih.morePowers

theorem morePowers_sound {e : Expr} (he : NamesIn P e) : Sound P (NamesIn P) (morePowers (fuel + 1) e) := by
  rw [morePowers]
  refine (sound_takeOperator _).after fun taken => ?_
  split
  · exact (ih.signed true).bind fun right hright => ih.morePowers _ ⟨he, hright⟩
  · exact sound_pure he

theorem signed_sound (filters : Bool) : Sound P (NamesIn P) (signed (fuel + 1) filters) := by
  rw [signed]
  have hrest (e : Expr) (he : NamesIn P e) : Sound P (NamesIn P) (do
      let e ← postfixed fuel e
      if filters then filtered fuel e else return e) := by
    refine (ih.postfixed e he).bind fun e' he' => ?_
    split
    · exact ih.filtered _ he'
    · exact sound_pure he'
  refine (sound_takeSymbol _).after fun minus => (sound_takeSymbol _).after fun plus => ?_
  dsimp only
  split
  · exact (ih.signed false).bind fun e he => Sound.bind (Q := NamesIn P) (sound_pure he) hrest
  · split
    · exact (ih.signed false).bind fun e he => Sound.bind (Q := NamesIn P) (sound_pure he) hrest
    · exact ih.primary.bind hrest

theorem primary_sound : Sound P (NamesIn P) (primary (fuel + 1)) := by
  rw [primary]
  refine sound_peek?.bind fun t ht => sound_skip.after fun _ => ?_
  split
  · next name =>
    split
    · exact sound_pure trivial
    · exact sound_pure (ht name rfl)
  · exact (sound_adjacentTexts _ _).after fun _ => sound_pure trivial
  · exact sound_pure trivial
  · exact sound_pure trivial
  · exact ih.parenthesized [] trivial
  · exact (ih.items _ _).bind fun items hitems => sound_pure hitems
  · exact (ih.entries _).bind fun entries hentries => sound_pure hentries
  · exact sound_throw _

theorem parenthesized_sound {before : List Expr} (hbefore : AllNamesIn P before) :
    Sound P (NamesIn P) (parenthesized (fuel + 1) before) := by
  rw [parenthesized]
  refine (sound_takeSymbol _).after fun closed => ?_
  split
  · exact sound_pure hbefore
  · refine ih.expression.bind fun e he => (sound_takeSymbol _).after fun comma => ?_
    split
    · exact ih.parenthesized _ (allNamesIn_concat hbefore he)
    · refine (sound_expect _).after fun _ => sound_pure ?_
      split
      · exact he
      · exact allNamesIn_concat hbefore he

theorem items_sound (close : String) (first : Bool) : Sound P (AllNamesIn P) (items (fuel + 1) close first) := by
  rw [items]
  refine (sound_takeSymbol _).after fun closed => ?_
  split
  · exact sound_pure trivial
  · refine sound_comma fun _ => (sound_takeSymbol _).after fun last => ?_
    split
    · exact sound_pure trivial
    · exact ih.expression.bind fun e he => (ih.items _ _).bind fun rest hrest => sound_pure ⟨he, hrest⟩

theorem entries_sound (first : Bool) : Sound P (EntriesIn P) (entries (fuel + 1) first) := by
  rw [entries]
  refine (sound_takeSymbol _).after fun closed => ?_
  split
  · exact sound_pure trivial
  · refine sound_comma fun _ => (sound_takeSymbol _).after fun last => ?_
    split
    · exact sound_pure trivial
    · exact ih.expression.bind fun key hkey => (sound_expect _).after fun _ =>
        ih.expression.bind fun value hvalue => (ih.entries _).bind fun rest hrest =>
          sound_pure ⟨hkey, hvalue, hrest⟩

theorem postfixed_sound {e : Expr} (he : NamesIn P e) : Sound P (NamesIn P) (postfixed (fuel + 1) e) := by
  rw [postfixed]
  refine (sound_takeSymbol _).after fun point => ?_
  split
  · refine sound_peek?.after fun t => sound_skip.after fun _ => ?_
    split
    · exact ih.postfixed _ he
    · exact ih.postfixed _ ⟨he, trivial⟩
    · exact sound_throw _
  · refine (sound_takeSymbol _).after fun bracket => ?_
    split
    · exact (ih.subscripts _).bind fun subs hsubs => (sound_subscripted he hsubs).bind ih.postfixed
    · refine (sound_takeSymbol _).after fun paren => ?_
      split
      · exact (ih.arguments ⟨[], false, false, false⟩ true trivial).bind fun args hargs =>
          ih.postfixed _ ⟨he, hargs⟩
      · exact sound_pure he

theorem subscripts_sound (first : Bool) :
    Sound P (fun subs => ∀ s ∈ subs, SubscriptIn P s) (subscripts (fuel + 1) first) := by
  rw [subscripts]
  refine (sound_takeSymbol _).after fun closed => ?_
  split
  · exact sound_pure nofun
  · exact sound_comma fun _ => ih.subscript.bind fun first hfirst => (ih.subscripts _).bind fun rest hrest =>
      sound_pure (List.forall_mem_cons.2 ⟨hfirst, hrest⟩)

theorem subscript_sound : Sound P (SubscriptIn P) (subscript (fuel + 1)) := by
  rw [subscript]
  have hstep (start stop : Option Expr) (hstart : OptionIn P start) (hstop : OptionIn P stop) :
      Sound P (SubscriptIn P) (do
        let step ← if ← takeSymbol ":" then bound fuel else pure none
        return .slice start stop step) := by
    refine (sound_takeSymbol _).after fun second => ?_
    dsimp only
    split
    · exact ih.bound.bind fun step hstep => sound_pure ⟨hstart, hstop, hstep⟩
    · exact sound_pure ⟨hstart, hstop, trivial⟩
  have hrest (start : Option Expr) (alone : Parse Subscript) (hstart : OptionIn P start)
      (halone : Sound P (SubscriptIn P) alone) : Sound P (SubscriptIn P) (do
      if ← takeSymbol ":" then
        let stop ← if ← atSymbol ":" then pure none else bound fuel
        let step ← if ← takeSymbol ":" then bound fuel else pure none
        return .slice start stop step
      else alone) := by
    refine (sound_takeSymbol _).after fun colon => ?_
    split
    · refine (sound_atSymbol _).after fun empty => ?_
      dsimp only
      split
      · exact hstep start none hstart trivial
      · exact ih.bound.bind fun stop hstop => hstep start stop hstart hstop
    · exact halone
  refine (sound_atSymbol _).after fun empty => ?_
  dsimp only
  split
  · exact hrest none _ trivial (sound_throw _)
  · refine Sound.bind (Q := OptionIn P) (ih.expression.map fun e he => he) fun start hstart => ?_
    cases start with
    | none => exact hrest none _ trivial (sound_throw _)
    | some e => exact hrest (some e) _ hstart (sound_pure hstart)

theorem bound_sound : Sound P (OptionIn P) (bound (fuel + 1)) := by
  rw [bound]
  refine (sound_atSymbol _).after fun bracket => (sound_atSymbol _).after fun comma => ?_
  split
  · exact sound_pure trivial
  · exact ih.expression.bind fun e he => sound_pure he

theorem arguments_sound {g : Given} (first : Bool) (hg : ArgsIn P g.args) :
    Sound P (ArgsIn P) (arguments (fuel + 1) g first) := by
  rw [arguments]
  refine (sound_takeSymbol _).after fun closed => ?_
  split
  · exact sound_pure hg
  · refine sound_comma fun _ => (sound_atSymbol _).after fun last => ?_
    split
    · exact sound_skip.after fun _ => sound_pure hg
    · exact ih.argument.bind fun arg harg => (sound_add hg harg).bind fun g hg => ih.arguments g false hg

theorem argument_sound : Sound P (fun arg => ArgsIn P [arg]) (argument (fuel + 1)) := by
  rw [argument]
  refine (sound_takeSymbol _).after fun star => ?_
  split
  · exact ih.expression.bind fun e he => sound_pure ⟨he, trivial⟩
  · refine (sound_takeSymbol _).after fun stars => ?_
    split
    · exact ih.expression.bind fun e he => sound_pure ⟨he, trivial⟩
    · refine sound_takeArgumentName.after fun name => ?_
      split
      · exact ih.expression.bind fun e he => sound_pure ⟨he, trivial⟩
      · exact ih.expression.bind fun e he => sound_pure ⟨he, trivial⟩

theorem filtered_sound {e : Expr} (he : NamesIn P e) : Sound P (NamesIn P) (filtered (fuel + 1) e) := by
  rw [filtered]
  refine (sound_takeSymbol _).after fun bar => ?_
  split
  · refine sound_expectName.after fun first => (sound_dottedName _ _).after fun name =>
      (sound_takeSymbol _).after fun paren => ?_
    dsimp only
    split
    · exact (ih.arguments ⟨[], false, false, false⟩ true trivial).bind fun args hargs =>
        ih.filtered _ ⟨he, hargs⟩
    · exact ih.filtered _ ⟨he, trivial⟩
  · refine (sound_takeWord _).after fun test => ?_
    split
    · refine (sound_takeWord _).after fun negated => sound_expectName.after fun first =>
        (sound_dottedName _ _).after fun name => ih.testArguments.bind fun args hargs => ih.filtered _ ?_
      split
      · exact ⟨he, hargs⟩
      · exact ⟨he, hargs⟩
    · refine (sound_takeSymbol _).after fun paren => ?_
      split
      · exact (ih.arguments ⟨[], false, false, false⟩ true trivial).bind fun args hargs =>
          ih.filtered _ ⟨he, hargs⟩
      · exact sound_pure he

theorem testArguments_sound : Sound P (ArgsIn P) (testArguments (fuel + 1)) := by
  rw [testArguments]
  refine sound_peek?.after fun t => ?_
  split
  · exact sound_skip.after fun _ => ih.arguments ⟨[], false, false, false⟩ true trivial
  · split
    · exact sound_throw _
    · split
      · exact ih.primary.bind fun e he => (ih.postfixed e he).bind fun e' he' => sound_pure ⟨he', trivial⟩
      · exact sound_pure trivial

omit ih

theorem soundWithin (P : String → Prop) (fuel : Nat) : SoundWithin P fuel := by
  induction fuel with
  | zero => constructor <;> intros <;> exact sound_throw _
  | succ fuel ih => exact {
      expression := expression_sound ih
      conditions := fun at_ _ he => conditions_sound ih at_ he
      disjunction := disjunction_sound ih
      moreDisjuncts := fun _ he => moreDisjuncts_sound ih he
      conjunction := conjunction_sound ih
      moreConjuncts := fun _ he => moreConjuncts_sound ih he
      negation := negation_sound ih
      chain := chain_sound ih
      sum := sum_sound ih
      moreTerms := fun _ he => moreTerms_sound ih he
      joined := joined_sound ih
      moreJoined := moreJoined_sound ih
      product := product_sound ih
      moreFactors := fun _ he => moreFactors_sound ih he
      power := power_sound ih
      morePowers := fun _ he => morePowers_sound ih he
      signed := signed_sound ih
      primary := primary_sound ih
      parenthesized := fun _ h => parenthesized_sound ih h
      items := items_sound ih
      entries := entries_sound ih
      postfixed := fun _ he => postfixed_sound ih he
      subscripts := subscripts_sound ih
      subscript := subscript_sound ih
      bound := bound_sound ih
      arguments := fun _ first hg => arguments_sound ih first hg
      argument := argument_sound ih
      filtered := fun _ he => filtered_sound ih he
      testArguments := testArguments_sound ih }

end Parse

/-- The names among the tokens of an expression. An expression that cannot be read has none. -/
def identifiers (text : String) : List String :=
  match lex (stripSigils text.toList) with
  | .ok lexemes => lexemes.filterMap fun l => match l.token with
    | .name s => some s
    | _ => none
  | .error _ => []

theorem namesIn_identifiers {text : String} {e : Expr} (h : compile text = .ok e) :
    NamesIn (· ∈ identifiers text) e := by
  obtain ⟨parsed, hparsed, h⟩ := exists_of_bind_ok h
  split at h
  · cases h
  · obtain rfl := Except.ok.inj h
    obtain ⟨lexemes, hlex, hparsed⟩ := exists_of_bind_ok hparsed
    obtain ⟨⟨read, rest⟩, hread, hend⟩ := exists_of_bind_ok hparsed
    have htokens : TokensIn (· ∈ identifiers text) lexemes := by
      intro l hl name hname
      rw [identifiers, hlex]
      exact List.mem_filterMap.2 ⟨l, hl, by rw [hname]⟩
    have hnames := ((Parse.soundWithin _ _).expression lexemes read rest htokens hread).1
    dsimp only at hend
    split at hend
    · exact Except.ok.inj hend ▸ hnames
    · cases hend

end Stencil.Expression

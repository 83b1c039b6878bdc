import Stencil.Proofs.Json.Grammar
import Stencil.Proofs.Text.Class
/-!
# Texts of the grammar are read

The reader gives each text of the grammar the value that the text writes. Every scan of the reader takes as
much as it can, so what it leaves is said of the text that follows.
-/

namespace Stencil.Json

open Text Number

def Closed (rest : List Char) : Prop :=
  ∀ c ∈ rest.head?, isGap c = true ∨ c = ',' ∨ c = ']' ∨ c = '\x7d'

theorem dropGap_append {g : List Char} (hg : Gap g) (s : List Char) : dropGap (g ++ s) = dropGap s :=
  List.dropWhile_append_of_pos hg

theorem dropGap_cons {c : Char} (h : isGap c = false) (s : List Char) : dropGap (c :: s) = c :: s :=
  dropWhile_of_stops (stops_cons.2 h)

theorem closed_append {g rest : List Char} (hg : Gap g) (hr : Closed rest) : Closed (g ++ rest) := by
  cases g with
  | nil => exact hr
  | cons c g =>
    intro d hd
    obtain rfl := Option.some.inj hd
    exact .inl (hg c List.mem_cons_self)

theorem Closed.head {rest : List Char} (hr : Closed rest) {c : Char} (hc : c ∈ rest.head?) :
    isAsciiDigit c = false ∧ c ≠ '.' ∧ c ≠ 'e' ∧ c ≠ 'E' := by
  rcases hr c hc with hgap | rfl | rfl | rfl
  · simp only [isGap, Bool.or_eq_true, beq_iff_eq] at hgap
    rcases hgap with ((rfl | rfl) | rfl) | rfl <;> decide
  all_goals decide

theorem takeAscii_append {ds rest : List Char} (hd : Digits ds) (hr : Stops isAsciiDigit rest) :
    takeAscii (ds ++ rest) = (ds, rest) := by
  rw [takeAscii, takeWhile_append_stop hd hr, dropWhile_append_stop hd hr]

theorem Whole.digits_of {ds : List Char} (h : Whole ds) : Digits ds := by
  cases h with
  | zero => simp [Digits, isAsciiDigit]
  | digits h _ => exact h

theorem Whole.eq_cons {ds : List Char} (h : Whole ds) : ∃ c cs, ds = c :: cs := by
  cases h with
  | zero => exact ⟨_, _, rfl⟩
  | digits => exact ⟨_, _, rfl⟩

theorem Whole.take {ds rest : List Char} (h : Whole ds) (hr : Stops isAsciiDigit rest) :
    takeWhole (ds ++ rest) = (ds, rest) := by
  cases h with
  | zero => rfl
  | @digits c ds hd hc =>
    have htake := takeAscii_append hd hr
    rw [List.cons_append] at htake ⊢
    rw [takeWhole]
    · exact htake
    · intro after heq
      exact hc (List.cons.inj heq).1

theorem takePlaces_append {places rest : List Char} (hd : Digits places)
    (hr : ∀ c ∈ rest.head?, isAsciiDigit c = false ∧ c ≠ '.') :
    takePlaces (pointed places ++ rest) = (places, rest) := by
  cases places with
  | nil =>
    show takePlaces rest = _
    cases rest with
    | nil => rfl
    | cons c rest =>
      unfold takePlaces
      split
      · next heq => exact absurd (List.cons.inj heq).1 (hr c rfl).2
      · rfl
  | cons d places =>
    have htake := takeAscii_append hd fun c hc => (hr c hc).1
    show takePlaces ('.' :: (d :: places ++ rest)) = _
    rw [takePlaces, htake]

theorem takeSign_append {negative : Bool} {sign : List Char} (h : PowerSign negative sign) {s : List Char}
    (hs : ∀ c ∈ s.head?, isAsciiDigit c = true) : takeSign (sign ++ s) = (negative, s) := by
  cases h with
  | plus | minus => rfl
  | none =>
    cases s with
    | nil => rfl
    | cons c s =>
      have hc := hs c rfl
      show takeSign (c :: s) = _
      unfold takeSign
      split
      · next heq =>
        obtain ⟨rfl, -⟩ := List.cons.inj heq
        cases hc
      · next heq =>
        obtain ⟨rfl, -⟩ := List.cons.inj heq
        cases hc
      · rfl

theorem Power.take {power : Option Int} {text rest : List Char} (h : Power power text) (hr : Closed rest) :
    takePower (text ++ rest) = (power, rest) := by
  cases h with
  | none =>
    show takePower rest = _
    cases rest with
    | nil => rfl
    | cons c rest =>
      obtain ⟨-, -, he, hE⟩ := hr.head (c := c) rfl
      simp [takePower, he, hE]
  | @some mark negative sign ds hmark hsign hne hds =>
    obtain ⟨d, ds, rfl⟩ := List.exists_cons_of_ne_nil hne
    have hbegins : ∀ c ∈ (d :: ds ++ rest).head?, isAsciiDigit c = true := by
      intro c hc
      obtain rfl := Option.some.inj hc
      exact hds d List.mem_cons_self
    have hmark' : (mark == 'e' || mark == 'E') = true := by
      rcases hmark with rfl | rfl <;> rfl
    have htake := takeAscii_append hds fun c hc => (hr.head hc).1
    show takePower (mark :: (sign ++ (d :: ds) ++ rest)) = _
    rw [List.append_assoc, takePower, if_pos hmark', takeSign_append hsign hbegins]
    dsimp only
    rw [htake]

theorem not_digit_after {places text rest : List Char} {power : Option Int} (hp : Power power text)
    (hr : Closed rest) : Stops isAsciiDigit (pointed places ++ (text ++ rest)) := by
  intro c hc
  cases places with
  | cons d places =>
    obtain rfl := Option.some.inj hc
    rfl
  | nil =>
    cases hp with
    | none => exact (hr.head hc).1
    | some hmark =>
      obtain rfl := Option.some.inj hc
      rcases hmark with rfl | rfl <;> rfl

theorem not_place_after {text rest : List Char} {power : Option Int} (hp : Power power text)
    (hr : Closed rest) : ∀ c ∈ (text ++ rest).head?, isAsciiDigit c = false ∧ c ≠ '.' := by
  intro c hc
  cases hp with
  | none =>
    obtain ⟨hdigit, hpoint, -⟩ := hr.head hc
    exact ⟨hdigit, hpoint⟩
  | some hmark =>
    obtain rfl := Option.some.inj hc
    rcases hmark with rfl | rfl <;> decide

theorem readNumber_float {negative : Bool} {ds places text rest : List Char} {power : Option Int}
    (hw : Whole ds) (hplaces : Digits places) (hpower : Power power text)
    (hsome : places ≠ [] ∨ power.isSome) (hr : Closed rest) :
    readNumber negative (ds ++ (pointed places ++ (text ++ rest))) =
      .ok (.float (ofDecimal negative ((ds ++ places).map digitValue) (power.getD 0 - places.length)),
        rest) := by
  obtain ⟨c, cs, rfl⟩ := hw.eq_cons
  have hfloat : (places.isEmpty && power.isNone) = false := by
    rcases hsome with h | h
    · simp [h]
    · cases power <;> simp_all
  rw [readNumber, hw.take (not_digit_after hpower hr)]
  simp only [takePlaces_append hplaces (not_place_after hpower hr), hpower.take hr, hfloat]
  rfl

theorem readNumber_int {negative : Bool} {ds rest : List Char} (hw : Whole ds)
    (hshort : ds.length ≤ digitLimit) (hr : Closed rest) :
    readNumber negative (ds ++ rest) =
      .ok (.int (if negative then -(ofDigits ds : Int) else ofDigits ds), rest) := by
  obtain ⟨c, cs, rfl⟩ := hw.eq_cons
  have hplaces : takePlaces rest = ([], rest) :=
    takePlaces_append (fun c hc => absurd hc List.not_mem_nil) (not_place_after .none hr)
  have hpower : takePower rest = (none, rest) := Power.none.take hr
  rw [readNumber, hw.take fun c hc => (hr.head hc).1]
  simp only [hplaces, hpower, List.isEmpty_nil, Option.isNone_none, Bool.and_self, if_true,
    if_neg (Nat.not_lt.2 hshort)]

theorem readNumber_long {negative : Bool} {ds rest : List Char} (hw : Whole ds)
    (hlong : digitLimit < ds.length) (hr : Closed rest) :
    readNumber negative (ds ++ rest) = .error (.badValue (.longInteger ds.length)) := by
  obtain ⟨c, cs, rfl⟩ := hw.eq_cons
  have hplaces : takePlaces rest = ([], rest) :=
    takePlaces_append (fun c hc => absurd hc List.not_mem_nil) (not_place_after .none hr)
  have hpower : takePower rest = (none, rest) := Power.none.take hr
  rw [readNumber, hw.take fun c hc => (hr.head hc).1]
  simp only [hplaces, hpower, List.isEmpty_nil, Option.isNone_none, Bool.and_self, if_true, if_pos hlong]

/-- No word is the beginning of what begins with a digit, and the one that begins with a minus sign goes on
with a letter. -/
theorem readSimple_number {negative : Bool} {c : Char} (hc : isAsciiDigit c = true) (s : List Char) :
    readSimple (minus negative ++ c :: s) = readNumber negative (c :: s) := by
  have ne (x : Char) (hx : isAsciiDigit x = false) : x ≠ c := (ne_of_class hc hx).symm
  have hword : ∀ word ∈ words, after? word.1 (minus negative ++ c :: s) = none := by
    cases negative <;>
      simp [words, minus, after?, ne 'n' rfl, ne 't' rfl, ne 'f' rfl, ne 'N' rfl, ne 'I' rfl, ne '-' rfl]
  unfold readSimple
  split
  · next h =>
    obtain ⟨⟨word, value⟩, hmem, h⟩ := List.exists_of_findSome?_eq_some h
    have hnone : after? word (minus negative ++ c :: s) = none := hword (word, value) hmem
    dsimp only at h
    rw [hnone] at h
    cases h
  · cases negative with
    | true => rfl
    | false =>
      rw [minus, if_neg Bool.false_ne_true, List.nil_append]
      split
      · next heq => exact absurd (List.cons.inj heq).1.symm (ne '-' rfl)
      · rfl

theorem hexFour?_append {hex : List Char} {n : Nat} (h : hexFour? hex = some (n, [])) (s : List Char) :
    hexFour? (hex ++ s) = some (n, s) := by
  unfold hexFour? at h
  split at h
  · next a b c d rest =>
    obtain ⟨a', ha, h⟩ := Option.bind_eq_some_iff.1 h
    obtain ⟨b', hb, h⟩ := Option.bind_eq_some_iff.1 h
    obtain ⟨c', hc, h⟩ := Option.bind_eq_some_iff.1 h
    obtain ⟨d', hd, h⟩ := Option.bind_eq_some_iff.1 h
    obtain ⟨rfl, rfl⟩ := Prod.mk.inj (Option.some.inj h)
    simp [hexFour?, ha, hb, hc, hd]
  · cases h

theorem lowHalf?_number {hex : List Char} {n : Nat} (h : hexFour? hex = some (n, [])) (s : List Char) :
    lowHalf? ('\\' :: 'u' :: (hex ++ s)) = if IsLowHalf n then some (n, s) else none := by
  simp only [lowHalf?, hexFour?_append h, Option.filter, Bool.and_eq_true, decide_eq_true_eq]

theorem Quoted.not_low {s t : List Char} (h : Quoted s t) (hlow : lowHalf? t = none) (rest : List Char) :
    lowHalf? (t ++ '"' :: rest) = none := by
  cases h with
  | nil => rfl
  | plain _ hs =>
    unfold lowHalf?
    split
    · next heq => exact absurd (List.cons.inj heq).1 hs
    · rfl
  | @letter x _ _ _ hx =>
    unfold lowHalf?
    split
    · next heq =>
      obtain ⟨rfl, -⟩ := List.cons.inj (List.cons.inj heq).2
      cases hx
    · rfl
  | number hhex | pair _ hhex | alone hhex =>
    rw [lowHalf?_number hhex] at hlow
    simp only [List.cons_append, List.append_assoc]
    rw [lowHalf?_number hhex]
    split at hlow
    · cases hlow
    · next hn => exact if_neg hn

theorem readChar?_plain {c : Char} (hs : c ≠ '\\') (hc : 32 ≤ c.toNat) (rest : List Char) :
    readChar? (c :: rest) = some (c, rest) := by
  unfold readChar?
  split
  · next heq => exact absurd (List.cons.inj heq).1 hs
  · next heq => exact absurd (List.cons.inj heq).1 hs
  · next heq => exact absurd (List.cons.inj heq).1 hs
  · next heq =>
    obtain ⟨rfl, rfl⟩ := List.cons.inj heq
    exact if_neg (Nat.not_lt.2 hc)
  · next heq => cases heq

theorem readChar?_letter {x c : Char} (hx : escaped? x = some c) (rest : List Char) :
    readChar? ('\\' :: x :: rest) = some (c, rest) := by
  unfold readChar?
  split
  · next heq =>
    obtain ⟨rfl, -⟩ := List.cons.inj (List.cons.inj heq).2
    cases hx
  · next heq =>
    obtain ⟨rfl, rfl⟩ := List.cons.inj (List.cons.inj heq).2
    rw [hx]
    rfl
  · next heq => cases heq
  · next hne _ heq =>
    obtain ⟨rfl, rfl⟩ := List.cons.inj heq
    exact (hne x rest rfl rfl).elim
  · next heq => cases heq

theorem Quoted.readChar {c : Char} {s t : List Char} (h : Quoted (c :: s) t) (rest : List Char) :
    ∃ t', Quoted s t' ∧ t'.length < t.length ∧ (∀ after, t ++ '"' :: rest ≠ '"' :: after) ∧
      readChar? (t ++ '"' :: rest) = some (c, t' ++ '"' :: rest) := by
  cases h with
  | @plain _ _ t hq hs hc h =>
    refine ⟨t, h, by simp, fun after heq => hq (List.cons.inj heq).1, ?_⟩
    exact readChar?_plain hs hc _
  | @letter x _ _ t hx h =>
    refine ⟨t, h, by simp only [List.length_cons]; omega, fun after heq => ?_, readChar?_letter hx _⟩
    exact absurd (List.cons.inj heq).1 (by decide)
  | @number n hex _ t hhex hhigh hlow h =>
    refine ⟨t, h, by simp only [List.length_cons, List.length_append]; omega, fun after heq => ?_, ?_⟩
    · exact absurd (List.cons.inj heq).1 (by decide)
    simp only [List.cons_append, List.append_assoc]
    rw [readChar?, numbered?, hexFour?_append hhex]
    simp only [Option.bind_eq_bind, Option.bind_some, Bool.and_eq_true, decide_eq_true_eq]
    rw [if_neg hhigh, if_neg hlow]
  | @pair _ n low hex more _ t hc hhex hhigh hmore hlow h =>
    refine ⟨t, h, by simp only [List.length_cons, List.length_append]; omega, fun after heq => ?_, ?_⟩
    · exact absurd (List.cons.inj heq).1 (by decide)
    simp only [List.cons_append, List.append_assoc]
    rw [readChar?, numbered?, hexFour?_append hhex]
    have hnext := lowHalf?_number hmore (t ++ '"' :: rest)
    rw [if_pos hlow] at hnext
    simp only [Option.bind_eq_bind, Option.bind_some, Bool.and_eq_true, decide_eq_true_eq]
    rw [if_pos hhigh, hnext, hc]
    rfl
  | @alone n hex _ t hhex hn h =>
    refine ⟨t, h, by simp only [List.length_cons, List.length_append]; omega, fun after heq => ?_, ?_⟩
    · exact absurd (List.cons.inj heq).1 (by decide)
    simp only [List.cons_append, List.append_assoc]
    rw [readChar?, numbered?, hexFour?_append hhex]
    simp only [Option.bind_eq_bind, Option.bind_some, Bool.and_eq_true, decide_eq_true_eq]
    rcases hn with ⟨hhigh, hlow⟩ | hlow
    · rw [if_pos hhigh, h.not_low hlow]
    · rw [if_neg (by omega), if_pos hlow]

theorem Quoted.readWith {s t : List Char} (h : Quoted s t) (rest : List Char) {fuel : Nat}
    (hf : t.length < fuel) : readStringWith fuel (t ++ '"' :: rest) = some (s, rest) := by
  -- a pair of escapes takes twelve characters of the text, so the induction is on what is read
  induction s generalizing t fuel with
  | nil =>
    obtain ⟨fuel, rfl⟩ : ∃ n, fuel = n + 1 := ⟨fuel - 1, by omega⟩
    cases h
    rfl
  | cons c s ih =>
    obtain ⟨fuel, rfl⟩ : ∃ n, fuel = n + 1 := ⟨fuel - 1, by omega⟩
    obtain ⟨t', ht', hlen, hne, hchar⟩ := h.readChar rest
    have htail := ih ht' (show t'.length < fuel by omega)
    rw [readStringWith]
    · simp [hchar, htail]
    · exact hne

theorem Quoted.readString {s : String} {t : List Char} (h : Quoted s.toList t) (rest : List Char) :
    readString (t ++ '"' :: rest) = .ok (s, rest) := by
  have hfuel : t.length < (t ++ '"' :: rest).length + 1 := by
    rw [List.length_append]
    omega
  rw [Json.readString, h.readWith rest hfuel]
  simp

theorem Spells.eq_cons {f : Form} {n : Nat} {v : Json} {t : List Char} (h : Spells f n v t) :
    ∃ a as, t = a :: as ∧ isGap a = false ∧ a ≠ ']' := by
  have number (negative : Bool) {ds : List Char} (hw : Whole ds) (s : List Char) :
      ∃ a as, minus negative ++ (ds ++ s) = a :: as ∧ isGap a = false ∧ a ≠ ']' := by
    obtain ⟨c, cs, rfl⟩ := hw.eq_cons
    cases negative with
    | true => exact ⟨'-', _, rfl, by decide, by decide⟩
    | false =>
      have hc := hw.digits_of c List.mem_cons_self
      refine ⟨c, _, rfl, ?_, ?_⟩
      · have ne (x : Char) (hx : isAsciiDigit x = false) : c ≠ x := ne_of_class hc hx
        simp [isGap, ne ' ' rfl, ne '\n' rfl, ne '\r' rfl, ne '\t' rfl]
      · exact ne_of_class hc rfl
  cases h with
  | word h =>
    simp only [words, List.mem_cons, Prod.mk.injEq, List.not_mem_nil, or_false] at h
    rcases h with ⟨rfl, -⟩ | ⟨rfl, -⟩ | ⟨rfl, -⟩ | ⟨rfl, -⟩ | ⟨rfl, -⟩ | ⟨rfl, -⟩ <;>
      exact ⟨_, _, rfl, by decide, by decide⟩
  | @int _ negative ds hw =>
    have := number negative hw []
    rwa [List.append_nil] at this
  | float hw => exact number _ hw _
  | str => exact ⟨'"', _, rfl, by decide, by decide⟩
  | arr | noItems => exact ⟨'[', _, rfl, by decide, by decide⟩
  | obj | noFields => exact ⟨'\x7b', _, rfl, by decide, by decide⟩

/-- A text that is read as its value, whatever may follow it. Two steps for each character are enough. -/
def Reads (depth : Nat) (v : Json) (t : List Char) : Prop :=
  ∀ room fuel rest, depth ≤ room → 2 * t.length ≤ fuel → Closed rest →
    readValue room fuel (t ++ rest) = .ok (v, rest)

/-- A slot in a text that may be read: white space around a text that begins with none. -/
structure Slot.Fits (depth : Nat) (s : Slot) : Prop where
  before : Gap s.before
  after : Gap s.after
  spells : Spells .short depth s.value s.text
  reads : Reads depth s.value s.text

variable {s : Slot} {depth room fuel : Nat} {rest : List Char}

theorem Slot.Fits.dropGap (h : s.Fits depth) (rest : List Char) :
    dropGap (s.spelled ++ rest) = s.text ++ (s.after ++ rest) := by
  obtain ⟨a, as, ha, hgap, -⟩ := h.spells.eq_cons
  rw [Slot.spelled, List.append_assoc, List.append_assoc, dropGap_append h.before, ha]
  exact dropGap_cons hgap _

theorem Slot.length_spelled (s : Slot) : s.text.length + s.after.length ≤ s.spelled.length := by
  simp [Slot.spelled]

theorem Slot.Fits.read (h : s.Fits depth) (hroom : depth ≤ room) (hf : 2 * s.spelled.length ≤ fuel)
    (hr : Closed rest) :
    readValue room fuel (s.text ++ (s.after ++ rest)) = .ok (s.value, s.after ++ rest) := by
  have := s.length_spelled
  exact h.reads room fuel _ hroom (by omega) (closed_append h.after hr)

theorem withCommas_cons (s : List Char) (more : List (List Char)) :
    ∃ after, withCommas (s :: more) = s ++ after := by
  cases more with
  | nil => exact ⟨[], (List.append_nil s).symm⟩
  | cons t more => exact ⟨',' :: withCommas (t :: more), rfl⟩

theorem readItems_slots {slots : List Slot} (hne : slots ≠ []) (h : ∀ s ∈ slots, s.Fits depth)
    (hroom : depth ≤ room) (fuel : Nat) (rest : List Char) (hf : 2 * (withCommas (slots.map Slot.spelled)).length + 1 ≤ fuel) :
    readItems room fuel (dropGap (withCommas (slots.map Slot.spelled) ++ ']' :: rest)) =
      .ok (slots.map Slot.value, rest) := by
  induction slots generalizing fuel with
  | nil => exact absurd rfl hne
  | cons s more ih =>
    obtain ⟨fuel, rfl⟩ : ∃ n, fuel = n + 1 := ⟨fuel - 1, by omega⟩
    have hs := h s List.mem_cons_self
    cases more with
    | nil =>
      change 2 * s.spelled.length + 1 ≤ fuel + 1 at hf
      show readItems room (fuel + 1) (dropGap (s.spelled ++ ']' :: rest)) = _
      rw [hs.dropGap, readItems, hs.read hroom (by omega) (by simp [Closed])]
      simp only [bind, Except.bind]
      rw [dropGap_append hs.after, dropGap_cons (by decide)]
      rfl
    | cons next more =>
      have htext : withCommas ((s :: next :: more).map Slot.spelled) ++ ']' :: rest =
          s.spelled ++ ',' :: (withCommas ((next :: more).map Slot.spelled) ++ ']' :: rest) := by
        simp [withCommas]
      have hlen : (withCommas ((s :: next :: more).map Slot.spelled)).length =
          s.spelled.length + (withCommas ((next :: more).map Slot.spelled)).length + 1 := by
        simp [withCommas]
        omega
      have hmore := ih (List.cons_ne_nil _ _) (fun t ht => h t (List.mem_cons_of_mem s ht)) fuel (by omega)
      rw [htext, hs.dropGap, readItems, hs.read hroom (by omega) (by simp [Closed])]
      simp only [bind, Except.bind]
      rw [dropGap_append hs.after, dropGap_cons (by decide)]
      simp only [hmore]
      rfl

structure Member.Fits (depth : Nat) (m : Member) : Prop where
  before : Gap m.before
  text : Quoted m.key.toList m.text
  after : Gap m.after
  slot : m.slot.Fits depth

theorem Member.Fits.dropGap {m : Member} (h : m.Fits depth) (rest : List Char) :
    dropGap (m.spelled ++ rest) =
      '"' :: (m.text ++ '"' :: (m.after ++ ':' :: (m.slot.spelled ++ rest))) := by
  simp only [Member.spelled, List.append_assoc, List.cons_append]
  rw [dropGap_append h.before, dropGap_cons (by decide)]

theorem readKey_quoted {key : String} {t g : List Char} (h : Quoted key.toList t) (hg : Gap g)
    (rest : List Char) : readKey ('"' :: (t ++ '"' :: (g ++ ':' :: rest))) = .ok (key, dropGap rest) := by
  rw [readKey, h.readString]
  simp only [bind, Except.bind]
  rw [dropGap_append hg, dropGap_cons (by decide)]
  rfl

theorem Member.Fits.readKey {m : Member} (h : m.Fits depth) (rest : List Char) :
    readKey ('"' :: (m.text ++ '"' :: (m.after ++ ':' :: (m.slot.spelled ++ rest)))) =
      .ok (m.key, m.slot.text ++ (m.slot.after ++ rest)) := by
  rw [readKey_quoted h.text h.after, h.slot.dropGap]

theorem Member.length_spelled (m : Member) : m.slot.spelled.length + 3 ≤ m.spelled.length := by
  simp only [Member.spelled, List.length_append, List.length_cons]
  omega

theorem readFields_field {m : Member} (h : m.Fits depth) (hroom : depth ≤ room) (before : List (String × Json))
    {fuel : Nat} (hf : 2 * m.spelled.length ≤ fuel) {mark : Char} (hmark : mark = ',' ∨ mark = '\x7d') (rest : List Char) :
    readFields room (fuel + 1) before (dropGap (m.spelled ++ mark :: rest)) =
      if mark = ',' then readFields room fuel (putField m.key m.slot.value before) (dropGap rest)
      else .ok (putField m.key m.slot.value before, rest) := by
  have hlen := m.length_spelled
  have hclosed : Closed (mark :: rest) := by rcases hmark with rfl | rfl <;> simp [Closed]
  have hgap : isGap mark = false := by rcases hmark with rfl | rfl <;> rfl
  rw [h.dropGap, readFields, h.readKey]
  simp only [bind, Except.bind]
  rw [h.slot.read hroom (by omega) hclosed]
  dsimp only
  rw [dropGap_append h.slot.after, dropGap_cons hgap]
  rcases hmark with rfl | rfl <;> rfl

theorem readFields_next {m : Member} (h : m.Fits depth) (hroom : depth ≤ room) (before : List (String × Json))
    {fuel : Nat} (hf : 2 * m.spelled.length ≤ fuel) (rest : List Char) :
    readFields room (fuel + 1) before (dropGap (m.spelled ++ ',' :: rest)) =
      readFields room fuel (putField m.key m.slot.value before) (dropGap rest) :=
  readFields_field h hroom before hf (.inl rfl) rest

theorem readFields_last {m : Member} (h : m.Fits depth) (hroom : depth ≤ room) (before : List (String × Json))
    {fuel : Nat} (hf : 2 * m.spelled.length ≤ fuel) (rest : List Char) :
    readFields room (fuel + 1) before (dropGap (m.spelled ++ '\x7d' :: rest)) =
      .ok (putField m.key m.slot.value before, rest) :=
  readFields_field h hroom before hf (.inr rfl) rest

theorem readFields_members {members : List Member} (hne : members ≠ []) (h : ∀ m ∈ members, m.Fits depth)
    (hroom : depth ≤ room) (before : List (String × Json)) (fuel : Nat) (rest : List Char)
    (hf : 2 * (withCommas (members.map Member.spelled)).length + 1 ≤ fuel) :
    readFields room fuel before (dropGap (withCommas (members.map Member.spelled) ++ '\x7d' :: rest)) =
      .ok ((members.map Member.field).foldl (fun before f => putField f.1 f.2 before) before, rest) := by
  induction members generalizing fuel before with
  | nil => exact absurd rfl hne
  | cons m more ih =>
    obtain ⟨fuel, rfl⟩ : ∃ n, fuel = n + 1 := ⟨fuel - 1, by omega⟩
    have hm := h m List.mem_cons_self
    cases more with
    | nil =>
      change 2 * m.spelled.length + 1 ≤ fuel + 1 at hf
      exact readFields_last hm hroom before (by omega) rest
    | cons next more =>
      have htext : withCommas ((m :: next :: more).map Member.spelled) ++ '\x7d' :: rest =
          m.spelled ++ ',' :: (withCommas ((next :: more).map Member.spelled) ++ '\x7d' :: rest) := by
        simp [withCommas]
      have hsum : (withCommas ((m :: next :: more).map Member.spelled)).length =
          m.spelled.length + (withCommas ((next :: more).map Member.spelled)).length + 1 := by
        simp [withCommas]
        omega
      have hmore := ih (List.cons_ne_nil _ _) (fun n hn => h n (List.mem_cons_of_mem m hn))
        (putField m.key m.slot.value before) fuel (by omega)
      rw [htext, readFields_next hm hroom before (by omega)]
      exact hmore

theorem readValue_simple {a : Char} (hq : a ≠ '"') (ha : a ≠ '[') (ho : a ≠ '\x7b') (room fuel : Nat)
    (as : List Char) : readValue room (fuel + 1) (a :: as) = readSimple (a :: as) := by
  rw [readValue]
  · intro _ heq
    exact hq (List.cons.inj heq).1
  · intro _ heq
    exact ha (List.cons.inj heq).1
  · intro _ heq
    exact ho (List.cons.inj heq).1

theorem readValue_number {negative : Bool} {ds : List Char} (hw : Whole ds) (room fuel : Nat)
    (s : List Char) :
    readValue room (fuel + 1) (minus negative ++ (ds ++ s)) = readNumber negative (ds ++ s) := by
  obtain ⟨c, cs, rfl⟩ := hw.eq_cons
  have hc := hw.digits_of c List.mem_cons_self
  rw [List.cons_append, ← readSimple_number hc]
  cases negative with
  | true => exact readValue_simple (by decide) (by decide) (by decide) _ _ _
  | false => exact readValue_simple (ne_of_class hc rfl) (ne_of_class hc rfl) (ne_of_class hc rfl) _ _ _

theorem readFields_long {key : String} {t ds rest : List Char} {negative : Bool} (h : Quoted key.toList t)
    (hw : Whole ds) (hlong : digitLimit < ds.length) (hr : Closed rest) (before : List (String × Json))
    (room fuel : Nat) :
    readFields room (fuel + 2) before ('"' :: (t ++ '"' :: ':' :: (minus negative ++ (ds ++ rest)))) =
      .error (.badValue (.longInteger ds.length)) := by
  have hdrop : dropGap (minus negative ++ (ds ++ rest)) = minus negative ++ (ds ++ rest) := by
    obtain ⟨a, as, ha, hgap, -⟩ := (@Spells.int .valid 0 negative _ hw trivial).eq_cons
    rw [← List.append_assoc, ha]
    exact dropGap_cons hgap _
  rw [readFields, ← List.nil_append (':' :: _), readKey_quoted h gap_nil, hdrop]
  simp only [bind, Except.bind]
  rw [readValue_number hw, readNumber_long hw hlong hr]

theorem reads_array {inner : List Char} {v : List Json}
    (hread : ∀ room fuel rest, depth ≤ room → 2 * inner.length + 1 ≤ fuel →
      (match dropGap (inner ++ ']' :: rest) with
        | ']' :: rest => Except.ok (Json.arr [], rest)
        | rest => do
          let (items, rest) ← readItems room fuel rest
          .ok (.arr items, rest)) = .ok (.arr v, rest)) :
    Reads (depth + 1) (.arr v) ('[' :: (inner ++ [']'])) := by
  rintro (_ | room) (_ | fuel) rest hroom hf hr
  · omega
  · omega
  · simp at hf
  · simp only [List.length_cons, List.length_append, List.length_nil] at hf
    rw [List.cons_append, List.append_assoc, List.singleton_append, readValue]
    exact hread room fuel rest (by omega) (by omega)

theorem reads_object {inner : List Char} {v : List (String × Json)}
    (hread : ∀ room fuel rest, depth ≤ room → 2 * inner.length + 1 ≤ fuel →
      (match dropGap (inner ++ '\x7d' :: rest) with
        | '\x7d' :: rest => Except.ok (Json.obj [], rest)
        | rest => do
          let (fields, rest) ← readFields room fuel [] rest
          .ok (.obj fields, rest)) = .ok (.obj v, rest)) :
    Reads (depth + 1) (.obj v) ('\x7b' :: (inner ++ ['\x7d'])) := by
  rintro (_ | room) (_ | fuel) rest hroom hf hr
  · omega
  · omega
  · simp at hf
  · simp only [List.length_cons, List.length_append, List.length_nil] at hf
    rw [List.cons_append, List.append_assoc, List.singleton_append, readValue]
    exact hread room fuel rest (by omega) (by omega)

theorem reads_word {v : Json} {w : List Char} (h : (w, v) ∈ words) : Reads depth v w := by
  simp only [words, List.mem_cons, Prod.mk.injEq, List.not_mem_nil, or_false] at h
  rintro room (_ | fuel) rest - hf -
  all_goals
    obtain ⟨rfl, rfl⟩ | ⟨rfl, rfl⟩ | ⟨rfl, rfl⟩ | ⟨rfl, rfl⟩ | ⟨rfl, rfl⟩ | ⟨rfl, rfl⟩ := h
  all_goals first | rfl | simp at hf

theorem Spells.reads {v : Json} {t : List Char} (h : Spells .short depth v t) : Reads depth v t := by
  induction h with
  | word h => exact reads_word h
  | @int _ negative ds hw hf =>
    rintro room (_ | fuel) rest - hfuel hr
    · obtain ⟨c, cs, rfl⟩ := hw.eq_cons
      simp at hfuel
    · rw [List.append_assoc, readValue_number hw]
      exact readNumber_int hw hf hr
  | @float _ negative ds places text power hw hplaces hpower hsome =>
    rintro room (_ | fuel) rest - hfuel hr
    · obtain ⟨c, cs, rfl⟩ := hw.eq_cons
      simp at hfuel
    · simp only [List.append_assoc]
      rw [readValue_number hw]
      exact readNumber_float hw hplaces hpower hsome hr
  | @str _ s t h =>
    rintro room (_ | fuel) rest - hfuel hr
    · simp at hfuel
    · rw [List.cons_append, List.append_assoc, List.singleton_append, readValue, h.readString]
      rfl
  | @arr n slots hne hgap h ih =>
    have hfits : ∀ s ∈ slots, s.Fits n := fun s hs => ⟨(hgap s hs).1, (hgap s hs).2, h s hs, ih s hs⟩
    refine reads_array fun room fuel rest hroom hf => ?_
    have hread := readItems_slots hne hfits hroom fuel rest hf
    obtain ⟨first, more, rfl⟩ := List.exists_cons_of_ne_nil hne
    obtain ⟨after, hafter⟩ := withCommas_cons first.spelled (more.map Slot.spelled)
    obtain ⟨a, as, ha, -, hclose⟩ := (hfits first List.mem_cons_self).spells.eq_cons
    rw [List.map_cons, hafter, List.append_assoc, (hfits first List.mem_cons_self).dropGap, ha] at hread ⊢
    split
    · next heq => exact absurd (List.cons.inj heq).1 hclose
    · rw [hread]
      rfl
  | @noItems _ gap hgap =>
    refine reads_array fun room fuel rest _ _ => ?_
    rw [dropGap_append hgap, dropGap_cons (by decide)]
    rfl
  | @obj n members hne hkey hgap h ih =>
    have hfits : ∀ m ∈ members, m.Fits n := fun m hm =>
      ⟨(hkey m hm).1, (hkey m hm).2.1, (hkey m hm).2.2, (hgap m hm).1, (hgap m hm).2, h m hm, ih m hm⟩
    refine reads_object fun room fuel rest hroom hf => ?_
    have hread := readFields_members hne hfits hroom [] fuel rest hf
    obtain ⟨first, more, rfl⟩ := List.exists_cons_of_ne_nil hne
    obtain ⟨after, hafter⟩ := withCommas_cons first.spelled (more.map Member.spelled)
    rw [List.map_cons, hafter, List.append_assoc, (hfits first List.mem_cons_self).dropGap] at hread ⊢
    split
    · next heq => exact absurd (List.cons.inj heq).1 (by decide)
    · rw [hread]
      rfl
  | @noFields _ gap hgap =>
    refine reads_object fun room fuel rest _ _ => ?_
    rw [dropGap_append hgap, dropGap_cons (by decide)]
    rfl

theorem Document.read {v : Json} {cs : List Char} (h : Document .short depth v cs) (hroom : depth ≤ room) :
    readWithin room cs = .ok v := by
  obtain ⟨s, rfl, hbefore, hafter, hspells, rfl⟩ := h
  have hfits : s.Fits depth := ⟨hbefore, hafter, hspells, hspells.reads⟩
  have hdrop := hfits.dropGap []
  have hread : readValue room (2 * s.spelled.length + 2) (s.text ++ (s.after ++ [])) =
      .ok (s.value, s.after ++ []) :=
    hfits.read hroom (by omega) (by simp [Closed])
  have hrest : dropGap s.after = [] := by
    have := dropGap_append hafter []
    rwa [List.append_nil] at this
  rw [List.append_nil] at hdrop
  rw [readWithin, hdrop, hread, List.append_nil]
  simp only [bind, Except.bind, hrest]
  rfl

end Stencil.Json

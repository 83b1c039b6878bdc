import Stencil.Json.Reader
import Stencil.Json.Writer
/-!
# The grammar of JSON

Which texts write which values, said without the reader. A form says what may stand between the parts of a
text and how long an integer may be, so that one grammar describes all valid texts, those that are read,
and those that are written without white space.
-/

namespace Stencil.Json

open Number

/-- How a text may be written: what may stand between its parts, and which digits an integer may have. -/
structure Form where
  gap : List Char → Prop
  whole : List Char → Prop

def Gap (s : List Char) : Prop := ∀ c ∈ s, isGap c = true

def Form.valid : Form := ⟨Gap, fun _ => True⟩

/-- Texts without an integer that is too long to be read. -/
def Form.short : Form := ⟨Gap, fun ds => ds.length ≤ digitLimit⟩

/-- Short texts without white space between their parts. -/
def Form.compact : Form := ⟨(· = []), fun ds => ds.length ≤ digitLimit⟩

structure Form.Within (f g : Form) : Prop where
  gap : ∀ s, f.gap s → g.gap s
  whole : ∀ ds, f.whole ds → g.whole ds

def Digits (ds : List Char) : Prop := ∀ c ∈ ds, isAsciiDigit c = true

/-- The whole part of a number: a zero alone, or digits that do not begin with one. -/
inductive Whole : List Char → Prop where
  | zero : Whole ['0']
  | digits {c : Char} {ds : List Char} (h : Digits (c :: ds)) (hc : c ≠ '0') : Whole (c :: ds)

def minus (negative : Bool) : List Char := if negative then ['-'] else []

def pointed (places : List Char) : List Char := if places.isEmpty then [] else '.' :: places

inductive PowerSign : Bool → List Char → Prop where
  | none : PowerSign false []
  | plus : PowerSign false ['+']
  | minus : PowerSign true ['-']

inductive Power : Option Int → List Char → Prop where
  | none : Power none []
  | some {mark : Char} {negative : Bool} {sign ds : List Char} (hmark : mark = 'e' ∨ mark = 'E')
      (hsign : PowerSign negative sign) (hne : ds ≠ []) (hds : Digits ds) :
      Power (some (if negative then -(ofDigits ds : Int) else ofDigits ds)) (mark :: (sign ++ ds))

abbrev IsHighHalf (n : Nat) : Prop := 0xD800 ≤ n ∧ n ≤ 0xDBFF

abbrev IsLowHalf (n : Nat) : Prop := 0xDC00 ≤ n ∧ n ≤ 0xDFFF

def ofHalves (high low : Nat) : Char := Char.ofNat (0x10000 + (high - 0xD800) * 0x400 + (low - 0xDC00))

/-- What stands between the quotes of a string. A half alone has no character and stands for the one that
replaces it. -/
inductive Quoted : List Char → List Char → Prop where
  | nil : Quoted [] []
  | plain {c : Char} {s t : List Char} (hq : c ≠ '"') (hs : c ≠ '\\') (hc : 32 ≤ c.toNat)
      (h : Quoted s t) : Quoted (c :: s) (c :: t)
  | letter {x c : Char} {s t : List Char} (hx : escaped? x = some c) (h : Quoted s t) :
      Quoted (c :: s) ('\\' :: x :: t)
  | number {n : Nat} {hex s t : List Char} (hhex : hexFour? hex = some (n, [])) (hhigh : ¬IsHighHalf n)
      (hlow : ¬IsLowHalf n) (h : Quoted s t) : Quoted (Char.ofNat n :: s) ('\\' :: 'u' :: (hex ++ t))
  | pair {c : Char} {n low : Nat} {hex more s t : List Char} (hc : c = ofHalves n low)
      (hhex : hexFour? hex = some (n, [])) (hhigh : IsHighHalf n) (hmore : hexFour? more = some (low, []))
      (hlow : IsLowHalf low) (h : Quoted s t) :
      Quoted (c :: s) ('\\' :: 'u' :: (hex ++ '\\' :: 'u' :: (more ++ t)))
  | alone {n : Nat} {hex s t : List Char} (hhex : hexFour? hex = some (n, []))
      (hn : IsHighHalf n ∧ lowHalf? t = none ∨ IsLowHalf n) (h : Quoted s t) :
      Quoted (Char.ofNat 0xFFFD :: s) ('\\' :: 'u' :: (hex ++ t))

structure Slot where
  value : Json
  before : List Char
  text : List Char
  after : List Char

def Slot.spelled (s : Slot) : List Char := s.before ++ (s.text ++ s.after)

structure Member where
  key : String
  before : List Char
  text : List Char
  after : List Char
  slot : Slot

def Member.spelled (m : Member) : List Char :=
  m.before ++ '"' :: (m.text ++ '"' :: (m.after ++ ':' :: m.slot.spelled))

def Member.field (m : Member) : String × Json := (m.key, m.slot.value)

/-- The fields of an object as they are written one after the other: of those with one key the last value
counts. -/
def ofFields (fields : List (String × Json)) : List (String × Json) :=
  fields.foldl (fun before f => putField f.1 f.2 before) []

/-- The values and their texts, with so many brackets within each other at most. -/
inductive Spells (f : Form) : (depth : Nat) → Json → List Char → Prop where
  | word {n : Nat} {v : Json} {w : List Char} (h : (w, v) ∈ words) : Spells f n v w
  | int {n : Nat} {negative : Bool} {ds : List Char} (hw : Whole ds) (hf : f.whole ds) :
      Spells f n (.int (if negative then -(ofDigits ds : Int) else ofDigits ds)) (minus negative ++ ds)
  | float {n : Nat} {negative : Bool} {ds places text : List Char} {power : Option Int} (hw : Whole ds)
      (hplaces : Digits places) (hpower : Power power text) (hsome : places ≠ [] ∨ power.isSome) :
      Spells f n (.float (ofDecimal negative ((ds ++ places).map digitValue) (power.getD 0 - places.length)))
        (minus negative ++ (ds ++ (pointed places ++ text)))
  | str {n : Nat} {s : String} {t : List Char} (h : Quoted s.toList t) :
      Spells f n (.str s) ('"' :: (t ++ ['"']))
  | arr {n : Nat} {slots : List Slot} (hne : slots ≠ [])
      (hgap : ∀ s ∈ slots, f.gap s.before ∧ f.gap s.after) (h : ∀ s ∈ slots, Spells f n s.value s.text) :
      Spells f (n + 1) (.arr (slots.map Slot.value))
        ('[' :: (withCommas (slots.map Slot.spelled) ++ [']']))
  | noItems {n : Nat} {gap : List Char} (hgap : f.gap gap) :
      Spells f (n + 1) (.arr []) ('[' :: (gap ++ [']']))
  | obj {n : Nat} {members : List Member} (hne : members ≠ [])
      (hkey : ∀ m ∈ members, f.gap m.before ∧ Quoted m.key.toList m.text ∧ f.gap m.after)
      (hgap : ∀ m ∈ members, f.gap m.slot.before ∧ f.gap m.slot.after)
      (h : ∀ m ∈ members, Spells f n m.slot.value m.slot.text) :
      Spells f (n + 1) (.obj (ofFields (members.map Member.field)))
        ('\x7b' :: (withCommas (members.map Member.spelled) ++ ['\x7d']))
  | noFields {n : Nat} {gap : List Char} (hgap : f.gap gap) :
      Spells f (n + 1) (.obj []) ('\x7b' :: (gap ++ ['\x7d']))

/-- The whole texts of values: a value may have white space around it. -/
def Document (f : Form) (depth : Nat) (v : Json) (cs : List Char) : Prop :=
  ∃ s : Slot, s.value = v ∧ f.gap s.before ∧ f.gap s.after ∧ Spells f depth v s.text ∧ cs = s.spelled

theorem gap_nil : Gap [] := fun _ hc => absurd hc List.not_mem_nil

theorem Spells.document {f : Form} {n : Nat} {v : Json} {t : List Char} (h : Spells f n v t)
    (hgap : f.gap []) : Document f n v t :=
  ⟨⟨v, [], t, []⟩, rfl, hgap, hgap, h, by simp [Slot.spelled]⟩

theorem Spells.mono {f g : Form} (hfg : f.Within g) {n : Nat} {v : Json} {t : List Char}
    (h : Spells f n v t) : Spells g n v t := by
  induction h with
  | word h => exact .word h
  | int hw hf => exact .int hw (hfg.whole _ hf)
  | float hw hplaces hpower hsome => exact .float hw hplaces hpower hsome
  | str h => exact .str h
  | arr hne hgap _ ih =>
    exact .arr hne (fun s hs => ⟨hfg.gap _ (hgap s hs).1, hfg.gap _ (hgap s hs).2⟩) ih
  | noItems hgap => exact .noItems (hfg.gap _ hgap)
  | obj hne hkey hgap _ ih =>
    refine .obj hne (fun m hm => ?_) (fun m hm => ?_) ih
    · obtain ⟨hbefore, htext, hafter⟩ := hkey m hm
      exact ⟨hfg.gap _ hbefore, htext, hfg.gap _ hafter⟩
    · exact ⟨hfg.gap _ (hgap m hm).1, hfg.gap _ (hgap m hm).2⟩
  | noFields hgap => exact .noFields (hfg.gap _ hgap)

end Stencil.Json

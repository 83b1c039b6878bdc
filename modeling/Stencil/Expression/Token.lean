import Stencil.Fault
import Stencil.Number.Reading
import Stencil.Text.Identifier
import Stencil.Text.Lead
import Stencil.Text.Line
import Stencil.Text.Quoted
/-!
# Tokens of expressions

An expression is read as a sequence of names, texts, numbers and symbols with white space between them.
Each token carries its line. Every kind of line end counts as a line feed, and one line end at the end of
an expression is left out.
-/

namespace Stencil.Expression

open Text

inductive Token where
  | name (s : String)
  | text (s : String)
  | int (n : Int)
  | float (x : Float)
  | symbol (s : String)

structure Lexeme where
  token : Token
  line : Nat

def symbols : List String := [
  "//", "**", "==", "!=", ">=", "<=", "+", "-", "/", "*", "%", "~", "[", "]", "(", ")", "\x7b",
  "\x7d", ">", "<", "=", ".", ":", "|", ",", ";"]

def isNameChar (c : Char) : Bool := isWord c || continuesIdentifier c

def bareEscape (c : Char) : List Char := (escapeByNumber c).tail

def letterEscape? : Char → Option Char
  | '\\' => some '\\'
  | '\'' => some '\''
  | '"' => some '"'
  | 'a' => some (Char.ofNat 7)
  | 'b' => some (Char.ofNat 8)
  | 'f' => some (Char.ofNat 12)
  | 'n' => some '\n'
  | 'r' => some '\r'
  | 't' => some '\t'
  | 'v' => some (Char.ofNat 11)
  | _ => none

def hexWidth? : Char → Option Nat
  | 'x' => some 2
  | 'u' => some 4
  | 'U' => some 8
  | _ => none

def fixedNumber? (base width : Nat) (cs : List Char) : Option Nat := do
  let ds ← (cs.take width).mapM fun c => (baseValue? c).filter fun d => d < base && c.toNat < 128
  if ds.length = width then some (Number.ofBase base ds) else none

def octalWidth (cs : List Char) : Nat :=
  ((cs.take 3).takeWhile fun c => 48 ≤ c.toNat && c.toNat ≤ 55).length

/-- The text that the inside of a quoted text stands for. An escape that is not known stands for itself,
and so does a backslash before a character beyond ASCII, which is then written by its number. -/
def unescape : Nat → List Char → Option (List Char)
  | 0, _ => some []
  | _ + 1, [] => some []
  | fuel + 1, '\\' :: c :: rest =>
    match letterEscape? c, hexWidth? c with
    | some d, _ => (unescape fuel rest).map (d :: ·)
    | none, some width => do
      let n ← fixedNumber? 16 width rest
      if n > 0x10FFFF then none
      else (unescape fuel (rest.drop width)).map (Char.ofNat n :: ·)
    | none, none =>
      let width := octalWidth (c :: rest)
      if c = '\n' then unescape fuel rest
      else if c = 'N' then none
      else if width > 0 then do
        let n ← fixedNumber? 8 width (c :: rest)
        (unescape fuel ((c :: rest).drop width)).map (Char.ofNat n :: ·)
      else if c.toNat < 128 then (unescape fuel rest).map fun s => '\\' :: c :: s
      else (unescape fuel rest).map fun s => '\\' :: (bareEscape c ++ s)
  | fuel + 1, c :: rest => (unescape fuel rest).map (c :: ·)

/-- A quoted text after its opening quote: what it stands between the quotes, and what follows. -/
def takeQuoted (q : Char) : List Char → Option (List Char × List Char)
  | [] => none
  | '\\' :: [] => none
  | '\\' :: c :: rest => (takeQuoted q rest).map fun (body, after) => ('\\' :: c :: body, after)
  | c :: rest =>
    if c = q then some ([], rest)
    else (takeQuoted q rest).map fun (body, after) => (c :: body, after)

def takeScriptDigits : Nat → List Char → List Char × List Char
  | 0, cs => ([], cs)
  | fuel + 1, cs =>
    let ds := cs.takeWhile isDecimal
    match cs.dropWhile isDecimal with
    | '_' :: rest =>
      match takeScriptDigits fuel rest with
      | ([], _) => (ds, '_' :: rest)
      | (more, after) => if ds.isEmpty then ([], cs) else (ds ++ more, after)
    | rest => (ds, rest)

def takeMark (cs : List Char) : Option (Int × List Char) :=
  match cs with
  | c :: rest =>
    if c == 'e' || c == 'E' then
      let (negative, rest) := Number.takeSign rest
      match takeScriptDigits rest.length rest with
      | ([], _) => none
      | (ds, rest) =>
        let n : Nat := Number.ofBase 10 (ds.filterMap decimalValue?)
        some (if negative then -(n : Int) else n, rest)
    else none
  | [] => none

/-- A floating point literal: digits with places, an exponent, or both. -/
def takeFloat (cs : List Char) : Option (Float × List Char) :=
  match takeScriptDigits cs.length cs with
  | ([], _) => none
  | (whole, rest) =>
    let value (places : List Char) (e : Int) : Float :=
      Number.ofDecimal false ((whole ++ places).filterMap decimalValue?) (e - places.length)
    match rest with
    | '.' :: after =>
      match takeScriptDigits after.length after with
      | ([], _) => none
      | (places, after) =>
        match takeMark after with
        | some (e, after) => some (value places e, after)
        | none => some (value places 0, after)
    | _ => (takeMark rest).map fun (e, after) => (value [] e, after)

def takeBaseDigits (isDigitOf : Char → Bool) : List Char → List Char × List Char
  | '_' :: c :: rest =>
    if isDigitOf c then
      let (ds, after) := takeBaseDigits isDigitOf rest
      (c :: ds, after)
    else ([], '_' :: c :: rest)
  | c :: rest =>
    if isDigitOf c then
      let (ds, after) := takeBaseDigits isDigitOf rest
      (c :: ds, after)
    else ([], c :: rest)
  | [] => ([], [])

def isDigitIn (base : Nat) (c : Char) : Bool :=
  c.toNat < 128 && (baseValue? c).any (· < base)

def takeInt (cs : List Char) : Option (Nat × Nat × List Char) :=
  let based (base : Nat) (rest : List Char) : Option (Nat × Nat × List Char) :=
    match takeBaseDigits (isDigitIn base) rest with
    | ([], _) => none
    | (ds, after) => some (Number.ofBase base (ds.filterMap baseValue?), 0, after)
  let plain : Option (Nat × Nat × List Char) :=
    match cs with
    | '0' :: rest => some (0, 0, (takeBaseDigits (· == '0') rest).2)
    | c :: rest =>
      if Number.isAsciiDigit c then
        let (ds, after) := takeBaseDigits isDecimal rest
        some (Number.ofBase 10 ((c :: ds).filterMap decimalValue?), ds.length + 1, after)
      else none
    | [] => none
  match cs with
  | a :: b :: rest =>
    match (Number.announced? a b).bind (based · rest) with
    | some found => some found
    | none => plain
  | _ => plain

def takeSymbol (cs : List Char) : Option (String × List Char) :=
  symbols.findSome? fun s => (after? s.toList cs).map (s, ·)

def balance (opened : List String) (s : String) : Option (List String) :=
  match s with
  | "(" => some (")" :: opened)
  | "[" => some ("]" :: opened)
  | "\x7b" => some ("\x7d" :: opened)
  | ")" | "]" | "\x7d" =>
    match opened with
    | b :: rest => if b = s then some rest else none
    | [] => none
  | _ => some opened

/-- The first token of a text that begins with no white space, and the text after it. `afterPoint` says
that a point stands right before it, where no floating point literal is read. -/
def firstToken (afterPoint : Bool) (cs : List Char) : Except Fault (Token × List Char) :=
  match if afterPoint then none else takeFloat cs with
  | some (x, rest) => .ok (.float x, rest)
  | none =>
    match takeInt cs with
    | some (n, digits, rest) =>
      if digits > Number.digitLimit then .error (.badValue (.longInteger digits))
      else .ok (.int n, rest)
    | none =>
      let name := cs.takeWhile isNameChar
      if !name.isEmpty then
        if isIdentifier name then .ok (.name (String.ofList name), cs.dropWhile isNameChar)
        else .error .malformedExpression
      else
        match cs with
        | [] => .error .malformedExpression
        | c :: rest =>
          match if c = '\'' || c = '"' then takeQuoted c rest else none with
          | some (body, after) =>
            match unescape (body.length + 1) body with
            | some s => .ok (.text (String.ofList s), after)
            | none => .error .malformedExpression
          | none =>
            match takeSymbol cs with
            | some (s, rest) => .ok (.symbol s, rest)
            | none => .error .malformedExpression

def lexFrom : Nat → Nat → List String → Bool → List Char → Except Fault (List Lexeme)
  | 0, _, _, _, _ => .ok []
  | fuel + 1, line, opened, afterPoint, cs =>
    let blanks := cs.takeWhile isBlank
    match cs.dropWhile isBlank with
    | [] => .ok []
    | c :: rest => do
      let line := line + blanks.count '\n'
      let cs := c :: rest
      let (token, after) ← firstToken (afterPoint && blanks.isEmpty) cs
      let opened ← match token with
        | .symbol s => match balance opened s with
          | some opened => pure opened
          | none => throw .malformedExpression
        | _ => pure opened
      let next := line + (cs.take (cs.length - after.length)).count '\n'
      let isPoint := match token with
        | .symbol s => s == "."
        | _ => false
      let lexemes ← lexFrom fuel next opened isPoint after
      pure (⟨token, line⟩ :: lexemes)

def dropFinalLine (cs : List Char) : List Char :=
  if cs.getLast? = some '\n' then cs.dropLast else cs

def lex (source : List Char) : Except Fault (List Lexeme) :=
  let cs := dropFinalLine (unifyLines source)
  lexFrom (cs.length + 1) 1 [] false cs

end Stencil.Expression

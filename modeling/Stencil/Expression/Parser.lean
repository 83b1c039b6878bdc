import Stencil.Expression.Syntax
import Stencil.Expression.Token
/-!
# Parsing expressions

From loose to tight: conditions, `or`, `and`, `not`, comparisons, sums, joined texts, products, powers,
signs, then filters and tests, and subscripts and calls. Binary operations group from the left, powers
included, and a sign binds tighter than a power.
-/

namespace Stencil.Expression

abbrev Parse (α : Type) := StateT (List Lexeme) (Except Fault) α

namespace Parse

def refuse {α : Type} : Parse α := throw .malformedExpression

def peek? : Parse (Option Token) := do return (← get).head?.map (·.token)

def line : Parse Nat := do return ((← get).head?.map (·.line)).getD 1

def skip : Parse Unit := modify List.tail

def isSymbol (s : String) : Option Token → Bool
  | some (.symbol t) => t == s
  | _ => false

def isWord (s : String) : Option Token → Bool
  | some (.name t) => t == s
  | _ => false

def atSymbol (s : String) : Parse Bool := do return isSymbol s (← peek?)

def takeSymbol (s : String) : Parse Bool := do
  if ← atSymbol s then
    skip
    return true
  else return false

def takeWord (s : String) : Parse Bool := do
  if isWord s (← peek?) then
    skip
    return true
  else return false

def expect (s : String) : Parse Unit := do
  if ← takeSymbol s then return () else refuse

def expectName : Parse String := do
  match ← peek? with
  | some (.name s) => do
    skip
    return s
  | _ => refuse

def takeArgumentName : Parse (Option String) := do
  let ahead : List Token := ((← get).take 2).map Lexeme.token
  match ahead with
  | .name s :: .symbol "=" :: _ => do
    skip
    skip
    return some s
  | _ => return none

def wordLiteral? : String → Option Literal
  | "true" | "True" => some (.bool true)
  | "false" | "False" => some (.bool false)
  | "none" | "None" => some .none
  | _ => none

def sumOperators : List (String × Operator) := [("+", .add), ("-", .subtract)]

def productOperators : List (String × Operator) :=
  [("*", .multiply), ("/", .divide), ("//", .divideFloor), ("%", .remainder)]

def powerOperators : List (String × Operator) := [("**", .power)]

def comparisons : List (String × Comparison) := [("==", .equal), ("!=", .different), ("<", .less),
  ("<=", .lessEqual), (">", .greater), (">=", .greaterEqual)]

def takeOperator {α : Type} (table : List (String × α)) : Parse (Option α) := do
  match ← peek? with
  | some (.symbol s) =>
    match table.lookup s with
    | some op => do
      skip
      return some op
    | none => return none
  | _ => return none

def takeComparison : Parse (Option Comparison) := do
  let ahead : List Token := ((← get).take 2).map Lexeme.token
  match ahead with
  | .name "in" :: _ => do
    skip
    return some .isIn
  | .name "not" :: .name "in" :: _ => do
    skip
    skip
    return some .notIn
  | _ => takeOperator comparisons

def adjacentTexts : Nat → String → Parse String
  | 0, s => return s
  | fuel + 1, s => do
    match ← peek? with
    | some (.text t) => do
      skip
      adjacentTexts fuel (s ++ t)
    | _ => return s

def dottedName : Nat → String → Parse String
  | 0, s => return s
  | fuel + 1, s => do
    if ← takeSymbol "." then
      let t ← expectName
      dottedName fuel (s ++ "." ++ t)
    else return s

def startsTestArgument : Option Token → Bool
  | some (.name s) => !(s == "else" || s == "or" || s == "and")
  | some (.text _) | some (.int _) | some (.float _) => true
  | some (.symbol s) => s == "[" || s == "\x7b"
  | none => false

structure Given where
  args : List Arg
  named : Bool
  spread : Bool
  spreadNamed : Bool

def Given.add (g : Given) (arg : Arg) : Parse Given := do
  match arg with
  | .plain _ => if g.spread || g.spreadNamed || g.named then refuse else return { g with args := g.args ++ [arg] }
  | .named name _ =>
    if g.spreadNamed then refuse
    else if g.args.any fun
      | .named other _ => other == name
      | _ => false
    then throw .repeatedArgument
    else return { g with args := g.args ++ [arg], named := true }
  | .spread _ =>
    if g.spread || g.spreadNamed then refuse
    else return { g with args := g.args ++ [arg], spread := true }
  | .spreadNamed _ =>
    if g.spreadNamed then refuse
    else return { g with args := g.args ++ [arg], spreadNamed := true }

inductive Subscript where
  | key (e : Expr)
  | slice (start stop step : Option Expr)

/-- A value with its subscripts; several make up one tuple, in which no slice may stand. -/
def subscripted (e : Expr) (subs : List Subscript) : Parse Expr :=
  match subs with
  | [.key k] => return .item e k
  | [.slice start stop step] => return .slice e start stop step
  | _ => do
    let keys ← subs.mapM fun
      | .key k => return k
      | .slice .. => throw .repeatedArgument
    return .item e (.tuple keys)

mutual

def expression : Nat → Parse Expr
  | 0 => throw .tooDeep
  | fuel + 1 => do
    let at_ ← line
    let e ← disjunction fuel
    conditions fuel at_ e

def conditions : Nat → Nat → Expr → Parse Expr
  | 0, _, _ => throw .tooDeep
  | fuel + 1, at_, yes => do
    if ← takeWord "if" then
      let cond ← disjunction fuel
      if ← takeWord "else" then
        let no ← expression fuel
        let next ← line
        conditions fuel next (.choose cond yes (some no) at_)
      else
        let next ← line
        conditions fuel next (.choose cond yes none at_)
    else return yes

def disjunction : Nat → Parse Expr
  | 0 => throw .tooDeep
  | fuel + 1 => do
    let left ← conjunction fuel
    moreDisjuncts fuel left

def moreDisjuncts : Nat → Expr → Parse Expr
  | 0, _ => throw .tooDeep
  | fuel + 1, left => do
    if ← takeWord "or" then
      let right ← conjunction fuel
      moreDisjuncts fuel (.either left right)
    else return left

def conjunction : Nat → Parse Expr
  | 0 => throw .tooDeep
  | fuel + 1 => do
    let left ← negation fuel
    moreConjuncts fuel left

def moreConjuncts : Nat → Expr → Parse Expr
  | 0, _ => throw .tooDeep
  | fuel + 1, left => do
    if ← takeWord "and" then
      let right ← negation fuel
      moreConjuncts fuel (.both left right)
    else return left

def negation : Nat → Parse Expr
  | 0 => throw .tooDeep
  | fuel + 1 => do
    if ← takeWord "not" then return .negate (← negation fuel)
    else
      let e ← sum fuel
      let links ← chain fuel
      return if links.isEmpty then e else .compare e links

def chain : Nat → Parse (List Link)
  | 0 => throw .tooDeep
  | fuel + 1 => do
    match ← takeComparison with
    | some c => do
      let e ← sum fuel
      return .mk c e :: (← chain fuel)
    | none => return []

def sum : Nat → Parse Expr
  | 0 => throw .tooDeep
  | fuel + 1 => do
    let left ← joined fuel
    moreTerms fuel left

def moreTerms : Nat → Expr → Parse Expr
  | 0, _ => throw .tooDeep
  | fuel + 1, left => do
    match ← takeOperator sumOperators with
    | some op => do
      let right ← joined fuel
      moreTerms fuel (.binary op left right)
    | none => return left

def joined : Nat → Parse Expr
  | 0 => throw .tooDeep
  | fuel + 1 => do
    let first ← product fuel
    let rest ← moreJoined fuel
    return if rest.isEmpty then first else .concat (first :: rest)

def moreJoined : Nat → Parse (List Expr)
  | 0 => throw .tooDeep
  | fuel + 1 => do
    if ← takeSymbol "~" then
      let e ← product fuel
      return e :: (← moreJoined fuel)
    else return []

def product : Nat → Parse Expr
  | 0 => throw .tooDeep
  | fuel + 1 => do
    let left ← power fuel
    moreFactors fuel left

def moreFactors : Nat → Expr → Parse Expr
  | 0, _ => throw .tooDeep
  | fuel + 1, left => do
    match ← takeOperator productOperators with
    | some op => do
      let right ← power fuel
      moreFactors fuel (.binary op left right)
    | none => return left

def power : Nat → Parse Expr
  | 0 => throw .tooDeep
  | fuel + 1 => do
    let left ← signed fuel true
    morePowers fuel left

def morePowers : Nat → Expr → Parse Expr
  | 0, _ => throw .tooDeep
  | fuel + 1, left => do
    match ← takeOperator powerOperators with
    | some op => do
      let right ← signed fuel true
      morePowers fuel (.binary op left right)
    | none => return left

/-- A value with its signs and what follows it, filters and tests only where they are allowed. -/
def signed : Nat → Bool → Parse Expr
  | 0, _ => throw .tooDeep
  | fuel + 1, filters => do
    let e ← if ← takeSymbol "-" then do
        let e ← signed fuel false
        pure (.signed .minus e)
      else if ← takeSymbol "+" then do
        let e ← signed fuel false
        pure (.signed .plus e)
      else primary fuel
    let e ← postfixed fuel e
    if filters then filtered fuel e else return e

def primary : Nat → Parse Expr
  | 0 => throw .tooDeep
  | fuel + 1 => do
    let t ← peek?
    skip
    match t with
    | some (.name s) =>
      match wordLiteral? s with
      | some v => return .literal v
      | none => return .name s
    | some (.text s) => return .literal (.text (← adjacentTexts fuel s))
    | some (.int n) => return .literal (.int n)
    | some (.float x) => return .literal (.float x)
    | some (.symbol "(") => parenthesized fuel []
    | some (.symbol "[") => return .list (← items fuel "]" true)
    | some (.symbol "\x7b") => return .dict (← entries fuel true)
    | _ => refuse

/-- What stands in parentheses after items already read: one expression or a tuple. -/
def parenthesized : Nat → List Expr → Parse Expr
  | 0, _ => throw .tooDeep
  | fuel + 1, before => do
    if ← takeSymbol ")" then return .tuple before
    else
      let e ← expression fuel
      if ← takeSymbol "," then parenthesized fuel (before ++ [e])
      else do
        expect ")"
        return if before.isEmpty then e else .tuple (before ++ [e])

def items : Nat → String → Bool → Parse (List Expr)
  | 0, _, _ => throw .tooDeep
  | fuel + 1, close, first => do
    if ← takeSymbol close then return []
    else
      if !first then expect ","
      if ← takeSymbol close then return []
      else
        let e ← expression fuel
        return e :: (← items fuel close false)

def entries : Nat → Bool → Parse (List Entry)
  | 0, _ => throw .tooDeep
  | fuel + 1, first => do
    if ← takeSymbol "\x7d" then return []
    else
      if !first then expect ","
      if ← takeSymbol "\x7d" then return []
      else
        let key ← expression fuel
        expect ":"
        let value ← expression fuel
        return .mk key value :: (← entries fuel false)

def postfixed : Nat → Expr → Parse Expr
  | 0, _ => throw .tooDeep
  | fuel + 1, e => do
    if ← takeSymbol "." then
      let t ← peek?
      skip
      match t with
      | some (.name s) => postfixed fuel (.member e s)
      | some (.int n) => postfixed fuel (.item e (.literal (.int n)))
      | _ => refuse
    else if ← takeSymbol "[" then
      let subs ← subscripts fuel true
      let e ← subscripted e subs
      postfixed fuel e
    else if ← takeSymbol "(" then
      let args ← arguments fuel ⟨[], false, false, false⟩ true
      postfixed fuel (.call e args)
    else return e

def subscripts : Nat → Bool → Parse (List Subscript)
  | 0, _ => throw .tooDeep
  | fuel + 1, first => do
    if ← takeSymbol "]" then return []
    else
      if !first then expect ","
      let s ← subscript fuel
      return s :: (← subscripts fuel false)

def subscript : Nat → Parse Subscript
  | 0 => throw .tooDeep
  | fuel + 1 => do
    let start ← if ← atSymbol ":" then pure none else some <$> expression fuel
    if ← takeSymbol ":" then
      let stop ← if ← atSymbol ":" then pure none else bound fuel
      let step ← if ← takeSymbol ":" then bound fuel else pure none
      return .slice start stop step
    else
      match start with
      | some e => return .key e
      | none => refuse

def bound : Nat → Parse (Option Expr)
  | 0 => throw .tooDeep
  | fuel + 1 => do
    if (← atSymbol "]") || (← atSymbol ",") then return none
    else return some (← expression fuel)

def arguments : Nat → Given → Bool → Parse (List Arg)
  | 0, _, _ => throw .tooDeep
  | fuel + 1, g, first => do
    if ← takeSymbol ")" then return g.args
    else
      if !first then expect ","
      if !first && (← atSymbol ")") then do
        skip
        return g.args
      else
        let arg ← argument fuel
        let g ← g.add arg
        arguments fuel g false

def argument : Nat → Parse Arg
  | 0 => throw .tooDeep
  | fuel + 1 => do
    if ← takeSymbol "*" then return .spread (← expression fuel)
    else if ← takeSymbol "**" then return .spreadNamed (← expression fuel)
    else
      match ← takeArgumentName with
      | some name => return .named name (← expression fuel)
      | none => return .plain (← expression fuel)

def filtered : Nat → Expr → Parse Expr
  | 0, _ => throw .tooDeep
  | fuel + 1, e => do
    if ← takeSymbol "|" then
      let name ← dottedName fuel (← expectName)
      let args ← if ← takeSymbol "(" then arguments fuel ⟨[], false, false, false⟩ true else pure []
      filtered fuel (.filter e name args)
    else if ← takeWord "is" then
      let negated ← takeWord "not"
      let name ← dottedName fuel (← expectName)
      let args ← testArguments fuel
      let e := .test e name args
      filtered fuel (if negated then .negate e else e)
    else if ← takeSymbol "(" then
      let args ← arguments fuel ⟨[], false, false, false⟩ true
      filtered fuel (.call e args)
    else return e

def testArguments : Nat → Parse (List Arg)
  | 0 => throw .tooDeep
  | fuel + 1 => do
    let t ← peek?
    if isSymbol "(" t then do
      skip
      arguments fuel ⟨[], false, false, false⟩ true
    else if isWord "is" t then refuse
    else if startsTestArgument t then do
      let e ← primary fuel
      let e ← postfixed fuel e
      return [.plain e]
    else return []

end

end Parse

/-- The expression that a text writes. -/
def parse (source : List Char) : Except Fault Expr := do
  let lexemes ← lex source
  let (e, rest) ← (Parse.expression (20 * lexemes.length + 20)).run lexemes
  if rest.isEmpty then .ok e else .error .malformedExpression

end Stencil.Expression

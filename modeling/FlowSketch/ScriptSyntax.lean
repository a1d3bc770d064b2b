/-! Syntax trees of scripts in an indented language, as far as measures look at them. -/
namespace FlowSketch

inductive ScriptOperator where
  | add | sub | mult | matMult | div | mod | pow | leftShift | rightShift | bitOr | bitXor | bitAnd | floorDiv
  | invert | not | plus | minus
  | and | or
  | equal | notEqual | less | lessEqual | greater | greaterEqual | is | isNot | within | notWithin
  deriving DecidableEq, Repr

/-- A literal by its value: a number is `mantissa · 2 ^ exponent` with an odd mantissa, or zero; numbers of all types
are compared by value. -/
inductive ScriptConstant where
  | number (mantissa : Nat) (exponent : Int)
  | imaginary (mantissa : Nat) (exponent : Int)
  | infinite
  | imaginaryInfinite
  | text (points : List Nat)
  | bytes (values : List Nat)
  | none
  | ellipsis
  deriving DecidableEq, Repr

/-- What an expression without an operator of its own is. -/
inductive ScriptForm where
  | call
  | subscript
  | slice
  | list
  | tuple
  | set
  | dict
  | starred
  | lambda
  | await
  | yield
  | named
  | formatted
  | keyword
  deriving DecidableEq, Repr

mutual

inductive ScriptExpr where
  | name (id : String)
  | constant (c : ScriptConstant)
  | attribute (value : ScriptExpr) (attr : String)
  | binary (op : ScriptOperator) (left right : ScriptExpr)
  | unary (op : ScriptOperator) (operand : ScriptExpr)
  | logical (op : ScriptOperator) (values : List ScriptExpr)
  | compare (left : ScriptExpr) (ops : List ScriptOperator) (rest : List ScriptExpr)
  | choose (test yes no : ScriptExpr)
  | comprehension (items : List ScriptExpr) (clauses : List ScriptClause)
  | form (kind : ScriptForm) (parts : List ScriptExpr)
  deriving Inhabited

/-- A `for` of a comprehension with its conditions. -/
inductive ScriptClause where
  | mk (target source : ScriptExpr) (conditions : List ScriptExpr)
  deriving Inhabited

end

/-- A pattern of a case. A bare name takes anything; any other pattern has expressions to compare with. -/
inductive ScriptPattern where
  | bare
  | compared (parts : List ScriptExpr)
  deriving Inhabited

namespace ScriptPattern

def isBare : ScriptPattern → Bool
  | .bare => true
  | .compared _ => false

def parts : ScriptPattern → List ScriptExpr
  | .bare => []
  | .compared parts => parts

end ScriptPattern

/-- Where something stands in a source, in characters. -/
structure ScriptSpan where
  start : Nat
  stop : Nat
  deriving DecidableEq, Repr, Inhabited

mutual

inductive ScriptStmt where
  | simple (parts : List ScriptExpr)
  | assertion (parts : List ScriptExpr)
  | augmented (op : ScriptOperator) (target value : ScriptExpr)
  | branch (test : ScriptExpr) (yes no : List ScriptStmt)
  | loop (heads : List ScriptExpr) (body otherwise : List ScriptStmt)
  | using (items : List ScriptExpr) (body : List ScriptStmt)
  /-- A try whose handlers take exception groups is `grouped`. -/
  | attempt (grouped : Bool) (body : List ScriptStmt) (handlers : List ScriptHandler)
      (otherwise cleanup : List ScriptStmt)
  | select (subject : ScriptExpr) (cases : List ScriptCase)
  | function (name : String) (span : ScriptSpan) (body : List ScriptStmt)
  | classBody (bases : List ScriptExpr) (body : List ScriptStmt)
  deriving Inhabited

inductive ScriptHandler where
  | mk (caught : List ScriptExpr) (body : List ScriptStmt)
  deriving Inhabited

inductive ScriptCase where
  | mk (pattern : ScriptPattern) (guards : List ScriptExpr) (body : List ScriptStmt)
  deriving Inhabited

end

def ScriptCase.isBare : ScriptCase → Bool
  | ⟨pattern, _, _⟩ => pattern.isBare

/-- Source text with every line end written as a line feed. -/
def ScriptSpan.normalizeLines : List Char → List Char
  | [] => []
  | '\r' :: '\n' :: cs => '\n' :: normalizeLines cs
  | '\r' :: cs => '\n' :: normalizeLines cs
  | c :: cs => c :: normalizeLines cs

def ScriptSpan.cut (s : ScriptSpan) (source : List Char) : List Char := (source.take s.stop).drop s.start

end FlowSketch

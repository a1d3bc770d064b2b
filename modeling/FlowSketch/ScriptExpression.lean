import FlowSketch.ScriptAhead
import FlowSketch.ScriptTemplate

/-! From the tokens of an expression to its tree. Expressions nest; a parser for one depth is built from the parsers for
the depth below it. -/
namespace FlowSketch.ScriptParser
open ScriptToken

/-! ### Targets -/

mutual

/-- Whether something can be assigned to. -/
def isTarget : Expr → Bool
  | .name _ => true
  | .attribute _ _ => true
  | .form .subscript _ => true
  | .form .starred parts => areTargets parts
  | .form .tuple parts => areTargets parts
  | .form .list parts => areTargets parts
  | _ => false

def areTargets : List Expr → Bool
  | [] => true
  | e :: es => isTarget e && areTargets es

end

mutual

/-- Whether something can be deleted. -/
def isRemovable : Expr → Bool
  | .name _ => true
  | .attribute _ _ => true
  | .form .subscript _ => true
  | .form .tuple parts => areRemovable parts
  | .form .list parts => areRemovable parts
  | _ => false

def areRemovable : List Expr → Bool
  | [] => true
  | e :: es => isRemovable e && areRemovable es

end

def isSingleTarget : Expr → Bool
  | .name _ => true
  | .attribute _ _ => true
  | .form .subscript _ => true
  | _ => false

def isStarred : Expr → Bool
  | .form .starred _ => true
  | _ => false

/-! ### Expressions -/

/-- Parsers for the parts of an expression, one depth below it. -/
structure Inner where
  expression : Parse Expr
  disjunction : Parse Expr
  operand : Parse Expr
  inversion : Parse Expr
  factor : Parse Expr

/-- Whether an expression that names its value comes next. -/
def startsNaming : Parse Bool := do return (← peek).isIdentifier && (← peekSecond).isText ":="

/-- An expression that may name its value. -/
def named (inner : Inner) : Parse Expr := do
  if ← startsNaming then
    let id ← identifier
    discard next
    return .form .named [.name id, ← inner.expression]
  inner.expression

def starredOr (inner : Inner) (other : Parse Expr) : Parse Expr := do
  if ← accept "*" then return .form .starred [← inner.operand]
  other

def starNamed (inner : Inner) : Parse Expr := starredOr inner (named inner)

/-- One expression, or a tuple without parentheses. -/
def expressions (inner : Inner) : Parse Expr := do
  let first ← starredOr inner inner.expression
  let (comma, others) ← afterCommas (starredOr inner inner.expression)
  if comma then return .form .tuple (first :: others) else return first

def yielded (inner : Inner) : Parse Expr := do
  expect "yield"
  if ← accept "from" then return .form .yield [← inner.expression]
  if startsExpression (← peek) then return .form .yield [← expressions inner]
  return .form .yield []

def expressionsOrYield (inner : Inner) : Parse Expr := do
  if ← isNext "yield" then yielded inner else expressions inner

/-- The targets of a loop. -/
def targets (inner : Inner) : Parse Expr := do
  let first ← starredOr inner inner.operand
  let (comma, others) ← afterCommas (starredOr inner inner.operand)
  let target := if comma then .form .tuple (first :: others) else first
  if isTarget target then return target else failure

def clause (inner : Inner) : Parse (Option ScriptClause) := do
  let isAsync ← isNext "async"
  if isAsync then discard next
  if ← accept "for" then
    let target ← targets inner
    expect "in"
    let source ← inner.disjunction
    let conditions ← after "if" inner.disjunction
    return some ⟨target, source, conditions⟩
  if isAsync then failure
  return none

def startsClause : Parse Bool := do return (← isNext "for") || (← isNext "async")

/-- A comprehension over items that have been read. -/
def comprehended (inner : Inner) (items : List Expr) : Parse Expr := do
  if items.any isStarred then failure
  return .comprehension items (← many (clause inner))

/-- What stands in parentheses, up to the closing one. -/
def parenthesised (inner : Inner) : Parse Expr := do
  if ← accept ")" then return .form .tuple []
  if ← isNext "yield" then
    let e ← yielded inner
    expect ")"
    return e
  let first ← starNamed inner
  if ← startsClause then
    let e ← comprehended inner [first]
    expect ")"
    return e
  let (comma, others) ← afterCommas (starNamed inner)
  expect ")"
  if comma then return .form .tuple (first :: others)
  if isStarred first then failure
  return first

def listed (inner : Inner) : Parse Expr := do
  if ← accept "]" then return .form .list []
  let first ← starNamed inner
  if ← startsClause then
    let e ← comprehended inner [first]
    expect "]"
    return e
  let (_, others) ← afterCommas (starNamed inner)
  expect "]"
  return .form .list (first :: others)

/-- A key with its value, or the entries of another dictionary. -/
def dictEntry (inner : Inner) : Parse (List Expr) := do
  if ← accept "**" then return [.form .starred [← inner.operand]]
  let key ← inner.expression
  expect ":"
  return [key, ← inner.expression]

/-- The entries after the first one, each with a comma before it. -/
def dictEntries (inner : Inner) : Parse (List Expr) := do
  let entries ← many do
    if ← accept "," then
      if ← isNext "\x7d" then return none else return some (← dictEntry inner)
    else return none
  return entries.flatten

def braced (inner : Inner) : Parse Expr := do
  if ← accept "\x7d" then return .form .dict []
  if ← isNext "**" then
    let first ← dictEntry inner
    let others ← dictEntries inner
    expect "\x7d"
    return .form .dict (first ++ others)
  let naming ← startsNaming
  let first ← starNamed inner
  if ← accept ":" then
    -- a key is named only in parentheses
    if naming || isStarred first then failure
    let value ← inner.expression
    if ← startsClause then
      let e ← comprehended inner [first, value]
      expect "\x7d"
      return e
    let others ← dictEntries inner
    expect "\x7d"
    return .form .dict (first :: value :: others)
  if ← startsClause then
    let e ← comprehended inner [first]
    expect "\x7d"
    return e
  let (_, others) ← afterCommas (starNamed inner)
  expect "\x7d"
  return .form .set (first :: others)

/-- The expression in a field of a formatted string, read as if it stood in parentheses. -/
def field (inner : Inner) (text : List Char) : Option Expr := do
  let tokens ← ScriptToken.ofSource ('(' :: text ++ [')'])
  let (e, rest) ← parenthesised inner (.ofTokens (tokens.drop 1))
  match rest.tokens with
  | [t, _] => if t.kind = .newline then some e else none
  | _ => none

/-- A string token: its value, or its fields if it is formatted, and whether it is of bytes. -/
structure Piece where
  inBytes : Bool
  constant : Option ScriptConstant
  fields : List Expr

def piece (inner : Inner) (t : ScriptToken) : Option Piece := do
  let (o, rest) ← ScriptLiteral.opening? t.text
  let (body, _) ← o.body? rest
  if o.has 'f' then
    let texts ← ScriptTemplate.fields? (o.has 'r') body
    let _ ← o.value? body
    return ⟨false, none, ← texts.mapM (field inner)⟩
  return ⟨o.has 'b', some (← o.value? body), []⟩

def points : ScriptConstant → List Nat
  | .text ps => ps
  | .bytes vs => vs
  | _ => []

/-- Neighbouring strings are one; bytes do not mix with text. -/
def joined (pieces : List Piece) : Option Expr :=
  let inBytes := pieces.any Piece.inBytes
  if inBytes && pieces.any (fun p => !p.inBytes) then none
  else match pieces.mapM Piece.constant with
    | some cs =>
      let all := cs.flatMap points
      some (.constant (if inBytes then .bytes all else .text all))
    | none => some (.form .formatted (pieces.flatMap Piece.fields))

def strings (inner : Inner) : Parse Expr := do
  let tokens ← many do
    if ← isNextKind .string then return some (← next) else return none
  match (tokens.mapM (piece inner)).bind joined with
  | some e => return e
  | none => failure

def wordConstant? (text : List Char) : Option ScriptConstant :=
  if text = "None".toList then some .none
  else if text = "True".toList then some (.number 1 0)
  else if text = "False".toList then some (.number 0 0)
  else none

def atom (inner : Inner) : Parse Expr := do
  let t ← peek
  match t.kind with
  | .string => strings inner
  | .number =>
    discard next
    return .constant (ScriptLiteral.numberValue t.text)
  | .name =>
    match wordConstant? t.text with
    | some c =>
      discard next
      return .constant c
    | none => return .name (← identifier)
  | _ =>
    if ← accept "(" then parenthesised inner
    else if ← accept "[" then listed inner
    else if ← accept "\x7b" then braced inner
    else if ← accept "..." then return .constant .ellipsis
    else failure

/-! ### Calls and subscripts -/

/-- What the arguments read so far forbid. -/
inductive ArgumentStage where
  | positional
  | keyword
  | unpacked
  deriving DecidableEq

def argument (inner : Inner) (stage : ArgumentStage) : Parse (Expr × ArgumentStage) := do
  if ← accept "**" then return (.form .keyword [← inner.expression], .unpacked)
  if ← accept "*" then
    if stage = .unpacked then failure
    return (.form .starred [← inner.expression], stage)
  if (← peek).isIdentifier && (← peekSecond).isText "=" then
    discard identifier
    discard next
    return (.form .keyword [← inner.expression], if stage = .positional then .keyword else stage)
  if stage ≠ .positional then failure
  return (← named inner, stage)

def argumentsFrom (inner : Inner) : Nat → ArgumentStage → Parse (List Expr)
  | 0, _ => failure
  | n + 1, stage => do
    if ← accept ")" then return []
    let (e, stage) ← argument inner stage
    if ← accept "," then return e :: (← argumentsFrom inner n stage)
    expect ")"
    return [e]

def allArguments (inner : Inner) : Parse (List Expr) := do
  argumentsFrom inner (← rounds) .positional

/-- The arguments of a call, up to the closing parenthesis. A comprehension without parentheses stands alone. -/
def arguments (inner : Inner) : Parse (List Expr) := do
  if ← accept ")" then return []
  let (e, stage) ← argument inner .positional
  if ← startsClause then
    if stage ≠ .positional then failure
    let e ← comprehended inner [e]
    expect ")"
    return [e]
  if ← accept "," then return e :: (← argumentsFrom inner (← rounds) stage)
  expect ")"
  return [e]

def optionalUnless (stops : List String) (p : Parse Expr) : Parse (List Expr) := do
  let t ← peek
  if stops.any t.isText then return [] else return [← p]

def slice (inner : Inner) : Parse Expr := do
  if ← accept "*" then return .form .starred [← inner.expression]
  let naming ← startsNaming
  let lower ← optionalUnless [":"] (named inner)
  if ← accept ":" then
    -- a bound is named only in parentheses
    if naming then failure
    let upper ← optionalUnless [":", ",", "]"] inner.expression
    let step ← if ← accept ":" then optionalUnless [",", "]"] inner.expression else pure []
    return .form .slice (lower ++ upper ++ step)
  match lower with
  | [e] => return e
  | _ => failure

def slicesFrom (inner : Inner) : Nat → Parse (List Expr)
  | 0 => failure
  | n + 1 => do
    if ← accept "]" then return []
    let e ← slice inner
    if ← accept "," then return e :: (← slicesFrom inner n)
    expect "]"
    return [e]

def subscripted (inner : Inner) (e : Expr) : Parse Expr := do
  if ← isNext "]" then failure
  return .form .subscript (e :: (← slicesFrom inner (← rounds)))

def trailersFrom (inner : Inner) : Nat → Expr → Parse Expr
  | 0, e => return e
  | n + 1, e => do
    if ← accept "." then trailersFrom inner n (.attribute e (← identifier))
    else if ← accept "(" then trailersFrom inner n (.form .call (e :: (← arguments inner)))
    else if ← accept "[" then trailersFrom inner n (← subscripted inner e)
    else return e

def primary (inner : Inner) : Parse Expr := do
  trailersFrom inner (← rounds) (← atom inner)

/-! ### Operators -/

def power (inner : Inner) : Parse Expr := do
  let base ← if ← accept "await" then do pure (.form .await [← primary inner]) else primary inner
  if ← accept "**" then return .binary .pow base (← inner.factor)
  return base

def unaryOperators : List (String × ScriptOperator) := [("+", .plus), ("-", .minus), ("~", .invert)]

/-- The operator whose text is next, which is taken. -/
def operator (table : List (String × ScriptOperator)) : Parse (Option ScriptOperator) := do
  let t ← peek
  match table.find? fun e => t.isText e.1 with
  | some e =>
    discard next
    return some e.2
  | none => return none

def factor (inner : Inner) : Parse Expr := do
  match ← operator unaryOperators with
  | some op => return .unary op (← inner.factor)
  | none => power inner

def leftAssociative (table : List (String × ScriptOperator)) (operand : Parse Expr) : Parse Expr := do
  let first ← operand
  let others ← many do
    match ← operator table with
    | some op => return some (op, ← operand)
    | none => return none
  return others.foldl (fun left o => .binary o.1 left o.2) first

/-- Binary operators, the tightest first. -/
def binaryTables : List (List (String × ScriptOperator)) := [
  [("*", .mult), ("/", .div), ("//", .floorDiv), ("%", .mod), ("@", .matMult)],
  [("+", .add), ("-", .sub)],
  [("<<", .leftShift), (">>", .rightShift)],
  [("&", .bitAnd)],
  [("^", .bitXor)],
  [("|", .bitOr)]]

def operand (inner : Inner) : Parse Expr :=
  binaryTables.foldl (fun tighter table => leftAssociative table tighter) (factor inner)

def comparisonTable : List (String × ScriptOperator) :=
  [("==", .equal), ("!=", .notEqual), ("<", .less), ("<=", .lessEqual), (">", .greater), (">=", .greaterEqual),
    ("in", .within)]

def comparisonOperator : Parse (Option ScriptOperator) := do
  if ← accept "is" then
    if ← accept "not" then return some .isNot else return some .is
  if (← isNext "not") && (← peekSecond).isText "in" then
    discard next
    discard next
    return some .notWithin
  operator comparisonTable

def comparison (inner : Inner) : Parse Expr := do
  let first ← operand inner
  let others ← many do
    match ← comparisonOperator with
    | some op => return some (op, ← operand inner)
    | none => return none
  if others.isEmpty then return first
  return .compare first (others.map Prod.fst) (others.map Prod.snd)

def inversion (inner : Inner) : Parse Expr := do
  if ← accept "not" then return .unary .not (← inner.inversion)
  comparison inner

/-- Operands joined by one word are one expression. -/
def logical (word : String) (op : ScriptOperator) (operand : Parse Expr) : Parse Expr := do
  let first ← operand
  let others ← after word operand
  if others.isEmpty then return first else return .logical op (first :: others)

def disjunction (inner : Inner) : Parse Expr :=
  logical "or" .or (logical "and" .and (inversion inner))

/-! ### Parameters -/

/-- What the parameters read so far forbid: a slash is past, a star is past, a default has been seen, a bare star waits
for a name. -/
structure ParameterStage where
  slashed : Bool
  starred : Bool
  defaulted : Bool
  waiting : Bool
  first : Bool

/-- A parameter's annotation; parameters of a lambda have none. -/
def annotation (inner : Inner) (annotated : Bool) (star : Bool) : Parse Unit := do
  if annotated then
    if ← accept ":" then
      if star && (← isNext "*") then discard (starNamed inner) else discard inner.expression

/-- One parameter with its default, and the stage after it; nothing may follow a parameter for all other keywords. -/
def parameter (inner : Inner) (annotated : Bool) (s : ParameterStage) : Parse (List Expr × Option ParameterStage) := do
  if ← accept "/" then
    if s.slashed || s.starred || s.first then failure
    return ([], some { s with slashed := true })
  if ← accept "**" then
    if s.waiting then failure
    discard identifier
    annotation inner annotated false
    return ([], none)
  if ← accept "*" then
    if s.starred then failure
    if ← isNext "," then return ([], some { s with starred := true, waiting := true, first := false })
    discard identifier
    annotation inner annotated true
    return ([], some { s with starred := true, first := false })
  discard identifier
  annotation inner annotated false
  let s := { s with waiting := false, first := false }
  if ← accept "=" then return ([← inner.expression], some { s with defaulted := true })
  if s.defaulted && !s.starred then failure
  return ([], some s)

/-- The defaults of parameters up to a closing token, which stays. -/
def parametersFrom (inner : Inner) (annotated : Bool) (close : String) : Nat → ParameterStage → Parse (List Expr)
  | 0, _ => failure
  | n + 1, s => do
    if ← isNext close then
      if s.waiting then failure
      return []
    let (defaults, stage) ← parameter inner annotated s
    let comma ← accept ","
    match stage with
    | none => if ← isNext close then return defaults else failure
    | some s =>
      if comma then return defaults ++ (← parametersFrom inner annotated close n s)
      if s.waiting || !(← isNext close) then failure
      return defaults

def parameters (inner : Inner) (annotated : Bool) (close : String) : Parse (List Expr) := do
  parametersFrom inner annotated close (← rounds) ⟨false, false, false, false, true⟩

def expression (inner : Inner) : Parse Expr := do
  if ← accept "lambda" then
    let defaults ← parameters inner false ":"
    expect ":"
    return .form .lambda (defaults ++ [← inner.expression])
  let e ← disjunction inner
  if ← accept "if" then
    let test ← inner.disjunction
    expect "else"
    return .choose test e (← inner.expression)
  return e

/-- The parsers for expressions of a nesting depth. -/
def ofDepth : Nat → Inner
  | 0 => ⟨failure, failure, failure, failure, failure⟩
  | n + 1 =>
    ⟨fun s => expression (ofDepth n) s, fun s => disjunction (ofDepth n) s, fun s => operand (ofDepth n) s,
      fun s => inversion (ofDepth n) s, fun s => factor (ofDepth n) s⟩

end FlowSketch.ScriptParser

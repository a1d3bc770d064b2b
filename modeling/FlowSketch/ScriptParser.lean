import FlowSketch.ScriptCase

/-! From the tokens of a script to its statements. Blocks nest as expressions do. -/
namespace FlowSketch.ScriptParser
open ScriptToken

/-! ### Simple statements -/

def augmentations : List (String × ScriptOperator) :=
  [("+=", .add), ("-=", .sub), ("*=", .mult), ("/=", .div), ("//=", .floorDiv), ("%=", .mod), ("@=", .matMult),
    ("**=", .pow), (">>=", .rightShift), ("<<=", .leftShift), ("&=", .bitAnd), ("^=", .bitXor), ("|=", .bitOr)]

/-- An expression, an assignment of any kind, or an annotation. -/
def expressionStatement (inner : Inner) : Parse Stmt := do
  let first ← expressionsOrYield inner
  if ← accept ":" then
    if !isSingleTarget first then failure
    let note ← inner.expression
    let value ← if ← accept "=" then do pure [← expressionsOrYield inner] else pure []
    return .simple (first :: note :: value)
  match ← operator augmentations with
  | some op =>
    if !isSingleTarget first then failure
    return .augmented op first (← expressionsOrYield inner)
  | none =>
    let others ← after "=" (expressionsOrYield inner)
    if areTargets (first :: others).dropLast then return .simple (first :: others) else failure

def dottedName : Parse Unit := do
  discard identifier
  discard (after "." identifier)

def aliased (name : Parse Unit) : Parse Unit := do
  name
  if ← accept "as" then discard identifier

def imported : Parse Unit := do
  aliased dottedName
  discard (after "," (aliased dottedName))

def importedNames : Nat → Parse Unit
  | 0 => failure
  | n + 1 => do
    aliased (discard identifier)
    if ← accept "," then
      unless ← isNext ")" do importedNames n

def importedFrom : Parse Unit := do
  let dots ← many do
    if ← acceptAny [".", "..."] then return some () else return none
  if dots.isEmpty || !(← isNext "import") then dottedName
  expect "import"
  if ← accept "*" then return
  if ← accept "(" then
    importedNames (← rounds)
    expect ")"
  else
    aliased (discard identifier)
    discard (after "," (aliased (discard identifier)))

def removed (inner : Inner) : Parse Stmt := do
  let first ← inner.operand
  let (_, others) ← afterCommas inner.operand
  if areRemovable (first :: others) then return .simple (first :: others) else failure

def raised (inner : Inner) : Parse Stmt := do
  if !startsExpression (← peek) then return .simple []
  let e ← inner.expression
  let cause ← if ← accept "from" then do pure [← inner.expression] else pure []
  return .simple (e :: cause)

def asserted (inner : Inner) : Parse Stmt := do
  let e ← inner.expression
  let message ← if ← accept "," then do pure [← inner.expression] else pure []
  return .assertion (e :: message)

def declared : Parse Stmt := do
  discard identifier
  discard (after "," identifier)
  return .simple []

def simpleStatement (inner : Inner) : Parse Stmt := do
  if ← acceptAny ["pass", "break", "continue"] then return .simple []
  if ← accept "return" then
    if startsExpression (← peek) then return .simple [← expressions inner] else return .simple []
  if ← accept "raise" then return ← raised inner
  if ← acceptAny ["global", "nonlocal"] then return ← declared
  if ← accept "del" then return ← removed inner
  if ← accept "assert" then return ← asserted inner
  if ← accept "import" then
    imported
    return .simple []
  if ← accept "from" then
    importedFrom
    return .simple []
  expressionStatement inner

/-- Simple statements on one line. -/
def simpleLine (inner : Inner) : Parse (List Stmt) := do
  let first ← simpleStatement inner
  let others ← many do
    if ← accept ";" then
      if ← isNextKind .newline then return none else return some (← simpleStatement inner)
    else return none
  expectKind .newline
  return first :: others

/-! ### Compound statements

`suite` reads the colon and the block of a construct. -/

abbrev Suite := Parse (List Stmt)

def otherwise (suite : Suite) : Suite := do
  if ← accept "else" then suite else return []

def branched (inner : Inner) (suite : Suite) : Parse Stmt := do
  let test ← named inner
  let body ← suite
  let others ← after "elif" do
    let test ← named inner
    return (test, ← suite)
  let last ← otherwise suite
  return .branch test body (others.foldr (fun o no => [.branch o.1 o.2 no]) last)

def whileLoop (inner : Inner) (suite : Suite) : Parse Stmt := do
  let test ← named inner
  let body ← suite
  return .loop [test] body (← otherwise suite)

def forLoop (inner : Inner) (suite : Suite) : Parse Stmt := do
  let target ← targets inner
  expect "in"
  let source ← expressions inner
  let body ← suite
  return .loop [target, source] body (← otherwise suite)

def item (inner : Inner) : Parse (List Expr) := do
  let e ← inner.expression
  if ← accept "as" then
    let target ← starredOr inner inner.operand
    if isTarget target then return [e, target] else failure
  return [e]

def items (inner : Inner) : Parse (List Expr) := do
  let first ← item inner
  return first ++ (← after "," (item inner)).flatten

/-- Items in parentheses, which the colon must follow. -/
def parenthesisedItems (inner : Inner) : Parse (List Expr) := do
  expect "("
  let first ← item inner
  let others ← many do
    if ← accept "," then
      if ← isNext ")" then return none else return some (← item inner)
    else return none
  expect ")"
  unless ← isNext ":" do failure
  return first ++ others.flatten

def used (inner : Inner) (suite : Suite) : Parse Stmt := do
  let found ← attempt (parenthesisedItems inner)
  let items ← match found with
    | some is => pure is
    | none => items inner
  return .using items (← suite)

def handler (inner : Inner) (suite : Suite) : Parse (Option (Bool × ScriptHandler)) := do
  if ← accept "except" then
    let grouped ← accept "*"
    if !grouped && (← isNext ":") then return some (false, ⟨[], ← suite⟩)
    let caught ← inner.expression
    if ← accept "as" then discard identifier
    return some (grouped, ⟨[caught], ← suite⟩)
  return none

def attempted (inner : Inner) (suite : Suite) : Parse Stmt := do
  let body ← suite
  let handlers ← many (handler inner suite)
  let last ← if handlers.isEmpty then pure [] else otherwise suite
  let final ← accept "finally"
  if handlers.isEmpty && !final then failure
  let cleanup ← if final then suite else pure []
  let grouped := handlers.any Prod.fst
  if grouped && !handlers.all Prod.fst then failure
  return .attempt grouped body (handlers.map Prod.snd) last cleanup

/-- A function whose first word begins at `start`. -/
def function (inner : Inner) (suite : Suite) (start : Nat) : Parse Stmt := do
  let name ← identifier
  expect "("
  discard (parameters inner true ")")
  expect ")"
  if ← accept "->" then discard inner.expression
  let body ← suite
  return .function name ⟨start, (← get).last⟩ body

def classBody (inner : Inner) (suite : Suite) (decorators : List Expr) : Parse Stmt := do
  discard identifier
  let bases ← if ← accept "(" then allArguments inner else pure []
  return .classBody (bases ++ decorators) (← suite)

def decorator (inner : Inner) : Parse (Option Expr) := do
  if ← accept "@" then
    let e ← named inner
    expectKind .newline
    return some e
  return none

/-- A function or a class, as a decorator needs one. -/
def definition (inner : Inner) (suite : Suite) (decorators : List Expr) : Parse (Option Stmt) := do
  let start := (← peek).span.start
  if ← accept "def" then return some (← function inner suite start)
  if ← accept "class" then return some (← classBody inner suite decorators)
  if (← isNext "async") && (← peekSecond).isText "def" then
    discard next
    discard next
    return some (← function inner suite start)
  return none

/-- A block of cases, at least one. -/
def selection (inner : Inner) (suite : Suite) : Parse Stmt := do
  expect "match"
  let subject ← subject inner
  expect ":"
  expectKind .newline
  expectKind .indent
  let cases ← many do
    if ← accept "case" then
      let pattern ← casePattern inner
      let guards ← if ← accept "if" then do pure [← named inner] else pure []
      return some ⟨pattern, guards, ← suite⟩
    else return none
  expectKind .dedent
  if cases.isEmpty then failure
  return .select subject cases

def compound (inner : Inner) (suite : Suite) : Parse (Option Stmt) := do
  let decorators ← many (decorator inner)
  match ← definition inner suite decorators with
  | some s => return some s
  | none =>
    if !decorators.isEmpty then failure
    let isAsync ← accept "async"
    if ← accept "for" then return some (← forLoop inner suite)
    if ← accept "with" then return some (← used inner suite)
    if isAsync then failure
    if ← accept "if" then return some (← branched inner suite)
    if ← accept "while" then return some (← whileLoop inner suite)
    if ← accept "try" then return some (← attempted inner suite)
    -- the word is a name in any other place
    if ← isNext "match" then return ← attempt (selection inner suite)
    return none

def statement (inner : Inner) (suite : Suite) : Parse (List Stmt) := do
  match ← compound inner suite with
  | some s => return [s]
  | none => simpleLine inner

def statementsUntil (inner : Inner) (suite : Suite) (final : Kind) : Parse (List Stmt) := do
  let lines ← many do
    if ← isNextKind final then return none else return some (← statement inner suite)
  expectKind final
  return lines.flatten

def block (inner : Inner) (suite : Suite) : Suite := do
  expect ":"
  if ← isNextKind .newline then
    discard next
    expectKind .indent
    statementsUntil inner suite .dedent
  else simpleLine inner

/-- Blocks of a nesting depth. -/
def blockOfDepth (inner : Inner) : Nat → Suite
  | 0 => failure
  | n + 1 => fun s => block inner (blockOfDepth inner n) s

/-- The statements of a script, or nothing if it has none of its grammar. -/
def parse (source : List Char) : Option (List Stmt) := do
  let cs := ScriptSpan.normalizeLines source
  if cs.contains '\x00' then none
  let tokens ← ScriptToken.ofSource cs
  let depth := cs.length + 8
  let inner := ofDepth depth
  let (statements, _) ← statementsUntil inner (blockOfDepth inner depth) .stop (.ofTokens tokens)
  return statements

end FlowSketch.ScriptParser

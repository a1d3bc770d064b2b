import FlowSketch.ScriptExpression

/-! Patterns of cases in scripts. As expressions do, they nest. -/
namespace FlowSketch.ScriptParser
open ScriptToken

/-- One pattern of the parts of others. -/
def gathered (patterns : List ScriptPattern) : ScriptPattern := .compared (patterns.flatMap ScriptPattern.parts)

/-- A name that a pattern binds; it is followed by nothing that makes it more than a name. -/
def captured : Parse Unit := do
  if ← isNext "_" then failure
  discard identifier
  if (← isNext ".") || (← isNext "(") || (← isNext "=") then failure

def number : Parse ScriptConstant := do
  let t ← next
  if t.kind = .number then return ScriptLiteral.numberValue t.text else failure

def signedNumber : Parse Expr := do
  if ← accept "-" then return .unary .minus (.constant (← number))
  return .constant (← number)

def endsImaginary (t : ScriptToken) : Bool := t.text.getLast? = some 'j' || t.text.getLast? = some 'J'

/-- A number, or a real and an imaginary one with a sign between them. -/
def numberPattern : Parse Expr := do
  let real ← if ← isNext "-" then peekSecond else peek
  let first ← signedNumber
  match ← operator [("+", .add), ("-", .sub)] with
  | none => return first
  | some op =>
    if endsImaginary real || !(endsImaginary (← peek)) then failure
    return .binary op first (.constant (← number))

/-- A literal that a pattern compares with. -/
def literalPattern (inner : Inner) : Parse (Option Expr) := do
  let t ← peek
  if t.kind = .string then return some (← strings inner)
  if t.kind = .number || t.isText "-" then return some (← numberPattern)
  if t.kind = .name then
    match wordConstant? t.text with
    | some c =>
      discard next
      return some (.constant c)
    | none => return none
  return none

/-- A name with the attributes that follow it. -/
def dotted : Parse Expr := do
  let first ← identifier
  return (← after "." identifier).foldl (fun e attr => .attribute e attr) (.name first)

def starPattern (below : Parse ScriptPattern) : Parse (Bool × ScriptPattern) := do
  if ← accept "*" then
    unless ← accept "_" do captured
    return (true, .compared [])
  return (false, ← below)

/-- Patterns up to a closing token, which is taken, and whether a comma is among them. -/
def sequenceFrom (below : Parse ScriptPattern) (close : String) : Nat → Parse (Bool × List (Bool × ScriptPattern))
  | 0 => failure
  | n + 1 => do
    if ← accept close then return (false, [])
    let first ← starPattern below
    if ← accept "," then return (true, first :: (← sequenceFrom below close n).2)
    expect close
    return (false, [first])

def bracketedPattern (below : Parse ScriptPattern) : Parse ScriptPattern := do
  let (_, patterns) ← sequenceFrom below "]" (← rounds)
  return gathered (patterns.map Prod.snd)

/-- A single pattern in parentheses is that pattern. -/
def parenthesisedPattern (below : Parse ScriptPattern) : Parse ScriptPattern := do
  match ← sequenceFrom below ")" (← rounds) with
  | (false, [(starred, p)]) => if starred then failure else return p
  | (_, patterns) => return gathered (patterns.map Prod.snd)

/-- A key is a literal or a dotted name. -/
def mappingKey (inner : Inner) : Parse Expr := do
  match ← literalPattern inner with
  | some e => return e
  | none =>
    match ← dotted with
    | .name _ => failure
    | e => return e

def mappingEntry (inner : Inner) (below : Parse ScriptPattern) : Parse ScriptPattern := do
  let key ← mappingKey inner
  expect ":"
  return .compared (key :: (← below).parts)

/-- The entries of a mapping; nothing follows the name for those that are left. -/
def mappingFrom (inner : Inner) (below : Parse ScriptPattern) : Nat → Parse (List ScriptPattern)
  | 0 => failure
  | n + 1 => do
    if ← accept "\x7d" then return []
    if ← accept "**" then
      captured
      discard (accept ",")
      expect "\x7d"
      return []
    let first ← mappingEntry inner below
    if ← accept "," then return first :: (← mappingFrom inner below n)
    expect "\x7d"
    return [first]

/-- A name with an equals sign. Right after a part by position an underscore is no name. -/
def partName (stage : Option ArgumentStage) : Parse Bool := do
  let t ← peek
  if t.isIdentifier && (← peekSecond).isText "=" then
    if t.isText "_" && stage = some .positional then failure
    discard identifier
    discard next
    return true
  return false

/-- The parts of an object by position, then by name. -/
def partsFrom (below : Parse ScriptPattern) : Nat → Option ArgumentStage → Parse (List ScriptPattern)
  | 0, _ => failure
  | n + 1, stage => do
    if ← accept ")" then return []
    let hasName ← partName stage
    if stage = some .keyword && !hasName then failure
    let first ← below
    if ← accept "," then return first :: (← partsFrom below n (some (if hasName then .keyword else .positional)))
    expect ")"
    return [first]

/-- A name alone binds; a dotted one is compared; with parentheses it is a class and its parts. -/
def namePattern (below : Parse ScriptPattern) : Parse ScriptPattern := do
  if ← accept "_" then return .bare
  let e ← dotted
  if ← accept "(" then
    return .compared (e :: (← partsFrom below (← rounds) none).flatMap ScriptPattern.parts)
  if ← isNext "=" then failure
  match e with
  | .name _ => return .bare
  | _ => return .compared [e]

def closedPattern (inner : Inner) (below : Parse ScriptPattern) : Parse ScriptPattern := do
  match ← literalPattern inner with
  | some e => return .compared [e]
  | none =>
    if ← accept "(" then parenthesisedPattern below
    else if ← accept "[" then bracketedPattern below
    else if ← accept "\x7b" then gathered <$> mappingFrom inner below (← rounds)
    else namePattern below

/-- Alternatives, and a name for what they take. -/
def pattern (inner : Inner) (below : Parse ScriptPattern) : Parse ScriptPattern := do
  let first ← closedPattern inner below
  let others ← after "|" (closedPattern inner below)
  let found := if others.isEmpty then first else gathered (first :: others)
  if ← accept "as" then
    captured
    return .compared found.parts
  return found

/-- Patterns of a nesting depth. -/
def patternOfDepth (inner : Inner) : Nat → Parse ScriptPattern
  | 0 => failure
  | n + 1 => fun s => pattern inner (patternOfDepth inner n) s

/-- The patterns after a comma, which may be none. -/
def openFrom (below : Parse ScriptPattern) : Nat → Parse (List ScriptPattern)
  | 0 => failure
  | n + 1 => do
    if (← isNext ":") || (← isNext "if") then return []
    let (_, first) ← starPattern below
    if ← accept "," then return first :: (← openFrom below n)
    return [first]

/-- The pattern of a case: one pattern, or several with commas. -/
def casePattern (inner : Inner) : Parse ScriptPattern := do
  let below := patternOfDepth inner (← rounds)
  let (starred, first) ← starPattern below
  if ← accept "," then return gathered (first :: (← openFrom below (← rounds)))
  if starred then failure else return first

/-- What the cases look at. -/
def subject (inner : Inner) : Parse Expr := do
  let first ← starNamed inner
  let (comma, others) ← afterCommas (starNamed inner)
  if comma then return .form .tuple (first :: others)
  if isStarred first then failure else return first

end FlowSketch.ScriptParser

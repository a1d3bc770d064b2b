import FlowSketch.ScriptToken
import FlowSketch.TextNormalForm

/-! The tokens ahead of a reader of scripts, and what is common to all readers. -/
namespace FlowSketch.ScriptParser
open ScriptToken

/-- The tokens ahead and their number, and where the last token with a meaning of its own ended. -/
structure Ahead where
  tokens : List ScriptToken
  count : Nat
  last : Nat

def Ahead.ofTokens (tokens : List ScriptToken) : Ahead := ⟨tokens, tokens.length, 0⟩

abbrev Parse := StateT Ahead Option

abbrev Expr := ScriptExpr
abbrev Stmt := ScriptStmt

def nothing : ScriptToken := ⟨.stop, [], ⟨0, 0⟩⟩

def peek : Parse ScriptToken := fun s => some (s.tokens.head?.getD nothing, s)

def peekSecond : Parse ScriptToken := fun s => some (s.tokens[1]?.getD nothing, s)

/-- Layout does not belong to a statement; a semicolon at its end does. -/
def isLayout (t : ScriptToken) : Bool :=
  t.kind = .newline || t.kind = .indent || t.kind = .dedent || t.kind = .stop

def next : Parse ScriptToken := fun s =>
  match s.tokens with
  | [] => none
  | t :: ts => some (t, ⟨ts, s.count - 1, if isLayout t then s.last else t.span.stop⟩)

def isNext (text : String) : Parse Bool := do return (← peek).isText text

def isNextKind (kind : Kind) : Parse Bool := do return (← peek).kind = kind

def accept (text : String) : Parse Bool := do
  if ← isNext text then
    discard next
    return true
  return false

/-- Takes one token if it is among the given ones. -/
def acceptAny (texts : List String) : Parse Bool := do
  let t ← peek
  if texts.any t.isText then
    discard next
    return true
  return false

def expect (text : String) : Parse Unit := do
  unless ← accept text do failure

def expectKind (kind : Kind) : Parse Unit := do
  unless (← next).kind = kind do failure

/-- An identifier in its normal form; whether it is a keyword is decided before. -/
def identifier : Parse String := do
  let t ← next
  if t.isIdentifier then return .ofList (TextNormalForm.compatible t.text) else failure

/-- Tries a parser and goes back if it fails. -/
def attempt {α : Type} (p : Parse α) : Parse (Option α) := fun s =>
  match p s with
  | some (a, t) => some (some a, t)
  | none => some (none, s)

def collect {α : Type} (p : Parse (Option α)) : Nat → Parse (List α)
  | 0 => return []
  | n + 1 => do
    match ← p with
    | some a => return a :: (← collect p n)
    | none => return []

/-- More rounds than there are tokens ahead; every loop takes a token in each of its rounds. -/
def rounds : Parse Nat := do return (← get).count + 1

/-- Collects while the parser has something; it takes tokens each time it has. -/
def many {α : Type} (p : Parse (Option α)) : Parse (List α) := do collect p (← rounds)

/-- Collects what follows each separator. -/
def after {α : Type} (separator : String) (p : Parse α) : Parse (List α) :=
  many do if ← accept separator then return some (← p) else return none

def valueWords : List String := ["None", "True", "False", "not", "lambda", "await"]

def startOperators : List String := ["(", "[", "\x7b", "-", "+", "~", "...", "*"]

def startsExpression (t : ScriptToken) : Bool :=
  t.kind = .number || t.kind = .string || t.isIdentifier
    || (t.kind = .name && valueWords.contains (String.ofList t.text))
    || (t.kind = .operator && startOperators.contains (String.ofList t.text))

/-- What follows each comma, where a last comma may be followed by nothing. -/
def afterCommas {α : Type} (p : Parse α) : Parse (Bool × List α) := do
  let comma ← isNext ","
  let items ← many do
    if ← accept "," then
      if startsExpression (← peek) then return some (some (← p)) else return some none
    else return none
  -- only the last comma may stand alone
  if items.dropLast.any Option.isNone then failure
  return (comma, items.filterMap id)

end FlowSketch.ScriptParser

import FlowSketch.BraceStatement
import FlowSketch.PatternBuild

/-! What a brace block belongs to, decided from the statement that introduces it. -/
namespace FlowSketch

inductive PromiseStage where
  | resolved
  | rejected
  | settled
  deriving DecidableEq, Repr

inductive Owner where
  | root
  | event (subject method name : String)
  | branch (condition : String)
  | elseBranch (condition : String)
  | otherwise
  | forOf (item : Option String)
  | forIn
  | forLoop (header : String)
  | whileLoop (condition : String)
  | doWhile
  | switch (subject : String)
  | tryBlock
  | catchBlock (param : String)
  | finallyBlock
  | promise (stage : PromiseStage)
  | iterator (subject method : String)
  | function (name : String)
  | method (name : String)
  | namedArrow (name : String)
  | classBody (name : String)
  | callback
  | object
  deriving DecidableEq, Repr

def PromiseStage.method : PromiseStage → String
  | resolved => "then"
  | rejected => "catch"
  | settled => "finally"

def PromiseStage.kind : PromiseStage → String
  | resolved => "then"
  | rejected => "promise-catch"
  | settled => "promise-finally"

def PromiseStage.label : PromiseStage → String
  | resolved => "Promise resolved"
  | rejected => "Promise rejected"
  | settled => "Promise finally"

namespace Owner

def kind : Owner → String
  | root => "root"
  | event .. => "on-event"
  | branch _ => "if"
  | elseBranch _ => "else-if"
  | otherwise => "else"
  | forOf _ => "for-of"
  | forIn => "for-in"
  | forLoop _ => "for"
  | whileLoop _ => "while"
  | doWhile => "do-while"
  | switch _ => "switch"
  | tryBlock => "try"
  | catchBlock _ => "catch"
  | finallyBlock => "finally"
  | promise s => s.kind
  | iterator .. => "iterator"
  | function _ => "function"
  | method _ => "method"
  | namedArrow _ => "arrow"
  | classBody _ => "class"
  | callback => "arrow"
  | object => "object"

def orElse (text missing : String) : String := if text.isEmpty then missing else text

def headed (lead text missing : String) : String :=
  if text.isEmpty then missing else lead ++ TextBlank.clip 40 text

def label : Owner → String
  | root => "root"
  | event s m n => s ++ "." ++ m ++ "('" ++ n ++ "')"
  | branch c => orElse c "condition"
  | elseBranch c => orElse c "condition"
  | otherwise => "else"
  | forOf (some item) => "For each in " ++ item
  | forOf none => "for...of"
  | forIn => "for...in loop"
  | forLoop h => headed "For: " h "for loop"
  | whileLoop c => headed "While: " c "while loop"
  | doWhile => "do...while"
  | switch s => "Switch on " ++ orElse s "value"
  | tryBlock => "try"
  | catchBlock p => "catch (" ++ p ++ ")"
  | finallyBlock => "finally"
  | promise s => s.label
  | iterator s m => s ++ "." ++ m ++ "()"
  | function n => "function " ++ n ++ "()"
  | method n => n ++ "()"
  | namedArrow n => n ++ " = () =>"
  | classBody n => "class " ++ n
  | callback => "callback"
  | object => "block"

/-- The parts of the introducing statement that an owner names. -/
def parts : Owner → List (String × String)
  | event s _ n => [("obj", s), ("event", n)]
  | branch c => [("condition", c)]
  | elseBranch c => [("condition", c)]
  | switch s => [("expr", s)]
  | catchBlock p => [("param", p)]
  | iterator s m => [("obj", s), ("method", m)]
  | function n => [("name", n)]
  | method n => [("name", n)]
  | namedArrow n => [("name", n)]
  | classBody n => [("name", n)]
  | _ => []

/-! ### Recognition

A rule sees the statement twice: as text in which every string is empty, and as tokens. -/

open Pattern BraceStatement

abbrev Rule := List Char → List Token → Option Owner

/-- The word stands somewhere in the text. -/
def hasWord (w : String) (flat : List Char) : Bool := (edge ++ word w ++ edge : Pattern).found flat

def eventPattern : Pattern :=
  group 1 name ++ gap ++ "." ++ gap ++ group 2 (choice ["on", "once", "addEventListener"]) ++ gap ++ "(" ++ gap ++ "'"
    ++ group 3 (plus (letter <|> oneOf ":.-")) ++ "'"

/-- A subscription; the only rule that reads the inside of a string. -/
def event? : Rule := fun _ stmt => do
  let m ← eventPattern.search (flatten stmt).toList
  return event (m.text 1) (m.text 2) (m.text 3)

def branch? : Rule := fun flat stmt =>
  if hasWord "if" flat then
    let condition := parenthesised headerLimit "if" stmt
    if (edge ++ "else" ++ plus blank ++ "if" ++ edge : Pattern).found flat then elseBranch condition
    else branch condition
  else none

def otherwise? : Rule := fun flat _ => if TextBlank.trim flat = "else".toList then otherwise else none

def forOfPattern : Pattern :=
  "for" ++ gap ++ "(" ++ reps (noneOf ")") ++ edge ++ "of" ++ edge ++ gap ++ group 1 name

def forOf? : Rule := fun flat _ =>
  if hasWord "for" flat && hasWord "of" flat then forOf ((forOfPattern.search flat).map (·.text 1)) else none

def forIn? : Rule := fun flat _ => if hasWord "for" flat && hasWord "in" flat then forIn else none

def forLoop? : Rule := fun flat stmt =>
  if hasWord "for" flat then forLoop (parenthesised headerLimit "for" stmt) else none

def whileLoop? : Rule := fun flat stmt =>
  if hasWord "while" flat && !hasWord "do" flat then whileLoop (parenthesised headerLimit "while" stmt) else none

def doWhile? : Rule := fun flat _ => if hasWord "do" flat && !hasWord "while" flat then doWhile else none

def switch? : Rule := fun flat stmt =>
  if hasWord "switch" flat then switch (parenthesised headerLimit "switch" stmt) else none

/-- The word does not follow a point; after one it is a method of a promise. -/
def clausePattern (w : String) : Pattern :=
  (start <|> .one fun c => c != '.' && !TextBlank.isBlank c) ++ gap ++ edge ++ word w ++ edge

def tryBlock? : Rule := fun flat _ =>
  if hasWord "try" flat && !(clausePattern "catch").found flat && !(clausePattern "finally").found flat then tryBlock
  else none

def catchParamPattern : Pattern := edge ++ "catch" ++ gap ++ "(" ++ gap ++ group 1 name

def catchBlock? : Rule := fun flat _ =>
  if (clausePattern "catch").found flat then
    catchBlock (((catchParamPattern.search flat).map (·.text 1)).getD "e")
  else none

def finallyBlock? : Rule := fun flat _ => if (clausePattern "finally").found flat then finallyBlock else none

def promise? (stage : PromiseStage) : Rule := fun flat _ =>
  if ("." ++ gap ++ word stage.method ++ gap ++ "(" : Pattern).found flat then promise stage else none

def iteratorPattern : Pattern :=
  group 1 name ++ gap ++ "." ++ gap
    ++ group 2 (choice ["forEach", "map", "filter", "reduce", "find", "some", "every"]) ++ gap ++ "("

def iterator? : Rule := fun flat _ => do
  let m ← iteratorPattern.search flat
  return iterator (m.text 1) (m.text 2)

def function? : Rule := fun flat _ => do
  let m ← (edge ++ "function" ++ plus blank ++ group 1 name ++ gap ++ "(" : Pattern).search flat
  return function (m.text 1)

/-- An arrow or a function literal stands in the statement. -/
def hasLiteral (flat : List Char) : Bool := (word "=>").found flat || hasWord "function" flat

def methodPattern : Pattern :=
  gap ++ reps (choice ["async", "static", "get", "set", "public", "private", "protected"] ++ plus blank)
    ++ group 1 name ++ gap ++ "(" ++ reps any ++ ")" ++ gap ++ stop

def method? : Rule := fun flat _ =>
  if hasLiteral flat then none
  else do
    let m ← methodPattern.matchStart flat
    if Token.keywords.contains (m.text 1) then none else some (method (m.text 1))

def namedArrow? : Rule := fun flat _ => do
  let m ← (edge ++ choice ["const", "let", "var"] ++ plus blank ++ group 1 name ++ gap ++ "=" ++ reps any ++ "=>"
    : Pattern).search flat
  return namedArrow (m.text 1)

def classBody? : Rule := fun flat _ => do
  let m ← (edge ++ "class" ++ plus blank ++ group 1 name : Pattern).search flat
  return classBody (m.text 1)

def callback? : Rule := fun flat _ => if hasLiteral flat then callback else none

/-- The rules in the order in which they are tried. -/
def rules : List Rule :=
  [event?, branch?, otherwise?, forOf?, forIn?, forLoop?, whileLoop?, doWhile?, switch?, tryBlock?, catchBlock?, finallyBlock?,
    promise? .resolved, promise? .rejected, promise? .settled, iterator?, function?, method?, namedArrow?, classBody?,
    callback?]

def ofStatement (stmt : List Token) : Owner :=
  let flat := (flattenBlanked stmt).toList
  (rules.findSome? fun rule => rule flat stmt).getD object

/-- The owner of a block from all tokens that precede its brace. -/
def classify (tokens : List Token) : Owner := ofStatement (pending tokens)

end Owner
end FlowSketch

import FlowSketch.PatternBuild
import FlowSketch.SystemsRegion

/-! How the lines of a systems source begin: construct headers, clause labels and function definitions. -/
namespace FlowSketch.SystemsHeader
open TextBlank SystemsRegion

inductive Header where
  | branch
  | forLoop
  | whileLoop
  | doLoop
  | switch
  deriving DecidableEq, Repr

def after? (lead : String) (line : Line) : Option Line :=
  if lead.toList.isPrefixOf line then some (line.drop lead.length) else none

/-- The word stands at the front and an opening parenthesis follows. -/
def calls (w : String) (line : Line) : Bool :=
  ((after? w line).map fun rest => (dropBlanks rest).head? == some '(').getD false

/-- What follows the word at the front, if the word ends there. -/
def afterWord? (w : String) (line : Line) : Option Line := do
  let rest ← after? w line
  if (rest.head?.map TextWord.isWord).getD false then none else some rest

def isElseIf (line : Line) : Bool :=
  ((after? "else" line).map fun rest => (rest.head?.map isBlank).getD false && calls "if" (dropBlanks rest)).getD false

def isBranch (line : Line) : Bool := calls "if" line || isElseIf line

/-- The construct that a line without blanks at its ends begins. -/
def header? (line : Line) : Option Header :=
  if isBranch line then some .branch
  else if calls "for" line then some .forLoop
  else if calls "while" line then some .whileLoop
  else if (afterWord? "do" line).isSome then some .doLoop
  else if calls "switch" line then some .switch
  else none

/-- The line from its first opening parenthesis. -/
def fromParenthesis (line : Line) : Line := line.dropWhile (· ≠ '(')

/-- The condition of a header, and the text after it. -/
def condition (line : Line) : Line × Line := parenthesised (fromParenthesis line)

/-- Whether a colon that stands alone is next. -/
def endsLabel (cs : Line) : Option Line :=
  match dropBlanks cs with
  | ':' :: rest => if rest.head? = some ':' then none else some rest
  | _ => none

/-- The shortest label of at least one character, and the text after its colon. -/
def shortestLabel : Line → Option (Line × Line)
  | [] => none
  | c :: cs =>
    if c = '\n' then none
    else match endsLabel cs with
      | some rest => some ([c], rest)
      | none => (shortestLabel cs).map fun r => (c :: r.1, r.2)

/-- The texts after one or more of the blanks in front, the shortest first. -/
def afterBlanks : Line → List Line
  | [] => []
  | c :: cs => if isBlank c then afterBlanks cs ++ [cs] else []

/-- The label of a case clause, and the text after it. -/
def caseLabel? (line : Line) : Option (Line × Line) := do
  (afterBlanks (← after? "case" line)).findSome? shortestLabel

def defaultLabel? (line : Line) : Option (Line × Line) := do
  match dropBlanks (← after? "default" line) with
  | ':' :: rest => some ("default".toList, rest)
  | _ => none

def clauseLabel? (line : Line) : Option (Line × Line) := caseLabel? line <|> defaultLabel? line

/-- A line that begins with a `break` statement. -/
def isBreak (line : Line) : Bool :=
  ((after? "break" (dropBlanks line)).map fun rest => (dropBlanks rest).head? == some ';').getD false

structure FunctionHeader where
  result : String
  name : String

open Pattern in
/-- Storage words, a result type, a name that may be qualified, and parameters. -/
def functionPattern : Pattern :=
  reps (choice ["static", "inline", "extern", "virtual"] ++ plus blank)
    ++ group 1 (reps (choice ["struct", "enum", "unsigned", "signed", "const", "long", "short"] ++ plus blank)
      ++ .one (fun c => c.isAlpha || c == '_') ++ reps (letter <|> ":") ++ opt ("<" ++ reps (noneOf "()") ++ ">"))
    ++ ((gap ++ plus (oneOf "*&") ++ gap) <|> plus blank)
    ++ group 2 (opt "~" ++ name ++ reps ("::" ++ opt "~" ++ name))
    ++ gap ++ "(" ++ reps (noneOf ")") ++ ")" ++ gap ++ opt ("const" ++ gap) ++ opt "\x7b" ++ stop

/-- Words that are no part of a function's type or name. -/
def reserved : List String :=
  ["if", "else", "while", "for", "switch", "do", "return", "case", "new", "delete", "throw", "goto", "sizeof"]

def function? (line : Line) : Option FunctionHeader := do
  let m ← functionPattern.matchStart line
  if reserved.contains (m.text 1) || reserved.contains (m.text 2) then none
  else some ⟨m.text 1, m.text 2⟩

def FunctionHeader.label (h : FunctionHeader) : String := h.result ++ " " ++ h.name ++ "()"

end FlowSketch.SystemsHeader

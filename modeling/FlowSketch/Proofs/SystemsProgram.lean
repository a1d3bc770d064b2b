import FlowSketch.Proofs.SystemsLines

/-!
# Structured programs

Fully braced programs of systems languages as trees, the lines on which they are written in two styles, and the
control flow that they stand for.
-/
namespace FlowSketch.SystemsProgram
open TextBlank SystemsRegion SystemsHeader SystemsFlow

/-- The text between the parentheses of a header. -/
structure Expression where
  chars : Line
  noBraces : NoBraces chars
  literals : ClosesLiterals chars
  balanced : Balanced chars

structure CaseLabel where
  chars : Line
  noBraces : NoBraces chars
  oneLine : '\n' ∉ chars
  noColon : ':' ∉ chars
  trimmed : Solid chars
  ne_nil : chars ≠ []

/-- A line of statements that no test takes for anything else. A line that begins with a break has nothing after it. -/
structure SimpleLine where
  chars : Line
  noBraces : NoBraces chars
  text : allBlank chars = false
  noHeader : header? (trim chars) = none
  noElse : elseAfter? chars = none
  noLabel : clauseLabel? (trim chars) = none
  onlyBreak : isBreak chars = true → ∃ b, Blank b ∧ trim chars = "break".toList ++ (b ++ [';'])

mutual

inductive Item where
  | line (s : SimpleLine)
  | branch (c : Expression) (body : List Item) (tail : Tail)
  | forLoop (h : Expression) (body : List Item)
  | whileLoop (c : Expression) (body : List Item)
  | doLoop (body : List Item) (c : Expression)
  | switch (e : Expression) (arms : List Arm)

/-- What follows the body of an if. -/
inductive Tail where
  | none
  | otherwise (body : List Item)
  | elseIf (c : Expression) (body : List Item) (tail : Tail)

inductive Arm where
  | case (l : CaseLabel) (body : List Item)
  | default (body : List Item)

end

/-! ### Lines -/

/-- Where an opening brace stands, and what follows a closing one: on the same line, or on a line of its own. -/
inductive Style where
  | sameLine
  | ownLine
  deriving DecidableEq, Repr

/-- A word with its parentheses. -/
def calling (w : String) (c : Line) : Line := w.toList ++ (" (".toList ++ (c ++ [')']))

def opening (style : Style) (head : Line) : List Line :=
  match style with
  | .sameLine => [head ++ " \x7b".toList]
  | .ownLine => [head, ['{']]

def turning (style : Style) (head : Line) : List Line :=
  match style with
  | .sameLine => ['}' :: (' ' :: head ++ " \x7b".toList)]
  | .ownLine => [['}'], head, ['{']]

def closing (style : Style) (tail : Line) : List Line :=
  match style with
  | .sameLine => ['}' :: ' ' :: tail]
  | .ownLine => [['}'], tail]

def labelLine (l : Line) : Line := "case ".toList ++ (l ++ [':'])

variable (style : Style) (dropBreaks : Bool)

mutual

def itemLines : Item → List Line
  | .line s => if dropBreaks && isBreak s.chars then [] else [s.chars]
  | .branch c body tail => opening style (calling "if" c.chars) ++ (lines body ++ tailLines tail)
  | .forLoop h body => opening style (calling "for" h.chars) ++ (lines body ++ [['}']])
  | .whileLoop c body => opening style (calling "while" c.chars) ++ (lines body ++ [['}']])
  | .doLoop body c => opening style "do".toList ++ (lines body ++ closing style (calling "while" c.chars ++ [';']))
  | .switch e arms => opening style (calling "switch" e.chars) ++ (armLines arms ++ [['}']])

/-- The lines of a program, with or without its breaks. -/
def lines : List Item → List Line
  | [] => []
  | i :: is => itemLines i ++ lines is

def tailLines : Tail → List Line
  | .none => [['}']]
  | .otherwise body => turning style "else".toList ++ (lines body ++ [['}']])
  | .elseIf c body tail => turning style (calling "else if" c.chars) ++ (lines body ++ tailLines tail)

def armLines : List Arm → List Line
  | [] => []
  | .case l body :: arms => labelLine l.chars :: (lines body ++ armLines arms)
  | .default body :: arms => "default:".toList :: (lines body ++ armLines arms)

end

/-- Lines with any indentation. -/
def Shows (ls parts : List Line) : Prop := List.Forall₂ (fun l part => ∃ b, Blank b ∧ l = b ++ part) ls parts

/-! ### Control flow -/

mutual

def itemNodes : Item → List Node
  | .line s => stepNodes (trim s.chars)
  | .branch c body tail => [.decision (clipped 60 c.chars) (nodes body) (tailNodes tail)]
  | .forLoop h body => [.loop (forLabel h.chars) "for" (nodes body)]
  | .whileLoop c body => [.loop ("While: " ++ clipped 40 c.chars) "while" (nodes body)]
  | .doLoop body _ => [.loop "do...while loop" "do-while" (nodes body)]
  | .switch e arms => [.switch ("Switch on " ++ clipped 30 e.chars) (armCases arms)]

/-- The control flow of a program. -/
def nodes : List Item → List Node
  | [] => []
  | i :: is => itemNodes i ++ nodes is

def tailNodes : Tail → List Node
  | .none => []
  | .otherwise body => nodes body
  | .elseIf c body tail => [.decision (clipped 60 c.chars) (nodes body) (tailNodes tail)]

def armCases : List Arm → List Case
  | [] => []
  | .case l body :: arms => ⟨text l.chars, nodes body⟩ :: armCases arms
  | .default body :: arms => ⟨"default", nodes body⟩ :: armCases arms

end

end FlowSketch.SystemsProgram

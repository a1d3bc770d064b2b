import FlowSketch.ScriptToken

/-! Lines of scripts: code, comments, texts that stand alone, blank lines. Lines are stripped and taken in groups that
are complete: a group goes on while a bracket or a string is open. -/
namespace FlowSketch.ScriptLines
open TextBlank

/-- A token as far as lines are concerned. A text says whether it ends on the line on which it begins; line ends are
tokens where a continued line is empty. -/
inductive Mark where
  | comment
  | text (oneLine : Bool)
  | colon
  | semicolon
  | lineEnd
  | other
  deriving DecidableEq

/-- Whether a text with a single quote ends on its first line, and what follows it. It goes on after a line whose end is
escaped, and from then on after every line with a backslash at its end. -/
def afterSingle (q : Char) : Bool → List Char → Option (Bool × List Char)
  | _, [] => none
  | _, '\\' :: '\n' :: cs => afterSingle q true cs
  | true, '\\' :: '\\' :: '\n' :: cs => afterSingle q true cs
  | continued, '\\' :: _ :: cs => afterSingle q continued cs
  | continued, c :: cs =>
    if c = q then some (!continued, cs) else if c = '\n' then none else afterSingle q continued cs

def afterText (o : ScriptLiteral.Opening) (cs : List Char) : Option (Bool × List Char) :=
  if o.tripled then (o.body? cs).map fun r => (!r.1.contains '\n', r.2) else afterSingle o.quote false cs

/-- A token at the front that is no comment, and the text after it. -/
def mark? (cs : List Char) : Option (Mark × List Char) :=
  match ScriptLiteral.opening? cs with
  | some (o, rest) => (afterText o rest).map fun r => (.text r.1, r.2)
  | none =>
    match ScriptLiteral.number? cs with
    | some (_, rest) => some (.other, rest)
    | none =>
      if (cs.head?.map TextWord.isWord).getD false then some (.other, cs.dropWhile TextWord.isWord)
      else (ScriptToken.operator? cs).map fun op =>
        (if op = [':'] then .colon else if op = [';'] then .semicolon else .other, cs.drop op.length)

def bracketsAfter (brackets : Int) (c : Char) : Int :=
  if "([\x7b".toList.contains c then brackets + 1
  else if ")]\x7d".toList.contains c then brackets - 1
  else brackets

/-- The tokens of a group, if it is complete; `brackets` counts those open, and after a continued line there must be
another one. -/
def marksFrom : Nat → Int → Bool → List Char → Option (List Mark)
  | 0, _, _, _ => none
  | _, brackets, continued, [] => if brackets = 0 && !continued then some [] else none
  | fuel + 1, brackets, continued, c :: cs =>
    if ScriptToken.isSpace c then marksFrom fuel brackets continued cs
    else if c = '\n' then do
      let later ← marksFrom fuel brackets false cs
      return if continued then .lineEnd :: later else later
    else if c = '#' then do
      return .comment :: (← marksFrom fuel brackets false (cs.dropWhile (· ≠ '\n')))
    else if c = '\\' then
      match cs with
      | '\n' :: rest => marksFrom fuel brackets true rest
      | _ => none
    else do
      let (m, rest) ← mark? (c :: cs)
      return m :: (← marksFrom fuel (bracketsAfter brackets c) false rest)

def marks? (group : List Char) : Option (List Mark) := marksFrom (group.length + 1) 0 false group

def groupMarks? (lines : List (List Char)) : Option (List Mark) := marks? (List.intercalate ['\n'] lines)

/-- Adds lines to a group until it is complete: its lines, its tokens, and the lines after it. -/
def complete? (lines : List (List Char)) : List (List Char) → Option (List (List Char) × List Mark × List (List Char))
  | [] => (groupMarks? lines).map fun ms => (lines, ms, [])
  | l :: ls =>
    match groupMarks? lines with
    | some ms => some (lines, ms, l :: ls)
    | none => complete? (lines ++ [l]) ls

structure Group where
  lines : List (List Char)
  marks : List Mark

/-- The groups of a list of lines, if the last one is complete. -/
def groupsFrom : Nat → List (List Char) → Option (List Group)
  | 0, _ => none
  | _, [] => some []
  | fuel + 1, l :: ls => do
    let (lines, marks, later) ← complete? [l] ls
    return ⟨lines, marks⟩ :: (← groupsFrom fuel later)

/-- Counts of lines; logical lines are counted apart from the others. -/
structure Counts where
  logical : Nat
  code : Nat
  comments : Nat
  loneComments : Nat
  texts : Nat
  blank : Nat

def Counts.zero : Counts := ⟨0, 0, 0, 0, 0, 0⟩

def Counts.add (a b : Counts) : Counts :=
  ⟨a.logical + b.logical, a.code + b.code, a.comments + b.comments, a.loneComments + b.loneComments,
    a.texts + b.texts, a.blank + b.blank⟩

/-- All lines. -/
def Counts.all (c : Counts) : Nat := c.code + c.blank + c.texts + c.loneComments

/-- The parts between separators. -/
def splitAt (separator : Mark) : List Mark → List (List Mark)
  | [] => [[]]
  | m :: ms => if m = separator then [] :: splitAt separator ms else (splitAt separator ms).modifyHead (m :: ·)

/-- How many tokens follow the last colon. -/
def afterColon? (ms : List Mark) : Option Nat :=
  if ms.contains .colon then some (ms.reverse.takeWhile (· ≠ .colon)).length else none

/-- Logical lines of a part between semicolons. A colon parts a header from its statement, unless nothing follows it;
in a part with another one after it, unless a single token does. -/
def logicalOfPart (last : Bool) (part : List Mark) : Nat :=
  let ms := part.filter fun m => m ≠ .comment && m ≠ .lineEnd
  match afterColon? ms with
  | some n => if n = (if last then 0 else 1) then 1 else 2
  | none => if ms.isEmpty then 0 else 1

def logicalOfParts : List (List Mark) → Nat
  | [] => 0
  | [p] => logicalOfPart true p
  | p :: ps => logicalOfPart false p + logicalOfParts ps

def filled (lines : List (List Char)) : Nat := lines.countP fun l => !l.isEmpty

def empty (lines : List (List Char)) : Nat := lines.countP fun l => l.isEmpty

/-- The token of a group that has no other one, line ends after it aside. -/
def Group.lone? (g : Group) : Option Mark :=
  match g.marks with
  | m :: ms => if ms.all (· = .lineEnd) then some m else none
  | [] => none

def Group.counts (g : Group) : Counts :=
  let logical := logicalOfParts (splitAt .semicolon g.marks)
  let comments := g.marks.count .comment
  match g.lone? with
  | some .comment => ⟨logical, 0, comments, 1, 0, 0⟩
  | some (.text true) => ⟨logical, 0, comments, 1, 0, 0⟩
  | some (.text false) => ⟨logical, 0, comments, 0, filled g.lines, empty g.lines⟩
  | _ => ⟨logical, filled g.lines, comments, 0, 0, empty g.lines⟩

/-- The counts of a source, unless its last group is never complete. -/
def ofSource (source : List Char) : Option Counts := do
  let lines := (textLines source).map trim
  let groups ← groupsFrom (lines.length + 1) lines
  return groups.foldl (fun c g => c.add g.counts) .zero

end FlowSketch.ScriptLines

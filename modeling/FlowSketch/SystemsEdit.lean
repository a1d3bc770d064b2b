import FlowSketch.SystemsFlow

/-! Cuts at a position of a list of lines, with the list as the cut leaves it. -/
namespace FlowSketch.SystemsEdit
open TextBlank SystemsRegion SystemsHeader SystemsFlow

inductive EditError where
  /-- There is no line to read at the position. -/
  | noLine
  /-- There is no line at the position to put the text after a header in. -/
  | noLineToReplace
  /-- The line of a chain has no condition. -/
  | noCondition
  deriving DecidableEq, Repr

def EditError.message : EditError → String
  | noLine => "list index out of range"
  | noLineToReplace => "list assignment index out of range"
  | noCondition => "substring not found"

/-- What was taken, the position after it, and all lines as they now stand. -/
structure Edit (α : Type) where
  taken : α
  next : Nat
  lines : List Line

def edit {α : Type} (lines : List Line) (i : Nat) (taken : α) (passed rest : List Line) : Edit α :=
  ⟨taken, i + passed.length, lines.take i ++ passed ++ rest⟩

def blockAt (lines : List Line) (i : Nat) : Edit (List Line) :=
  edit lines i (block (lines.drop i)).body (block (lines.drop i)).passed (block (lines.drop i)).rest

/-- The body of the construct at a position; behind the last line there can still be text after a header. -/
def bodyAt (lines : List Line) (i : Nat) (after : Line) : Except EditError (Edit (List Line)) :=
  match lines.drop i with
  | header :: following =>
    let cut := bodyAfter header after following
    .ok (edit lines i cut.body cut.passed cut.rest)
  | [] =>
    if (trim after).head? = some '{' then .error .noLineToReplace
    else if trim after = [';'] || trim after = [] then .ok ⟨[], i + 1, lines⟩
    else .ok ⟨[trim after], i + 1, lines⟩

def chainAt (lines : List Line) (i : Nat) : Except EditError (Edit (List Node)) :=
  match lines.drop i with
  | [] => .error .noLine
  | header :: following =>
    if header.contains '(' then
      let c := chain header following
      .ok (edit lines i (decisions c.branches c.otherwise) c.passed c.rest)
    else .error .noCondition

def nodesAt (lines : List Line) (i : Nat) : List Node := nodesOf (lines.drop i)

end FlowSketch.SystemsEdit

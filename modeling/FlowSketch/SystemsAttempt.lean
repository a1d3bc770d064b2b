import FlowSketch.Attempt

/-! The control flow of systems languages, read at positions of a list of lines that is rewritten while it is read. Each
look at a line, a part or a condition fails when there is none, and reading goes on as long as there is fuel. -/
namespace FlowSketch.SystemsAttempt
open TextBlank SystemsRegion SystemsHeader SystemsFlow SystemsEdit

def lineAt (lines : List Line) (i : Nat) : Attempt Line := .get (.edit .noLine) lines[i]?

def replaceLine (lines : List Line) (i : Nat) (line : Line) : Attempt (List Line) :=
  if i < lines.length then pure (lines.set i line) else throw (.edit .noLineToReplace)

def partAt (parts : List Line) (i : Nat) : Attempt Line := .get .noPart parts[i]?

/-- The condition of a header, which has to have a parenthesis, and the text after it. -/
def conditionOf (line : Line) : Attempt (Line × Line) :=
  if line.contains '(' then pure (condition line) else throw (.edit .noCondition)

/-- The first position from `i` on of a line with an opening brace. -/
def braceFrom (lines : List Line) (i : Nat) : Attempt Nat :=
  if i < lines.length then do
    if (← lineAt lines i).contains '{' then pure i else braceFrom lines (i + 1)
  else pure i
termination_by lines.length - i

/-- Reads on in a region, of which `body` has been read. -/
def regionFrom (lines body : List Line) (depth : Int) (started : Bool) (i : Nat) : Attempt (Edit (List Line)) :=
  if i < lines.length then do
    match scan depth started (← lineAt lines i) with
    | .closed piece after =>
      match leftover after with
      | some rest => return ⟨body ++ kept piece, i, ← replaceLine lines i rest⟩
      | none => pure ⟨body ++ kept piece, i + 1, lines⟩
    | .inside piece d s => regionFrom lines (body ++ kept piece) d s (i + 1)
  else pure ⟨body, i, lines⟩
termination_by lines.length - i

def takeBlock (lines : List Line) (i : Nat) : Attempt (Edit (List Line)) := do
  regionFrom lines [] 0 false (← braceFrom lines i)

/-- The first position from `i` on of a line that is not blank. -/
def codeFrom (lines : List Line) (i : Nat) : Attempt Nat :=
  if i < lines.length then do
    if allBlank (← lineAt lines i) then codeFrom lines (i + 1) else pure i
  else pure i
termination_by lines.length - i

/-- The body of the construct on line `i`, with the text after its header. -/
def takeBody (lines : List Line) (i : Nat) (after : Line) : Attempt (Edit (List Line)) :=
  if (trim after).head? = some '{' then do
    takeBlock (← replaceLine lines i (trim after)) i
  else if trim after = [';'] then pure ⟨[], i + 1, lines⟩
  else if trim after ≠ [] then pure ⟨[trim after], i + 1, lines⟩
  else do
    let j ← codeFrom lines (i + 1)
    if lines.length ≤ j then pure ⟨[], j, lines⟩
    else if (trim (← lineAt lines j)).head? = some '{' then takeBlock lines j
    else return ⟨[← lineAt lines j], j + 1, lines⟩

/-- The position behind a do loop that ends at `i`; a while that closes it is passed. -/
def passWhile (lines : List Line) (i : Nat) : Attempt Nat := do
  let j ← codeFrom lines i
  if j < lines.length then
    if calls "while" (trim (← lineAt lines j)) then pure (j + 1) else pure i
  else pure i

/-- The label of a for loop; the second part of a header is looked at if there are three. -/
def forLabelOf (inner : Line) : Attempt String := do
  let parts := cut ';' inner
  let test ← if 3 ≤ parts.length then (clipped 40 ·) <$> partAt parts 1 else pure ""
  return "For: " ++ if test.isEmpty then "condition" else test

/-- The text before the first separator and the text after it, if there is one. -/
def cutOnce (separator : Char) (cs : Line) : List Line :=
  if cs.contains separator then [cs.takeWhile (· ≠ separator), (cs.dropWhile (· ≠ separator)).drop 1] else [cs]

/-- The label that a line of a switch body begins outside of braces. -/
def labelAt (depth : Nat) (text : Line) : Attempt (Option (Line × Line)) :=
  if depth = 0 then
    match caseLabel? text with
    | some label => pure (some label)
    | none =>
      if (defaultLabel? text).isSome then return some ("default".toList, ← partAt (cutOnce ':' text) 1) else pure none
  else pure none

/-- A line that begins no clause goes to the last clause, if there is one. -/
def addToLast (line : Line) : List Clause → List Clause
  | [] => []
  | [c] => [{ c with lines := c.lines ++ [line] }]
  | c :: cs => c :: addToLast line cs

def clausesAfter (clauses : List Clause) (depth : Nat) : List Line → Attempt (List Clause)
  | [] => pure clauses
  | line :: lines => do
    match ← labelAt depth (trim line) with
    | some (label, after) => clausesAfter (clauses ++ [⟨label, firstLine after⟩]) (depthAfter depth line) lines
    | none => clausesAfter (addToLast line clauses) (depthAfter depth line) lines

mutual

/-- The nodes of the lines from `i` on. -/
def nodesFrom : Nat → List Line → Nat → Attempt (List Node)
  | 0, _, _ => .cutOff
  | fuel + 1, lines, i =>
    if i < lines.length then do
      let line := trim (← lineAt lines i)
      if isFiller line then nodesFrom fuel lines (i + 1)
      else
        match header? line with
        | some .branch => do
          let chain ← chainFrom fuel lines i
          return chain.taken ++ (← nodesFrom fuel chain.lines chain.next)
        | some .forLoop => do
          let (inner, after) ← conditionOf line
          let label ← forLabelOf inner
          let body ← takeBody lines i after
          let loop := Node.loop label "for" (← nodesFrom fuel body.taken 0)
          return loop :: (← nodesFrom fuel body.lines body.next)
        | some .whileLoop => do
          let (inner, after) ← conditionOf line
          let body ← takeBody lines i after
          let loop := Node.loop ("While: " ++ clipped 40 inner) "while" (← nodesFrom fuel body.taken 0)
          return loop :: (← nodesFrom fuel body.lines body.next)
        | some .doLoop => do
          let body ← takeBody lines i (afterDoWord line)
          let next ← passWhile body.lines body.next
          let loop := Node.loop "do...while loop" "do-while" (← nodesFrom fuel body.taken 0)
          return loop :: (← nodesFrom fuel body.lines next)
        | some .switch => do
          let (inner, after) ← conditionOf line
          let body ← takeBody lines i after
          let switch := Node.switch ("Switch on " ++ clipped 30 inner) (← casesOf fuel body.taken)
          return switch :: (← nodesFrom fuel body.lines body.next)
        | none => return stepNodes line ++ (← nodesFrom fuel lines (i + 1))
    else pure []

/-- The decision of the chain on line `i`. -/
def chainFrom : Nat → List Line → Nat → Attempt (Edit (List Node))
  | 0, _, _ => .cutOff
  | fuel + 1, lines, i => do
    let (inner, after) ← conditionOf (trim (← lineAt lines i))
    let body ← takeBody lines i after
    let yes ← nodesFrom fuel body.taken 0
    let decision (no : List Node) : List Node := [.decision (clipped 60 inner) yes no]
    let j ← codeFrom body.lines body.next
    if j < body.lines.length then
      let next := trim (← lineAt body.lines j)
      if isElseIf next then
        let later ← chainFrom fuel body.lines j
        return ⟨decision later.taken, later.next, later.lines⟩
      else
        match afterWord? "else" next with
        | some after =>
          let otherwise ← takeBody body.lines j after
          return ⟨decision (← nodesFrom fuel otherwise.taken 0), otherwise.next, otherwise.lines⟩
        | none => return ⟨decision [], body.next, body.lines⟩
    else return ⟨decision [], body.next, body.lines⟩

/-- The cases of a switch body. -/
def casesOf : Nat → List Line → Attempt (List Case)
  | 0, _ => .cutOff
  | fuel + 1, lines => do
    (← clausesAfter [] 0 lines).mapM fun c => return ⟨text c.label, ← nodesFrom fuel c.code 0⟩

end

/-- The nodes of a source from line `i` on, of which the lines outside of functions since the last one are `loose`. -/
def functionsFrom : Nat → List Line → List Line → Nat → Attempt (List Node)
  | 0, _, _, _ => .cutOff
  | fuel + 1, lines, loose, i =>
    if i < lines.length then do
      match function? (trim (← lineAt lines i)) with
      | some header => do
        let before ← nodesFrom fuel loose 0
        let body ← takeBlock lines i
        let function := Node.function header.label (← nodesFrom fuel body.taken 0)
        return before ++ function :: (← functionsFrom fuel body.lines [] body.next)
      | none => functionsFrom fuel lines (loose ++ [← lineAt lines i]) (i + 1)
    else nodesFrom fuel loose 0

def ofSource (fuel : Nat) (code : String) : Attempt (List Node) :=
  functionsFrom fuel (cut '\n' (SystemsComment.strip code.toList)) [] 0

end FlowSketch.SystemsAttempt

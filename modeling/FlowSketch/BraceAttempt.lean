import FlowSketch.Attempt
import FlowSketch.BraceFlow
import FlowSketch.TextWord

/-! Brace languages, read with the failures of the reading: a lexer that takes the digits of every script for the
beginning of a number, and a fold that goes by the names of owners and by positions of blocks. -/
namespace FlowSketch.BraceAttempt
open BraceLexer BraceFlow

/-! ### Tokens -/

/-- A number has characters of ASCII only, and none if it begins with another digit. -/
def lexemeAt (c : Char) (cs : List Char) : Lexeme :=
  if TextWord.isDigit c then
    ⟨some .number, ⟨(c :: cs).takeWhile isNumberChar, 0, (c :: cs).dropWhile isNumberChar⟩⟩
  else lexeme c cs

/-- The lexer never fails, but it does not end where a lexeme takes no character. -/
def tokensFrom : Nat → Nat → List Char → Option (List Token)
  | 0, _, _ => none
  | _, _, [] => some []
  | fuel + 1, line, c :: cs => do
    let l := lexemeAt c cs
    return (l.token? line).toList ++ (← tokensFrom fuel (line + l.read.lines) l.read.rest)

def tokens (fuel : Nat) (code : String) : Option (List Token) := tokensFrom fuel 1 code.toList

/-! ### Blocks -/

def loopKinds : List String := ["for", "for-of", "for-in", "while", "do-while", "iterator"]

def promiseKinds : List String := ["then", "promise-catch", "promise-finally"]

/-- Clauses that are passed over where they join with nothing. -/
def clauseKinds : List String := ["else", "catch", "finally"]

def blockAt (blocks : List Block) (i : Nat) : Attempt Block := .get .noBlock blocks[i]?

/-- A part that the owner has to name. -/
def ownerPart (owner : Owner) (key : String) : Attempt String := .get (.noOwnerPart key) (owner.parts.lookup key)

mutual

def build : Nat → Block → Attempt (List Node)
  | 0, _ => .cutOff
  | fuel + 1, b => assembleFrom fuel (stepsOf b.tokens) b.children

def assembleFrom : Nat → List Step → List Block → Attempt (List Node)
  | 0, _, _ => .cutOff
  | fuel + 1, steps, blocks => do
    return (steps.filter fun s => !s.isTerminal).map Node.step ++ (← foldFrom fuel blocks 0)
      ++ (steps.filter Step.isTerminal).map Node.step

/-- The nodes of the blocks from `i` on. -/
def foldFrom : Nat → List Block → Nat → Attempt (List Node)
  | 0, _, _ => .cutOff
  | fuel + 1, blocks, i =>
    if i < blocks.length then do
      let b ← blockAt blocks i
      if ["if", "else-if"].contains b.owner.kind then
        let (node, next) ← chainFrom fuel blocks i
        return node :: (← foldFrom fuel blocks next)
      else if b.owner.kind = "try" then
        let (node, next) ← tryFrom fuel blocks i
        return node :: (← foldFrom fuel blocks next)
      else return (← nodesOf fuel b) ++ (← foldFrom fuel blocks (i + 1))
    else pure []

/-- The nodes of a block that joins with none beside it. -/
def nodesOf : Nat → Block → Attempt (List Node)
  | 0, _ => .cutOff
  | fuel + 1, b => do
    if clauseKinds.contains b.owner.kind then pure []
    else if loopKinds.contains b.owner.kind then return [.loop b.owner.label b.owner.kind (← build fuel b)]
    else if b.owner.kind = "switch" then
      return [.switch b.owner.label (← casesFrom fuel b.tokens.length b.children (clausesFrom 0 b.tokens).2)]
    else if b.owner.kind = "on-event" then
      let subject ← ownerPart b.owner "obj"
      let name ← ownerPart b.owner "event"
      return [.event subject name b.owner.label (← build fuel b)]
    else if promiseKinds.contains b.owner.kind then return [.promise b.owner.label (← build fuel b)]
    else if ["function", "method"].contains b.owner.kind then return [.function b.owner.label (← build fuel b)]
    else build fuel b

/-- The decision of the chain at `i`, and the position behind the chain. -/
def chainFrom : Nat → List Block → Nat → Attempt (Node × Nat)
  | 0, _, _ => .cutOff
  | fuel + 1, blocks, i => do
    let b ← blockAt blocks i
    let yes ← build fuel b
    let (no, next) ← elseFrom fuel blocks (i + 1)
    return (.decision b.owner.label yes no, next)

/-- The no side of a chain that goes on at `i`, and the position behind the chain. -/
def elseFrom : Nat → List Block → Nat → Attempt (List Node × Nat)
  | 0, _, _ => .cutOff
  | fuel + 1, blocks, i =>
    if i < blocks.length then do
      let b ← blockAt blocks i
      if b.owner.kind = "else-if" then
        let yes ← build fuel b
        let (no, next) ← elseFrom fuel blocks (i + 1)
        return ([.decision b.owner.label yes no], next)
      else if b.owner.kind = "else" then return (← build fuel b, i + 1)
      else pure ([], i)
    else pure ([], i)

/-- The try with its clauses at `i`, and the position behind them. -/
def tryFrom : Nat → List Block → Nat → Attempt (Node × Nat)
  | 0, _, _ => .cutOff
  | fuel + 1, blocks, i => do
    let body ← build fuel (← blockAt blocks i)
    let ((param, handler), i) ← catchFrom fuel blocks (i + 1)
    let (final, i) ← finallyFrom fuel blocks i
    return (.tryCatch body param handler final, i)

def catchFrom : Nat → List Block → Nat → Attempt ((String × List Node) × Nat)
  | 0, _, _ => .cutOff
  | fuel + 1, blocks, i =>
    if i < blocks.length then do
      let b ← blockAt blocks i
      if b.owner.kind = "catch" then return (((b.owner.parts.lookup "param").getD "e", ← build fuel b), i + 1)
      else pure (("e", []), i)
    else pure (("e", []), i)

def finallyFrom : Nat → List Block → Nat → Attempt (List Node × Nat)
  | 0, _, _ => .cutOff
  | fuel + 1, blocks, i =>
    if i < blocks.length then do
      let b ← blockAt blocks i
      if b.owner.kind = "finally" then return (← build fuel b, i + 1)
      else pure ([], i)
    else pure ([], i)

def casesFrom : Nat → Nat → List Block → List Clause → Attempt (List Case)
  | 0, _, _, _ => .cutOff
  | _, _, _, [] => pure []
  | fuel + 1, count, blocks, c :: cs => do
    let stop := (cs.head?.map Clause.start).getD (count + 1)
    let own := blocks.filter fun b => c.start ≤ b.anchor && b.anchor < stop
    let body ← assembleFrom fuel (stepsOf c.tokens) own
    return ⟨c.label, body⟩ :: (← casesFrom fuel count blocks cs)

end

def ofSource (fuel : Nat) (code : String) : Attempt (List Node) := do
  build fuel (Block.ofTokens (← tokens fuel code))

end FlowSketch.BraceAttempt

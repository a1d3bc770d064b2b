import FlowSketch.BraceActions
import FlowSketch.BraceBlock
import FlowSketch.BraceLexer

/-! The control flow of brace languages, folded from the block tree. In every list the plain steps come first, then
the constructs, then the steps that leave. -/
namespace FlowSketch.BraceFlow

def depthAfter (depth : Nat) (t : Token) : Nat :=
  if t.isOpen then depth + 1 else if t.isClose then depth - 1 else depth

/-- Cuts after semicolons and newlines outside parentheses; `current` is the statement being read. -/
def statementsFrom (current : List Token) (depth : Nat) : List Token → List (List Token)
  | [] => if current.all Token.isNewline then [] else [current]
  | t :: ts =>
    let read := current ++ [t]
    if depthAfter depth t = 0 && (t.isSemicolon || (t.isNewline && !read.all Token.isNewline)) then
      read :: statementsFrom [] 0 ts
    else statementsFrom read (depthAfter depth t) ts

def statements (tokens : List Token) : List (List Token) := statementsFrom [] 0 tokens

/-- The statement as text without spaces. -/
def compact (tokens : List Token) : String := String.join ((BraceStatement.visible tokens).map Token.text)

/-- Keeps the first step of each label. -/
def firstByLabel (seen : List String) : List Step → List Step
  | [] => []
  | s :: ss => if seen.contains s.label then firstByLabel seen ss else s :: firstByLabel (s.label :: seen) ss

/-- The steps of a block's own statements. -/
def stepsOf (tokens : List Token) : List Step :=
  firstByLabel [] ((statements tokens).filterMap fun s => BraceActions.stepOf (compact s))

/-- What a block contributes to the list around it: nodes, or a clause that joins with its neighbours. -/
inductive Part where
  | branch (condition : String) (body : List Node)
  | elseBranch (condition : String) (body : List Node)
  | otherwise (body : List Node)
  | tryBlock (body : List Node)
  | catchBlock (param : String) (body : List Node)
  | finallyBlock (body : List Node)
  | nodes (ns : List Node)

/-- The longest chain of else clauses at the front, as the list of the no side, and what follows it. -/
def elseChain : List Part → List Node × List Part
  | .elseBranch c body :: ps => ([.decision c body (elseChain ps).1], (elseChain ps).2)
  | .otherwise body :: ps => (body, ps)
  | ps => ([], ps)

/-- A catch clause at the front. -/
def catchClause : List Part → (String × List Node) × List Part
  | .catchBlock p body :: ps => ((p, body), ps)
  | ps => (("e", []), ps)

/-- A finally clause at the front. -/
def finallyClause : List Part → List Node × List Part
  | .finallyBlock body :: ps => (body, ps)
  | ps => ([], ps)

theorem elseChain_length (ps : List Part) : (elseChain ps).2.length ≤ ps.length := by
  fun_induction elseChain ps with
  | case1 _ _ _ ih => exact Nat.le_succ_of_le ih
  | case2 => simp
  | case3 => exact Nat.le_refl _

theorem catchClause_length (ps : List Part) : (catchClause ps).2.length ≤ ps.length := by
  unfold catchClause; split <;> simp

theorem finallyClause_length (ps : List Part) : (finallyClause ps).2.length ≤ ps.length := by
  unfold finallyClause; split <;> simp

/-- Joins neighbouring clauses to decisions and try blocks. A clause without its head is dropped. -/
def join : List Part → List Node
  | [] => []
  | .branch c body :: ps =>
    have := elseChain_length ps
    .decision c body (elseChain ps).1 :: join (elseChain ps).2
  | .elseBranch c body :: ps =>
    have := elseChain_length ps
    .decision c body (elseChain ps).1 :: join (elseChain ps).2
  | .tryBlock body :: ps =>
    have := catchClause_length ps
    have := finallyClause_length (catchClause ps).2
    .tryCatch body (catchClause ps).1.1 (catchClause ps).1.2 (finallyClause (catchClause ps).2).1
      :: join (finallyClause (catchClause ps).2).2
  | .otherwise _ :: ps => join ps
  | .catchBlock _ _ :: ps => join ps
  | .finallyBlock _ :: ps => join ps
  | .nodes ns :: ps => ns ++ join ps
termination_by ps => ps.length
decreasing_by all_goals simp_wf <;> omega

/-- Plain steps, then the constructs, then the steps that leave. -/
def assemble (steps : List Step) (parts : List Part) : List Node :=
  (steps.filter fun s => !s.isTerminal).map Node.step ++ join parts ++ (steps.filter Step.isTerminal).map Node.step

/-- A case of a switch: where its keyword stands among the tokens, and the tokens up to the next case. -/
structure Clause where
  label : String
  start : Nat
  tokens : List Token

def clauseLabel (keyword : Token) (tokens : List Token) : String :=
  BraceStatement.spaced
    ((if keyword.isKeyword "default" then ["default"] else []) ++ (BraceStatement.visible tokens).map Token.text)

/-- The tokens before the first case, and the cases; `index` is the position of the first token. -/
def clausesFrom (index : Nat) : List Token → List Token × List Clause
  | [] => ([], [])
  | t :: ts =>
    if t.isCaseWord then
      let label := ts.takeWhile fun u => !u.isOperator ":"
      let later := clausesFrom (index + label.length + 2) (ts.drop (label.length + 1))
      ([], ⟨clauseLabel t label, index, later.1⟩ :: later.2)
    else
      let later := clausesFrom (index + 1) ts
      (t :: later.1, later.2)
termination_by ts => ts.length
decreasing_by all_goals (simp only [List.length_cons, List.length_drop]; omega)

/-- Each case gets the parts whose blocks opened between its keyword and the next one's. -/
def casesFrom (count : Nat) (parts : List (Nat × Part)) : List Clause → List Case
  | [] => []
  | c :: cs =>
    let stop := (cs.head?.map Clause.start).getD (count + 1)
    let own := (parts.filter fun p => c.start ≤ p.1 && p.1 < stop).map Prod.snd
    ⟨c.label, assemble (stepsOf c.tokens) own⟩ :: casesFrom count parts cs

/-- The part of a block, from the parts of the blocks in it with their anchors. -/
def partOf (owner : Owner) (tokens : List Token) (parts : List (Nat × Part)) : Part :=
  let body := assemble (stepsOf tokens) (parts.map Prod.snd)
  match owner with
  | .branch _ => .branch owner.label body
  | .elseBranch _ => .elseBranch owner.label body
  | .otherwise => .otherwise body
  | .tryBlock => .tryBlock body
  | .catchBlock p => .catchBlock p body
  | .finallyBlock => .finallyBlock body
  | .forOf _ | .forIn | .forLoop _ | .whileLoop _ | .doWhile | .iterator _ _ =>
    .nodes [.loop owner.label owner.kind body]
  | .switch _ => .nodes [.switch owner.label (casesFrom tokens.length parts (clausesFrom 0 tokens).2)]
  | .event s _ n => .nodes [.event s n owner.label body]
  | .promise _ => .nodes [.promise owner.label body]
  | .function _ | .method _ => .nodes [.function owner.label body]
  | .root | .namedArrow _ | .classBody _ | .callback | .object => .nodes body

mutual

/-- What a block contributes to the list around it. -/
def part : Block → Part
  | ⟨owner, tokens, children, _, _, _⟩ => partOf owner tokens (anchoredParts children)

/-- The parts of a list of blocks with their anchors. -/
def anchoredParts : List Block → List (Nat × Part)
  | [] => []
  | b :: bs => (b.anchor, part b) :: anchoredParts bs

end

/-- The nodes of a block's own statements and of the blocks in it. -/
def ofBlock (b : Block) : List Node := assemble (stepsOf b.tokens) ((anchoredParts b.children).map Prod.snd)

def ofSource (code : String) : List Node := ofBlock (Block.ofTokens (BraceLexer.tokens code))

end FlowSketch.BraceFlow

import FlowSketch.ScriptSyntax

/-! Operators and operands of scripts, and the volume they make. -/
namespace FlowSketch.ScriptVolume

/-- What makes two operands the same: a name, an attribute and a text of one spelling are, and so are equal numbers;
any other operand is like no second one. -/
inductive Key where
  | text (points : List Nat)
  | constant (c : ScriptConstant)
  | unique
  deriving DecidableEq

def points (s : String) : List Nat := s.toList.map Char.toNat

def keyOf : ScriptExpr → Key
  | .name id => .text (points id)
  | .attribute _ attr => .text (points attr)
  | .constant (.text ps) => .text ps
  | .constant c => .constant c
  | _ => .unique

/-- An operand in the function around it. -/
structure Operand where
  context : Option String
  key : Key
  deriving DecidableEq

/-- Every use of an operator and of an operand. -/
structure Uses where
  operators : List ScriptOperator
  operands : List Operand

def Uses.none : Uses := ⟨[], []⟩

def Uses.append (a b : Uses) : Uses := ⟨a.operators ++ b.operators, a.operands ++ b.operands⟩

instance : Append Uses := ⟨Uses.append⟩

def use (context : Option String) (ops : List ScriptOperator) (operands : List ScriptExpr) : Uses :=
  ⟨ops, operands.map fun e => ⟨context, keyOf e⟩⟩

mutual

def ofExpr (context : Option String) : ScriptExpr → Uses
  | .name _ => .none
  | .constant _ => .none
  | .attribute value _ => ofExpr context value
  | .binary op left right => use context [op] [left, right] ++ ofExpr context left ++ ofExpr context right
  | .unary op operand => use context [op] [operand] ++ ofExpr context operand
  | .logical op values => use context [op] values ++ ofExprs context values
  | .compare left ops rest => use context ops (left :: rest) ++ ofExpr context left ++ ofExprs context rest
  | .choose test yes no => ofExpr context test ++ ofExpr context yes ++ ofExpr context no
  | .comprehension items clauses => ofExprs context items ++ ofClauses context clauses
  | .form _ parts => ofExprs context parts

def ofExprs (context : Option String) : List ScriptExpr → Uses
  | [] => .none
  | e :: es => ofExpr context e ++ ofExprs context es

def ofClauses (context : Option String) : List ScriptClause → Uses
  | [] => .none
  | ⟨target, source, conditions⟩ :: cs =>
    ofExpr context target ++ ofExpr context source ++ ofExprs context conditions ++ ofClauses context cs

end

mutual

def ofStmt (context : Option String) : ScriptStmt → Uses
  | .simple parts => ofExprs context parts
  | .assertion parts => ofExprs context parts
  | .augmented op target value => use context [op] [target, value] ++ ofExpr context target ++ ofExpr context value
  | .branch test yes no => ofExpr context test ++ ofStmts context yes ++ ofStmts context no
  | .loop heads body otherwise => ofExprs context heads ++ ofStmts context body ++ ofStmts context otherwise
  | .using items body => ofExprs context items ++ ofStmts context body
  | .attempt _ body handlers otherwise cleanup =>
    ofStmts context body ++ ofHandlers context handlers ++ ofStmts context otherwise ++ ofStmts context cleanup
  | .select subject cases => ofExpr context subject ++ ofCases context cases
  | .function name _ body => ofStmts (some name) body
  | .classBody bases body => ofExprs context bases ++ ofStmts context body

def ofStmts (context : Option String) : List ScriptStmt → Uses
  | [] => .none
  | s :: ss => ofStmt context s ++ ofStmts context ss

def ofHandlers (context : Option String) : List ScriptHandler → Uses
  | [] => .none
  | ⟨caught, body⟩ :: hs => ofExprs context caught ++ ofStmts context body ++ ofHandlers context hs

def ofCases (context : Option String) : List ScriptCase → Uses
  | [] => .none
  | ⟨pattern, guards, body⟩ :: cs =>
    ofExprs context pattern.parts ++ ofExprs context guards ++ ofStmts context body ++ ofCases context cs

end

/-- How many operands differ from each other. -/
def distinctOperands (operands : List Operand) : Nat :=
  (operands.countP fun o => o.key = .unique) + ((operands.filter fun o => o.key ≠ .unique).eraseDups).length

def length (u : Uses) : Nat := u.operators.length + u.operands.length

def vocabulary (u : Uses) : Nat := u.operators.eraseDups.length + distinctOperands u.operands

/-- The length in bits of a script's operators and operands. -/
def ofScript (script : List ScriptStmt) : Float :=
  let u := ofStmts none script
  if vocabulary u = 0 then 0 else (length u).toFloat * (vocabulary u).toFloat.log2

end FlowSketch.ScriptVolume

import FlowSketch.ScriptSyntax

/-! Paths and nesting of scripts. Functions and classes inside something add nothing to its own paths. -/
namespace FlowSketch

mutual

/-- The places in an expression where paths part. -/
def ScriptExpr.paths : ScriptExpr → Nat
  | .name _ => 0
  | .constant _ => 0
  | .attribute value _ => value.paths
  | .binary _ left right => left.paths + right.paths
  | .unary _ operand => operand.paths
  | .logical _ values => values.length - 1 + pathsOfList values
  | .compare left _ rest => left.paths + pathsOfList rest
  | .choose test yes no => 1 + test.paths + yes.paths + no.paths
  | .comprehension items clauses => pathsOfList items + pathsOfClauses clauses
  | .form _ parts => pathsOfList parts

def ScriptExpr.pathsOfList : List ScriptExpr → Nat
  | [] => 0
  | e :: es => e.paths + pathsOfList es

def ScriptExpr.pathsOfClauses : List ScriptClause → Nat
  | [] => 0
  | ⟨target, source, conditions⟩ :: cs =>
    1 + conditions.length + target.paths + source.paths + pathsOfList conditions + pathsOfClauses cs

end

def elseCount {α : Type} (otherwise : List α) : Nat := if otherwise.isEmpty then 0 else 1

mutual

/-- The places in a statement where paths part. -/
def ScriptStmt.paths : ScriptStmt → Nat
  | .simple parts => ScriptExpr.pathsOfList parts
  | .assertion _ => 1
  | .augmented _ target value => target.paths + value.paths
  | .branch test yes no => 1 + test.paths + pathsOfList yes + pathsOfList no
  | .loop heads body otherwise =>
    1 + elseCount otherwise + ScriptExpr.pathsOfList heads + pathsOfList body + pathsOfList otherwise
  | .using items body => ScriptExpr.pathsOfList items + pathsOfList body
  | .attempt grouped body handlers otherwise cleanup =>
    (if grouped then 0 else handlers.length + elseCount otherwise) + pathsOfList body + pathsOfHandlers handlers
      + pathsOfList otherwise + pathsOfList cleanup
  | .select subject cases =>
    cases.length - (if cases.any ScriptCase.isBare then 1 else 0) + subject.paths + pathsOfCases cases
  | .function _ _ _ => 0
  | .classBody _ _ => 0

def ScriptStmt.pathsOfList : List ScriptStmt → Nat
  | [] => 0
  | s :: ss => s.paths + pathsOfList ss

def ScriptStmt.pathsOfHandlers : List ScriptHandler → Nat
  | [] => 0
  | ⟨caught, body⟩ :: hs => ScriptExpr.pathsOfList caught + pathsOfList body + pathsOfHandlers hs

def ScriptStmt.pathsOfCases : List ScriptCase → Nat
  | [] => 0
  | ⟨pattern, guards, body⟩ :: cs =>
    ScriptExpr.pathsOfList pattern.parts + ScriptExpr.pathsOfList guards + pathsOfList body + pathsOfCases cs

end

mutual

/-- The deepest nesting of control statements, a statement's own level included. -/
def ScriptStmt.nesting : ScriptStmt → Nat
  | .simple _ => 0
  | .assertion _ => 0
  | .augmented _ _ _ => 0
  | .branch _ yes no => 1 + max (nestingOfList yes) (nestingOfList no)
  | .loop _ body otherwise => 1 + max (nestingOfList body) (nestingOfList otherwise)
  | .using _ body => 1 + nestingOfList body
  | .attempt grouped body handlers otherwise cleanup =>
    (if grouped then 0 else 1)
      + max (max (nestingOfList body) (nestingOfHandlers handlers)) (max (nestingOfList otherwise) (nestingOfList cleanup))
  | .select _ cases => nestingOfCases cases
  | .function _ _ body => nestingOfList body
  | .classBody _ body => nestingOfList body

def ScriptStmt.nestingOfList : List ScriptStmt → Nat
  | [] => 0
  | s :: ss => max s.nesting (nestingOfList ss)

def ScriptStmt.nestingOfHandlers : List ScriptHandler → Nat
  | [] => 0
  | ⟨_, body⟩ :: hs => max (nestingOfList body) (nestingOfHandlers hs)

def ScriptStmt.nestingOfCases : List ScriptCase → Nat
  | [] => 0
  | ⟨_, _, body⟩ :: cs => max (nestingOfList body) (nestingOfCases cs)

end

/-- A function definition: how deep in the tree it stands, its name, its place in the source, its body. -/
structure ScriptFunction where
  depth : Nat
  name : String
  span : ScriptSpan
  body : List ScriptStmt

mutual

/-- All function definitions in reading order, also those in functions and classes. -/
def ScriptStmt.functions (depth : Nat) : ScriptStmt → List ScriptFunction
  | .simple _ => []
  | .assertion _ => []
  | .augmented _ _ _ => []
  | .branch _ yes no => functionsOfList (depth + 1) yes ++ functionsOfList (depth + 1) no
  | .loop _ body otherwise => functionsOfList (depth + 1) body ++ functionsOfList (depth + 1) otherwise
  | .using _ body => functionsOfList (depth + 1) body
  | .attempt _ body handlers otherwise cleanup =>
    functionsOfList (depth + 1) body ++ functionsOfHandlers (depth + 2) handlers ++ functionsOfList (depth + 1) otherwise
      ++ functionsOfList (depth + 1) cleanup
  | .select _ cases => functionsOfCases (depth + 2) cases
  | .function name span body => ⟨depth, name, span, body⟩ :: functionsOfList (depth + 1) body
  | .classBody _ body => functionsOfList (depth + 1) body

def ScriptStmt.functionsOfList (depth : Nat) : List ScriptStmt → List ScriptFunction
  | [] => []
  | s :: ss => s.functions depth ++ functionsOfList depth ss

/-- A handler is a level of its own in the tree, and so is a case. -/
def ScriptStmt.functionsOfHandlers (depth : Nat) : List ScriptHandler → List ScriptFunction
  | [] => []
  | ⟨_, body⟩ :: hs => functionsOfList depth body ++ functionsOfHandlers depth hs

def ScriptStmt.functionsOfCases (depth : Nat) : List ScriptCase → List ScriptFunction
  | [] => []
  | ⟨_, _, body⟩ :: cs => functionsOfList depth body ++ functionsOfCases depth cs

end

mutual

/-- The definitions that a statement holds outside functions and classes: bodies of functions and of classes. -/
def ScriptStmt.outer : ScriptStmt → List (Bool × List ScriptStmt)
  | .simple _ => []
  | .assertion _ => []
  | .augmented _ _ _ => []
  | .branch _ yes no => outerOfList yes ++ outerOfList no
  | .loop _ body otherwise => outerOfList body ++ outerOfList otherwise
  | .using _ body => outerOfList body
  | .attempt _ body handlers otherwise cleanup =>
    outerOfList body ++ outerOfHandlers handlers ++ outerOfList otherwise ++ outerOfList cleanup
  | .select _ cases => outerOfCases cases
  | .function _ _ body => [(true, body)]
  | .classBody _ body => [(false, body)]

def ScriptStmt.outerOfList : List ScriptStmt → List (Bool × List ScriptStmt)
  | [] => []
  | s :: ss => s.outer ++ outerOfList ss

def ScriptStmt.outerOfHandlers : List ScriptHandler → List (Bool × List ScriptStmt)
  | [] => []
  | ⟨_, body⟩ :: hs => outerOfList body ++ outerOfHandlers hs

def ScriptStmt.outerOfCases : List ScriptCase → List (Bool × List ScriptStmt)
  | [] => []
  | ⟨_, _, body⟩ :: cs => outerOfList body ++ outerOfCases cs

end

namespace ScriptComplexity

/-- The complexity of a body on its own. -/
def ofBody (body : List ScriptStmt) : Nat := 1 + ScriptStmt.pathsOfList body

def functionBodies (body : List ScriptStmt) : List (List ScriptStmt) :=
  ((ScriptStmt.outerOfList body).filter Prod.fst).map Prod.snd

def classBodies (body : List ScriptStmt) : List (List ScriptStmt) :=
  ((ScriptStmt.outerOfList body).filter fun d => !d.1).map Prod.snd

/-- The complexity of a class counts that of its methods in full. -/
def ofClass (body : List ScriptStmt) : Nat := ofBody body + (functionBodies body).foldr (fun b n => ofBody b + n) 0

/-- The complexity of a whole script, in which each definition counts beyond its first path. -/
def total (script : List ScriptStmt) : Nat :=
  ofBody script + (functionBodies script).foldr (fun b n => ofBody b - 1 + n) 0
    + (classBodies script).foldr (fun b n => ofClass b - 1 + n) 0

/-- Function definitions, those nearer to the root of the tree first. -/
def functionsByDepth (script : List ScriptStmt) : List ScriptFunction :=
  (ScriptStmt.functionsOfList 0 script).mergeSort fun a b => a.depth ≤ b.depth

end ScriptComplexity
end FlowSketch

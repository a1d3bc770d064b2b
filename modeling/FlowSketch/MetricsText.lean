import FlowSketch.MetricsFlow

/-! Measures of a function in words. -/
namespace FlowSketch.MetricsText

/-- What is known of a piece of code; each number may be missing. -/
structure Known where
  complexity : Option Int
  nesting : Option Int
  steps : Option Int
  lines : Option Int

def Known.ofMeasure (m : Measure) : Known :=
  match m.size with
  | .steps n => ⟨some m.complexity, some m.nesting, some n, none⟩
  | .lines n => ⟨some m.complexity, some m.nesting, none, some n⟩

def complexityWords (n : Int) : String :=
  if n ≤ 5 then "low (easy to understand)"
  else if n ≤ 10 then "moderate (some branching)"
  else "high (complex, consider refactoring)"

def nestingWords (n : Int) : String :=
  if n ≤ 2 then "shallow nesting" else if n ≤ 4 then "moderate nesting" else "deep nesting (harder to follow)"

/-- Lines count before steps. -/
def size (k : Known) : Int × String :=
  match k.lines with
  | some n => (n, "lines of code")
  | none => (k.steps.getD 0, "recognised steps")

def bold (n : Int) : String := "**" ++ toString n ++ "**"

def isHard (complexity nesting size : Int) : Bool := 12 < complexity || 8 < nesting || 40 < size

def sentence (name : String) (k : Known) : String :=
  let complexity := k.complexity.getD 1
  let nesting := k.nesting.getD 0
  let (amount, unit) := size k
  "\x60" ++ name ++ "\x60 has cyclomatic complexity " ++ bold complexity ++ " (" ++ complexityWords complexity
    ++ "), maximum nesting depth " ++ bold nesting ++ " (" ++ nestingWords nesting ++ "), and about " ++ bold amount
    ++ " " ++ unit ++ ". "
    ++ (if isHard complexity nesting amount then "⚠️ This part of the code may be hard to maintain." else "")

/-- The name under which the whole source is counted; it has no sentence. -/
def overallName : String := "_overall"

def explain (entries : List (String × Known)) : List (String × String) :=
  ((MetricsFlow.putAll entries).filter fun e => e.1 != overallName).map fun e => (e.1, sentence e.1 e.2)

end FlowSketch.MetricsText

import FlowSketch.Analysis
import FlowSketch.BraceAttempt
import FlowSketch.SystemsAttempt

/-! The analysis of a source with the failures of its extractor. -/
namespace FlowSketch.Analysis

/-- What the extractor of a dialect does with a source. Indented lines are read one by one, with nothing to fail. -/
def attempt (fuel : Nat) : Dialect → String → Attempt (List Node)
  | .systems, code => SystemsAttempt.ofSource fuel code
  | .indentation, code => pure (IndentedFlow.ofSource code)
  | .brace, code => BraceAttempt.ofSource fuel code

def dialectOf (code path hint : String) : Dialect := .ofLanguage (Language.resolve code path (TextCase.lower hint))

/-- The analysis as it runs; a fault makes its extractor give up, and with the extractor it is cut off. -/
def run (fuel : Nat) (code path hint : String) : Option Analysis :=
  (attempt fuel (dialectOf code path hint) code).run.map fun outcome =>
    analyzeWith (fun _ _ => outcome.toOption) code path hint

end FlowSketch.Analysis

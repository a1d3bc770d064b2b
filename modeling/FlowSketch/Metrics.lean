import FlowSketch.DecimalFixed
import FlowSketch.MetricsText
import FlowSketch.ScriptMetrics

/-! All measures of an analyzed source: from the source itself where it is a script, otherwise from its flow. -/
namespace FlowSketch

/-- What is counted in the lines of a source. -/
inductive LineCounts where
  | plain (all code : Nat)
  | script (overview : ScriptOverview)

structure Overview where
  lines : LineCounts
  counts : MetricsFlow.Counts

/-- The measures of parts of a source and of the whole. -/
structure Metrics where
  entries : List (String × Measure)
  overview : Overview

namespace Metrics

/-- The index of maintainability with six places. -/
def maintainabilityText (o : ScriptOverview) : String := DecimalFixed.render 6 o.maintainability

def isScript (code language : String) : Bool := language = "python" && !TextBlank.blankText code

def calculate (nodes : List Node) (code language : String) : Metrics :=
  let counts := MetricsFlow.counts nodes
  match if isScript code language then ScriptMetrics.ofSource code else none with
  | some (entries, overview) => ⟨entries, ⟨.script overview, counts⟩⟩
  | none =>
    ⟨MetricsFlow.entries nodes, ⟨.plain (MetricsFlow.lineCount code) (MetricsFlow.codeLineCount code), counts⟩⟩

/-- One row of the table of measures: a part, or the whole. -/
inductive Row where
  | part (m : Measure)
  | whole (o : Overview)

/-- The table of measures. The whole comes last, unless a part has its name; then it takes that part's place. -/
def rows (m : Metrics) : List (String × Row) :=
  MetricsFlow.put MetricsText.overallName (.whole m.overview) (m.entries.map fun e => (e.1, .part e.2))

/-- A sentence for each part. -/
def explanations (m : Metrics) : List (String × String) :=
  MetricsText.explain (m.entries.map fun e => (e.1, .ofMeasure e.2))

end Metrics
end FlowSketch

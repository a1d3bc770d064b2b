import FlowSketch.MetricsFlow
import FlowSketch.ScriptComplexity
import FlowSketch.ScriptLines
import FlowSketch.ScriptParser
import FlowSketch.ScriptVolume

/-! Measures of scripts: each function and the whole source. A source that is no script has none. -/
namespace FlowSketch

/-- The lines of a source and how easy it is to maintain, from 0 to 100. -/
structure ScriptOverview where
  maintainability : Float
  lines : ScriptLines.Counts

namespace ScriptMetrics

def pi : Float := 3.141592653589793

/-- Comment lines for each hundred lines of code. -/
def commentRatio (lines : ScriptLines.Counts) : Float :=
  if lines.code = 0 then 0 else (lines.comments + lines.texts).toFloat / lines.code.toFloat * 100

/-- The index from volume, complexity, logical lines and comments; nothing to measure counts as easy. -/
def maintainability (volume : Float) (complexity : Nat) (lines : ScriptLines.Counts) : Float :=
  if volume ≤ 0 || lines.logical = 0 then 100
  else
    let comments := Float.sqrt (2.46 * (commentRatio lines * (pi / 180)))
    let index := 171 - 5.2 * volume.log - 0.23 * complexity.toFloat - 16.2 * lines.logical.toFloat.log
      + 50 * comments.sin
    let scaled := index * 100 / 171
    if scaled < 0 then 0 else if 100 < scaled then 100 else scaled

def functionName (f : ScriptFunction) : String := f.name ++ "()"

def codeLines (source : List Char) : Option Int := (ScriptLines.ofSource source).map fun c => (c.code : Int)

def measureFunction (source : List Char) (f : ScriptFunction) : Option (String × Measure) := do
  let size ← codeLines (f.span.cut source)
  return (functionName f, ⟨ScriptComplexity.ofBody f.body, ScriptStmt.nestingOfList f.body, .lines size⟩)

/-- The functions of a script, or the script itself if it has none. -/
def entries (source : List Char) (script : List ScriptStmt) : Option (List (String × Measure)) := do
  let found ← (ScriptComplexity.functionsByDepth script).mapM (measureFunction source)
  if found.isEmpty then
    let size ← codeLines source
    return [(MetricsFlow.moduleName,
      ⟨ScriptComplexity.ofBody script, ScriptStmt.nestingOfList script, .lines size⟩)]
  return MetricsFlow.putAll found

/-- All measures of a source. -/
def ofSource (code : String) : Option (List (String × Measure) × ScriptOverview) := do
  let script ← ScriptParser.parse code.toList
  let found ← entries (ScriptSpan.normalizeLines code.toList) script
  let lines ← ScriptLines.ofSource code.toList
  return (found, ⟨maintainability (ScriptVolume.ofScript script) (ScriptComplexity.total script) lines, lines⟩)

end ScriptMetrics
end FlowSketch

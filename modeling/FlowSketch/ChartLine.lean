/-! The lines of chart text: definitions of nodes by shape, and edges. -/
namespace FlowSketch

inductive Shape where
  | terminator
  | io
  | decision
  | process
  deriving DecidableEq, Repr

namespace Shape

def name : Shape → String
  | terminator => "terminator"
  | io => "io"
  | decision => "decision"
  | process => "process"

/-- The shape in which a step is drawn. -/
def ofKind (kind : String) : Shape :=
  if kind = "io" || kind = "output" then io else if kind = "terminator" then terminator else process

/-- What stands around a quoted label. -/
def brackets : Shape → String × String
  | terminator => ("([", "])")
  | io => ("[/", "/]")
  | decision => ("\x7b", "\x7d")
  | process => ("[", "]")

end Shape

namespace ChartLine

def definition (id : String) (shape : Shape) (label : String) : String :=
  "  " ++ id ++ shape.brackets.1 ++ "\"" ++ label ++ "\"" ++ shape.brackets.2

def edge (source target label : String) : String :=
  if label.isEmpty then "  " ++ source ++ " --> " ++ target
  else "  " ++ source ++ " -->|" ++ label ++ "| " ++ target

end ChartLine
end FlowSketch

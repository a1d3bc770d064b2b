import FlowSketch.TextBlank
import FlowSketch.TextBracket

/-! Labels that are safe between the quotes of a chart node. -/
namespace FlowSketch.ChartLabel
open TextBlank

/-- Characters that have a meaning in chart text. -/
def isUnsafe (c : Char) : Bool := "\"\\\x60\x7b\x7d|;".toList.contains c

def maxWords : Nat := 10

def maxLength : Nat := 48

def safeChars (cs : List Char) : List Char :=
  let plain := (TextBracket.rounded cs).filter fun c => !isUnsafe c
  dropEndBlanks ((joinWords ((words plain).take maxWords)).take maxLength)

def safe (s : String) : String := .ofList (safeChars s.toList)

end FlowSketch.ChartLabel

import FlowSketch.PatternBuild
import FlowSketch.TextCase

/-! The language of a source, from its file name, its contents and what the caller says, and the dialect to read it
in. -/
namespace FlowSketch

inductive Dialect where
  | systems
  | indentation
  | brace
  deriving DecidableEq, Repr

namespace Dialect

def name : Dialect → String
  | systems => "systems"
  | indentation => "indentation"
  | brace => "brace"

def ofLanguage (language : String) : Dialect :=
  if language = "c" || language = "cpp" then systems
  else if language = "python" then indentation
  else brace

end Dialect

namespace Language
open Pattern

def extensions : List (String × String) :=
  [("ts", "typescript"), ("tsx", "typescript"), ("js", "javascript"), ("jsx", "javascript"), ("mjs", "javascript"),
    ("cjs", "javascript"), ("py", "python"), ("rb", "ruby"), ("go", "go"), ("java", "java"), ("rs", "rust"),
    ("cs", "csharp"), ("c", "c"), ("h", "c"), ("cpp", "cpp"), ("cc", "cpp"), ("cxx", "cpp"), ("hpp", "cpp"),
    ("php", "php"), ("swift", "swift"), ("kt", "kotlin")]

/-- Marks in a source, in the order in which they are looked for. -/
def marks : List (Pattern × String) := [
  ("#include" ++ gap ++ oneOf "<\"", "c"),
  (lineStart ++ gap ++ "int" ++ plus blank ++ "main" ++ gap ++ "(", "c"),
  ("cout" ++ gap ++ "<<" <|> "cin" ++ gap ++ ">>" <|> "std::", "cpp"),
  (lineStart ++ "public" ++ plus blank ++ "class" ++ plus blank ++ name, "java"),
  (lineStart ++ gap ++ "def" ++ plus blank ++ name ++ gap ++ "(", "python"),
  ("require" ++ gap ++ "(" <|> "import" ++ plus blank ++ name ++ plus blank ++ "from", "javascript")]

def lastComponent (path : List Char) : List Char := (path.reverse.takeWhile (· ≠ '/')).reverse

/-- The text from the last point of a file name; points at its front begin no extension. -/
def extensionOf (path : String) : String :=
  let file := (lastComponent path.toList).dropWhile (· = '.')
  if file.contains '.' then .ofList (file.reverse.takeWhile (· ≠ '.')).reverse else ""

def detect (path code : String) : String :=
  match extensions.lookup (TextCase.lower (extensionOf path)) with
  | some language => language
  | none => ((marks.find? fun mark => mark.1.found code.toList).map Prod.snd).getD "javascript"

/-- Languages with marks strong enough to stand against what the caller says. -/
def unmistakable (language : String) : Bool := language = "c" || language = "cpp" || language = "python"

/-- The caller's word counts, unless it is for a brace language and the source clearly is none. -/
def resolve (code path hint : String) : String :=
  if hint.isEmpty then detect path code
  else if unmistakable hint then hint
  else if unmistakable (detect path code) then detect path code
  else hint

end Language
end FlowSketch

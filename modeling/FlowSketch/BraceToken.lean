/-! Tokens of brace languages. -/
namespace FlowSketch

namespace Token

inductive Kind where
  | identifier
  | keyword
  | number
  | string
  | punctuation
  | operator
  | newline
  deriving DecidableEq, Repr

def Kind.name : Kind → String
  | identifier => "identifier"
  | keyword => "keyword"
  | number => "number"
  | string => "string"
  | punctuation => "punctuation"
  | operator => "operator"
  | newline => "newline"

end Token

structure Token where
  kind : Token.Kind
  value : String
  line : Nat
  deriving DecidableEq, Repr

namespace Token

def keywords : List String :=
  ["if", "else", "for", "while", "do", "switch", "case", "default", "try", "catch", "finally", "throw", "return",
    "break", "continue", "const", "let", "var", "function", "class", "new", "delete", "typeof", "instanceof", "import",
    "export", "from", "as", "of", "in", "await", "async", "yield", "extends", "super", "this", "void", "static", "get",
    "set", "interface", "type", "enum", "declare", "abstract", "implements", "namespace", "module", "readonly",
    "override"]

/-- The value as it reads in flattened text, where strings stand in single quotes. -/
def text (t : Token) : String := if t.kind = .string then "'" ++ t.value ++ "'" else t.value

def isNewline (t : Token) : Bool := t.kind = .newline

def isPunctuation (value : String) (t : Token) : Bool := t.kind = .punctuation && t.value == value

def isOperator (value : String) (t : Token) : Bool := t.kind = .operator && t.value == value

def isKeyword (value : String) (t : Token) : Bool := t.kind = .keyword && t.value == value

def isCaseWord (t : Token) : Bool := t.isKeyword "case" || t.isKeyword "default"

def isOpen (t : Token) : Bool := t.isPunctuation "("

def isClose (t : Token) : Bool := t.isPunctuation ")"

def isSemicolon (t : Token) : Bool := t.isPunctuation ";"

/-- An opening brace. -/
def opens (t : Token) : Bool := t.isPunctuation "\x7b"

/-- A closing brace. -/
def closes (t : Token) : Bool := t.isPunctuation "\x7d"

end Token
end FlowSketch

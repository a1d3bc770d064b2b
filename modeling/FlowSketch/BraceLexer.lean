import FlowSketch.BraceToken

/-! The tokens of a source text. Every text has tokens: what begins no token is passed over. -/
namespace FlowSketch.BraceLexer

def punctuation : List Char := "()\x7b\x7d[];,".toList

/-- Operators of several characters, the longest first. -/
def longOperators : List (List Char) :=
  ["===", "!==", "**=", "||=", "&&=", "??=", "**", "??", "?.", "==", "!=", "<=", ">=", "=>", "||", "&&", "++", "--",
    "+=", "-=", "*=", "/=", "%="].map String.toList

def shortOperators : List Char := ".:<>=+-*/%!~^&|@?".toList

/-- Digits and the letters, marks and points that number literals of any base hold. -/
def isNumberChar (c : Char) : Bool := c.isDigit || "._eExXabcdfABCDFoObBnN".toList.contains c

def isNameStart (c : Char) : Bool := c.isAlpha || c == '_' || c == '$'

def isNameChar (c : Char) : Bool := isNameStart c || c.isDigit

/-- Stands for every interpolation of a template. -/
def placeholder : Char := '…'

/-- A part of the source that has been read: its text, the line ends it counts for, and what follows it. -/
structure Read where
  value : List Char
  lines : Nat
  rest : List Char

def Read.push (c : Char) (lines : Nat) (r : Read) : Read := { r with value := c :: r.value, lines := lines + r.lines }

def lineOf (c : Char) : Nat := if c = '\n' then 1 else 0

/-- Reads on to the end of a block comment, or to the end of the source if it is never closed. -/
def readComment : List Char → Read
  | [] => ⟨[], 0, []⟩
  | '*' :: '/' :: cs => ⟨[], 0, cs⟩
  | c :: cs => (readComment cs).push c (lineOf c)

/-- Reads a string after its opening quote. An escaped character stands for itself and counts for no line. -/
def readString (quote : Char) : List Char → Read
  | [] => ⟨[], 0, []⟩
  | ['\\'] => ⟨[], 0, []⟩
  | '\\' :: c :: cs => (readString quote cs).push c 0
  | c :: cs => if c = quote then ⟨[], 0, cs⟩ else (readString quote cs).push c (lineOf c)

/-- Reads on to the brace that closes an interpolation with `depth + 1` braces open. -/
def readInterpolation (depth : Nat) : List Char → Read
  | [] => ⟨[], 0, []⟩
  | c :: cs =>
    if c = '{' then (readInterpolation (depth + 1) cs).push c 0
    else if c = '}' then
      match depth with
      | 0 => ⟨[c], 0, cs⟩
      | d + 1 => (readInterpolation d cs).push c 0
    else (readInterpolation depth cs).push c (lineOf c)

theorem readInterpolation_rest_length (depth : Nat) (cs : List Char) :
    (readInterpolation depth cs).rest.length ≤ cs.length := by
  induction cs generalizing depth with
  | nil => simp [readInterpolation]
  | cons c cs ih =>
    unfold readInterpolation
    split
    · exact Nat.le_succ_of_le (ih _)
    · split
      · split
        · exact Nat.le_succ _
        · exact Nat.le_succ_of_le (ih _)
      · exact Nat.le_succ_of_le (ih _)

/-- Reads a template after its opening mark, with a placeholder for each interpolation. -/
def readTemplate : List Char → Read
  | [] => ⟨[], 0, []⟩
  | ['\\'] => ⟨[], 0, []⟩
  | '\\' :: c :: cs => (readTemplate cs).push c 0
  | '$' :: '{' :: cs =>
    let inner := readInterpolation 0 cs
    have := readInterpolation_rest_length 0 cs
    (readTemplate inner.rest).push placeholder inner.lines
  | c :: cs => if c = '\x60' then ⟨[], 0, cs⟩ else (readTemplate cs).push c (lineOf c)
termination_by cs => cs.length
decreasing_by all_goals simp_wf <;> omega

theorem readComment_rest_length (cs : List Char) : (readComment cs).rest.length ≤ cs.length := by
  fun_induction readComment cs with
  | case1 => simp
  | case2 => simp; omega
  | case3 _ _ _ ih => exact Nat.le_succ_of_le ih

theorem readString_rest_length (quote : Char) (cs : List Char) :
    (readString quote cs).rest.length ≤ cs.length := by
  fun_induction readString quote cs with
  | case1 => simp
  | case2 => simp
  | case3 _ _ ih => exact Nat.le_succ_of_le (Nat.le_succ_of_le ih)
  | case4 => simp
  | case5 _ _ _ _ _ ih => exact Nat.le_succ_of_le ih

theorem readTemplate_rest_length (cs : List Char) : (readTemplate cs).rest.length ≤ cs.length := by
  fun_induction readTemplate cs with
  | case1 => simp
  | case2 => simp
  | case3 _ _ ih => exact Nat.le_succ_of_le (Nat.le_succ_of_le ih)
  | case4 cs inner h ih => exact Nat.le_succ_of_le (Nat.le_succ_of_le (Nat.le_trans ih h))
  | case5 => simp
  | case6 _ _ _ _ _ _ ih => exact Nat.le_succ_of_le ih

/-- What stands at the front of a source: its kind if it is a token, and the part it takes. -/
structure Lexeme where
  kind : Option Token.Kind
  read : Read

def wordKind (w : List Char) : Token.Kind :=
  if Token.keywords.contains (String.ofList w) then .keyword else .identifier

def operatorAt (cs : List Char) : Option (List Char) := longOperators.find? (·.isPrefixOf cs)

def run (kind : List Char → Token.Kind) (p : Char → Bool) (c : Char) (cs : List Char) : Lexeme :=
  ⟨some (kind (c :: cs.takeWhile p)), ⟨c :: cs.takeWhile p, 0, cs.dropWhile p⟩⟩

def skip (lines : Nat) (rest : List Char) : Lexeme := ⟨none, ⟨[], lines, rest⟩⟩

/-- The part of the source that `c` begins. -/
def lexeme (c : Char) (cs : List Char) : Lexeme :=
  if c = '\n' then ⟨some .newline, ⟨[c], 1, cs⟩⟩
  else if c = ' ' || c = '\t' || c = '\r' then skip 0 cs
  else if c = '/' && cs.head? = some '/' then skip 0 (cs.dropWhile (· ≠ '\n'))
  else if c = '/' && cs.head? = some '*' then
    skip (readComment cs.tail).lines (readComment cs.tail).rest
  else if c = '\x60' then ⟨some .string, readTemplate cs⟩
  else if c = '\'' || c = '"' then ⟨some .string, readString c cs⟩
  else if c.isDigit then run (fun _ => .number) isNumberChar c cs
  else if isNameStart c then run wordKind isNameChar c cs
  else if punctuation.contains c then ⟨some .punctuation, ⟨[c], 0, cs⟩⟩
  else
    match operatorAt (c :: cs) with
    | some op => ⟨some .operator, ⟨op, 0, cs.drop (op.length - 1)⟩⟩
    | none => if shortOperators.contains c then ⟨some .operator, ⟨[c], 0, cs⟩⟩ else skip 0 cs

theorem length_dropWhile_le (p : Char → Bool) (cs : List Char) : (cs.dropWhile p).length ≤ cs.length :=
  (List.dropWhile_sublist p).length_le

theorem lexeme_rest_length (c : Char) (cs : List Char) : (lexeme c cs).read.rest.length ≤ cs.length := by
  have hc := readComment_rest_length cs.tail
  have ht : cs.tail.length ≤ cs.length := by simp
  unfold lexeme run skip
  split
  · exact Nat.le_refl _
  split
  · exact Nat.le_refl _
  split
  · exact length_dropWhile_le _ _
  split
  · exact Nat.le_trans hc ht
  split
  · exact readTemplate_rest_length cs
  split
  · exact readString_rest_length c cs
  split
  · exact length_dropWhile_le _ _
  split
  · exact length_dropWhile_le _ _
  split
  · exact Nat.le_refl _
  split
  · simp
  · split <;> exact Nat.le_refl _

/-- The token of a lexeme that begins on `line`. -/
def Lexeme.token? (l : Lexeme) (line : Nat) : Option Token :=
  l.kind.map fun kind => ⟨kind, .ofList l.read.value, line⟩

/-- The tokens of a source whose first character is on `line`. -/
def tokensFrom (line : Nat) : List Char → List Token
  | [] => []
  | c :: cs =>
    ((lexeme c cs).token? line).toList ++ tokensFrom (line + (lexeme c cs).read.lines) (lexeme c cs).read.rest
termination_by cs => cs.length
decreasing_by exact Nat.lt_succ_of_le (lexeme_rest_length c cs)

def tokens (code : String) : List Token := tokensFrom 1 code.toList

end FlowSketch.BraceLexer

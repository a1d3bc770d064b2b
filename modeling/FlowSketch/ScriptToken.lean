import FlowSketch.ScriptLiteral
import FlowSketch.ScriptNameTable

/-! Tokens of scripts, with the changes of indentation, as the parser reads them. -/
namespace FlowSketch

namespace ScriptToken

inductive Kind where
  | name
  | number
  | string
  | operator
  | newline
  | indent
  | dedent
  | stop
  deriving DecidableEq, Repr, Inhabited

end ScriptToken

/-- A token and where it ends and begins in the source. -/
structure ScriptToken where
  kind : ScriptToken.Kind
  text : List Char
  span : ScriptSpan
  deriving Repr, Inhabited

namespace ScriptToken

def operators : List (List Char) :=
  ["**=", "//=", ">>=", "<<=", "...", "!=", "->", ":=", "**", "//", ">>", "<<", "<=", ">=", "==", "+=", "-=", "*=",
    "/=", "%=", "&=", "|=", "^=", "@=", "+", "-", "*", "/", "%", "@", "&", "|", "^", "~", "<", ">", "(", ")", "[", "]",
    "\x7b", "\x7d", ",", ":", ".", ";", "="].map String.toList

def operator? (cs : List Char) : Option (List Char) := operators.find? (·.isPrefixOf cs)

/-- Names hold more than word characters, such as combining marks, and not all number signs. -/
def isNameChar (c : Char) : Bool :=
  if c.toNat < 128 then TextWord.isWord c
  else TextWord.inRanges ScriptNameTable.marks c.toNat
    || (TextWord.isWord c && !TextWord.inRanges ScriptNameTable.outside c.toNat)

def isNameStart (c : Char) : Bool :=
  isNameChar c && !TextWord.isDecimalDigit c && !TextWord.inRanges ScriptNameTable.inside c.toNat

def isSpace (c : Char) : Bool := c = ' ' || c = '\t' || c = '\x0c'

/-- A word may follow a number without a space between them. -/
def followsNumber (cs : List Char) : Bool :=
  ["and", "else", "for", "if", "in", "is", "or", "not"].any fun w => w.toList.isPrefixOf cs

/-- Whether a number can end before the given text. A zero with an `o` after it is the beginning of an octal number. -/
def endsNumber (text rest : List Char) : Bool :=
  if text = ['0'] && rest.head? = some 'o' then false
  else followsNumber rest || !((rest.head?.map fun c => TextWord.isWord c || 128 ≤ c.toNat).getD false)

/-- Columns of a line's first character, once with tabs to the next multiple of eight and once with tabs of one, the
column of the first continued line before it (zero for none), and how many characters come before it. -/
structure Margin where
  column : Nat
  narrow : Nat
  held : Nat
  width : Nat

/-- A continued line keeps the indentation at which it was first continued. -/
def Margin.settle (m : Margin) : Margin :=
  if m.held = 0 then m else { m with column := m.held, narrow := m.held }

def marginFrom (m : Margin) : List Char → Margin
  | [] => m.settle
  | '\\' :: '\n' :: d :: cs =>
    marginFrom { m with held := if m.held = 0 then m.column else m.held, width := m.width + 2 } (d :: cs)
  | c :: cs =>
    if c = ' ' then marginFrom { m with column := m.column + 1, narrow := m.narrow + 1, width := m.width + 1 } cs
    else if c = '\t' then
      marginFrom { m with column := (m.column / 8 + 1) * 8, narrow := m.narrow + 1, width := m.width + 1 } cs
    else if c = '\x0c' then marginFrom { m with column := 0, narrow := 0, width := m.width + 1 } cs
    else m.settle

/-- The open indentations, innermost first, by both columns. -/
abbrev Levels := List (Nat × Nat)

/-- Closes levels down to a column; the column must be one that is open. -/
def close (column narrow : Nat) : Levels → Option (Nat × Levels)
  | [] => if column = 0 && narrow = 0 then some (0, []) else none
  | (c, n) :: levels =>
    if c = column then if n = narrow then some (0, (c, n) :: levels) else none
    else if column < c then (close column narrow levels).map fun r => (r.1 + 1, r.2)
    else none

/-- The tokens and the levels that a margin causes. -/
def indentation (at_ column narrow : Nat) (levels : Levels) : Option (List ScriptToken × Levels) :=
  let top := levels.head?.getD (0, 0)
  let mark := fun kind => (⟨kind, [], ⟨at_, at_⟩⟩ : ScriptToken)
  if top.1 < column then
    if top.2 < narrow then some ([mark .indent], (column, narrow) :: levels) else none
  else (close column narrow levels).map fun r => (List.replicate r.1 (mark .dedent), r.2)

/-- Where the reader stands: the position, the brackets and indentations open, and whether a line begins. -/
structure Reader where
  position : Nat
  brackets : Nat
  levels : Levels
  fresh : Bool

def Reader.advance (r : Reader) (n : Nat) : Reader := { r with position := r.position + n }

def Reader.token (r : Reader) (kind : Kind) (text : List Char) : ScriptToken :=
  ⟨kind, text, ⟨r.position, r.position + text.length⟩⟩

def bracketsAfter (brackets : Nat) (op : List Char) : Nat :=
  if op = ['('] || op = ['['] || op = ['{'] then brackets + 1
  else if op = [')'] || op = [']'] || op = ['}'] then brackets - 1
  else brackets

/-- The token at the front, and the text after it. -/
def front? (r : Reader) (cs : List Char) : Option (ScriptToken × List Char) :=
  match ScriptLiteral.opening? cs with
  | some (o, rest) => do
    let (body, after) ← o.body? rest
    let length := o.length + body.length + (if o.tripled then 3 else 1)
    return (r.token .string (cs.take length), after)
  | none =>
    match ScriptLiteral.number? cs with
    | some (text, rest) =>
      if endsNumber text rest && ScriptLiteral.isShort text then some (r.token .number text, rest) else none
    | none =>
      if (cs.head?.map isNameStart).getD false then
        some (r.token .name (cs.takeWhile isNameChar), cs.dropWhile isNameChar)
      else (operator? cs).map fun op => (r.token .operator op, cs.drop op.length)

/-- The tokens that end a source. -/
def closing (r : Reader) : List ScriptToken :=
  (if r.fresh then [] else [r.token .newline []]) ++ List.replicate r.levels.length (r.token .dedent [])
    ++ [r.token .stop []]

/-- All tokens of a source, if each part of it is one. -/
def readFrom : Nat → Reader → List Char → Option (List ScriptToken)
  | 0, _, _ => none
  | _ + 1, r, [] => some (closing r)
  | fuel + 1, r, c :: cs =>
    if r.fresh then
      let m := marginFrom ⟨0, 0, 0, 0⟩ (c :: cs)
      let rest := (c :: cs).drop m.width
      let r := r.advance m.width
      match rest with
      | [] => readFrom fuel r []
      | '\n' :: after => readFrom fuel (r.advance 1) after
      | '#' :: _ =>
        let comment := rest.takeWhile (· ≠ '\n')
        readFrom fuel (r.advance comment.length) (rest.drop comment.length)
      | _ => do
        let (marks, levels) ← indentation r.position m.column m.narrow r.levels
        return marks ++ (← readFrom fuel { r with levels := levels, fresh := false } rest)
    else if isSpace c then readFrom fuel (r.advance 1) cs
    else if c = '#' then
      let comment := cs.takeWhile (· ≠ '\n')
      readFrom fuel (r.advance (comment.length + 1)) (cs.drop comment.length)
    else if c = '\n' then
      if r.brackets = 0 then do
        return r.token .newline [c] :: (← readFrom fuel { r.advance 1 with fresh := true } cs)
      else readFrom fuel (r.advance 1) cs
    else if c = '\\' then
      match cs with
      | '\n' :: d :: rest => readFrom fuel (r.advance 2) (d :: rest)
      | _ => none
    else do
      let (t, rest) ← front? r (c :: cs)
      let brackets := if t.kind = .operator then bracketsAfter r.brackets t.text else r.brackets
      return t :: (← readFrom fuel { r.advance t.text.length with brackets := brackets } rest)

def ofSource (cs : List Char) : Option (List ScriptToken) := readFrom (2 * cs.length + 2) ⟨0, 0, [], true⟩ cs

def isText (s : String) (t : ScriptToken) : Bool :=
  (t.kind = .operator || t.kind = .name) && t.text == s.toList

def keywords : List String :=
  ["False", "None", "True", "and", "as", "assert", "async", "await", "break", "class", "continue", "def", "del", "elif",
    "else", "except", "finally", "for", "from", "global", "if", "import", "in", "is", "lambda", "nonlocal", "not", "or",
    "pass", "raise", "return", "try", "while", "with", "yield"]

def isIdentifier (t : ScriptToken) : Bool := t.kind = .name && !keywords.contains (String.ofList t.text)

end ScriptToken
end FlowSketch

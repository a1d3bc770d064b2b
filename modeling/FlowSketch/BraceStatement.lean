import FlowSketch.BraceToken
import FlowSketch.TextBlank

/-! The last statement of a token list: where it begins, and how it reads as text. -/
namespace FlowSketch.BraceStatement

/-- Whether a colon closes a case clause; the tokens before it, nearest first. -/
def closesCase : List Token → Bool
  | [] => false
  | t :: earlier =>
    if t.isNewline || t.isSemicolon then false
    else if t.isCaseWord then true
    else closesCase earlier

/-- The complete statements of a token list, both read from the end. A statement ends outside parentheses with a
semicolon, with the colon of a case clause, or with a newline that has text after it. -/
def completeBefore (depth : Nat) (seen : Bool) : List Token → List Token
  | [] => []
  | t :: earlier =>
    if t.isNewline then
      if depth = 0 && seen then t :: earlier else completeBefore depth seen earlier
    else if t.isClose then completeBefore (depth + 1) true earlier
    else if t.isOpen then completeBefore (depth - 1) true earlier
    else if depth = 0 && (t.isSemicolon || (t.isOperator ":" && closesCase earlier)) then t :: earlier
    else completeBefore depth true earlier

/-- The tokens up to the end of the last complete statement. -/
def complete (tokens : List Token) : List Token := (completeBefore 0 false tokens.reverse).reverse

/-- The tokens after the last complete statement. -/
def pending (tokens : List Token) : List Token := tokens.drop (complete tokens).length

def visible (tokens : List Token) : List Token := tokens.filter fun t => !t.isNewline

def spaced (parts : List String) : String := " ".intercalate parts

/-- The statement as text, with a space between tokens. -/
def flatten (tokens : List Token) : String := spaced ((visible tokens).map Token.text)

def blankedText (t : Token) : String := if t.kind = .string then "''" else t.text

/-- The statement as text in which every string is empty. -/
def flattenBlanked (tokens : List Token) : String := spaced ((visible tokens).map blankedText)

/-- The texts inside the first parentheses met with `depth` of them open. -/
def groupParts (depth : Int) : List Token → List String
  | [] => []
  | t :: ts =>
    if t.isOpen then
      if depth = 0 then groupParts 1 ts
      else (if 0 < depth + 1 then [t.text] else []) ++ groupParts (depth + 1) ts
    else if t.isClose then
      if depth = 1 then []
      else (if 0 < depth - 1 then [t.text] else []) ++ groupParts (depth - 1) ts
    else (if 0 < depth && !t.isNewline then [t.text] else []) ++ groupParts depth ts

/-- The text of the first parenthesised group after a keyword. -/
def parenthesised (limit : Nat) (keyword : String) (tokens : List Token) : String :=
  TextBlank.clip limit (spaced (groupParts 0 ((tokens.dropWhile fun t => !t.isKeyword keyword).drop 1)))

/-- The longest header text that is kept. -/
def headerLimit : Nat := 60

end FlowSketch.BraceStatement

/-! Blank characters and the ways of cutting text: at blanks, at a separator, at line ends. -/
namespace FlowSketch.TextBlank

/-- White space of Unicode, with the four separators `U+001C` to `U+001F`. -/
def isBlank (c : Char) : Bool :=
  let n := c.toNat
  (9 ≤ n && n ≤ 13) || (28 ≤ n && n ≤ 32) || n == 0x85 || n == 0xA0 || n == 0x1680 ||
    (0x2000 ≤ n && n ≤ 0x200A) || n == 0x2028 || n == 0x2029 || n == 0x202F || n == 0x205F || n == 0x3000

/-- Characters that end a line in rendered text. -/
def isLineEnd (c : Char) : Bool :=
  let n := c.toNat
  (10 ≤ n && n ≤ 13) || (28 ≤ n && n ≤ 30) || n == 0x85 || n == 0x2028 || n == 0x2029

def dropBlanks (cs : List Char) : List Char := cs.dropWhile isBlank

def dropEndBlanks (cs : List Char) : List Char := (dropBlanks cs.reverse).reverse

def trim (cs : List Char) : List Char := dropEndBlanks (dropBlanks cs)

def allBlank (cs : List Char) : Bool := cs.all isBlank

/-- The maximal runs of characters that are not blank. -/
def words : List Char → List (List Char)
  | [] => []
  | [c] => if isBlank c then [] else [[c]]
  | c :: d :: cs =>
    if isBlank c then words (d :: cs)
    else if isBlank d then [c] :: words (d :: cs)
    else (words (d :: cs)).modifyHead (c :: ·)

def joinWords (ws : List (List Char)) : List Char := List.intercalate [' '] ws

/-- Every run of blanks becomes one space, and none is left at the ends. -/
def squeeze (cs : List Char) : List Char := joinWords (words cs)

/-- The pieces between separators; there is one more piece than separators. -/
def cut (separator : Char) : List Char → List (List Char)
  | [] => [[]]
  | c :: cs => if c == separator then [] :: cut separator cs else (cut separator cs).modifyHead (c :: ·)

/-- The lines of rendered text; a line end at the very end opens no further line. -/
def textLines : List Char → List (List Char)
  | [] => []
  | '\r' :: '\n' :: cs => [] :: textLines cs
  | c :: cs =>
    if isLineEnd c then [] :: textLines cs
    else match textLines cs with
      | [] => [[c]]
      | line :: lines => (c :: line) :: lines

/-- Replaces every run of blanks by one space, also at the ends. -/
def collapse : List Char → List Char
  | [] => []
  | [c] => if isBlank c then [' '] else [c]
  | c :: d :: cs =>
    if isBlank c then if isBlank d then collapse (d :: cs) else ' ' :: collapse (d :: cs)
    else c :: collapse (d :: cs)

def trimText (s : String) : String := .ofList (trim s.toList)

/-- The lines of a source text, which end at `\n` only. -/
def sourceLines (s : String) : List String := (cut '\n' s.toList).map String.ofList

def renderedLines (s : String) : List String := (textLines s.toList).map String.ofList

def blankText (s : String) : Bool := allBlank s.toList

def joinLines (lines : List String) : String := "\n".intercalate lines

/-- The first `n` characters. -/
def clip (n : Nat) (s : String) : String := .ofList (s.toList.take n)

end FlowSketch.TextBlank

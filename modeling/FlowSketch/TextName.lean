import FlowSketch.TextHangul
import FlowSketch.TextNameAliases
import FlowSketch.TextNameAlphabets
import FlowSketch.TextNameSupplement
import FlowSketch.TextNameSyllables
import FlowSketch.TextNameSymbols
import FlowSketch.TextWord

/-! Characters by their names. The names of a block of consecutive characters are written one after the other on lines
that are read as one, each as the change that makes it from the name before it:

* small letters say how many characters of that name are kept at its front, `a` for none, `b` for one; several letters
  add up;
* marks may follow that say how many are kept at its end, in the order of `backMarks`;
* what stands between the two comes last, in capitals;
* a tilde alone replaces the last character by the next one, and an underscore is for a character without a name. -/
namespace FlowSketch.TextName

def backMarks : List Char := "!#$%&()*+,.:;<=>?@[]^|".toList

/-- Parts a block into the entries of its characters. -/
def entries (block : List Char) : List (List Char) :=
  block.splitBy fun a b => !(b = '_' || b = '~' || b.isLower && !a.isLower)

def frontCount (letters : List Char) : Nat := letters.foldr (fun c n => c.toNat - 'a'.toNat + n) 0

def backCount (marks : List Char) : Nat := marks.foldr (fun c n => backMarks.idxOf c + 1 + n) 0

/-- The same name with the next letter or digit at its end. -/
def advanced (name : List Char) : List Char :=
  name.dropLast ++ (name.getLast?.map fun c => Char.ofNat (c.toNat + 1)).toList

/-- The name that an entry makes from the one before it. -/
def changed (name entry : List Char) : List Char :=
  if entry = ['~'] then advanced name
  else
    let rest := entry.dropWhile Char.isLower
    let back := backCount (rest.takeWhile backMarks.contains)
    name.take (frontCount (entry.takeWhile Char.isLower)) ++ rest.dropWhile backMarks.contains
      ++ name.drop (name.length - back)

/-- The character with a name among entries, of which the first one is for `code`. -/
def findIn (wanted : List Char) (code : Nat) (name : List Char) : List (List Char) → Option Nat
  | [] => none
  | e :: es =>
    if e = ['_'] then findIn wanted (code + 1) name es
    else
      let name := changed name e
      if name = wanted then some code else findIn wanted (code + 1) name es

def hexValue (digits : List Char) : Nat :=
  digits.foldl (fun n c => 16 * n + if c.isDigit then c.toNat - '0'.toNat else c.toNat - 'A'.toNat + 10) 0

/-- A number of four or five hexadecimal digits, with capitals. -/
def hexNumber? (digits : List Char) : Option Nat :=
  if (digits.length = 4 || digits.length = 5) && digits.all (fun c => c.isDigit || 'A' ≤ c && c ≤ 'F') then
    some (hexValue digits)
  else none

/-- What follows a text at the front. -/
def after? (front : String) (name : List Char) : Option (List Char) :=
  if front.toList.isPrefixOf name then some (name.drop front.length) else none

/-- The character with a name that ends in its number. -/
def findNumbered? (wanted : List Char) : Option Nat :=
  TextNameAliases.numbered.findSome? fun (front, ranges) => do
    let digits ← after? (front ++ "-") wanted
    let n ← hexNumber? digits
    if TextWord.inRanges ranges n && digits.head? ≠ some '0' then some n else none

def blocks : List (List (Nat × List String)) :=
  [TextNameAlphabets.blocks, TextNameSymbols.blocks, TextNameAliases.blocks, TextNameSyllables.blocks,
    TextNameSupplement.blocks]

/-- The character of a name. Capitals may be small letters, but not in names of syllables and ideographs. -/
def find? (name : List Char) : Option Nat :=
  match after? "HANGUL SYLLABLE " name with
  | some syllable => TextHangul.find? syllable
  | none =>
    match after? "CJK UNIFIED IDEOGRAPH-" name with
    | some digits =>
      (hexNumber? digits).bind fun n => if TextWord.inRanges TextNameAliases.ideographs n then some n else none
    | none =>
      let wanted := name.map Char.toUpper
      findNumbered? wanted <|> blocks.findSome? fun table =>
        table.findSome? fun (first, lines) => findIn wanted first [] (entries (lines.flatMap String.toList))

end FlowSketch.TextName

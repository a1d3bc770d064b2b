/-! Hangul syllables: how letters join to syllables, and what syllables are called. -/
namespace FlowSketch.TextHangul

/-- Names of the letters that begin a syllable. -/
def initials : List String :=
  ["G", "GG", "N", "D", "DD", "R", "M", "B", "BB", "S", "SS", "", "J", "JJ", "C", "K", "T", "P", "H"]

def vowels : List String :=
  ["A", "AE", "YA", "YAE", "EO", "E", "YEO", "YE", "O", "WA", "WAE", "OE", "YO", "U", "WEO", "WE", "WI", "YU", "EU", "YI",
    "I"]

/-- Names of the letters that end a syllable; the first one is no letter. -/
def finals : List String :=
  ["", "G", "GG", "GS", "N", "NJ", "NH", "D", "L", "LG", "LM", "LB", "LS", "LT", "LP", "LH", "M", "B", "BS", "S", "SS", "NG",
    "J", "C", "K", "T", "P", "H"]

def firstSyllable : Nat := 0xAC00
def firstInitial : Nat := 0x1100
def firstVowel : Nat := 0x1161
def beforeFinals : Nat := 0x11A7

/-- A syllable by the places of its letters. -/
structure Syllable where
  initial : Nat
  vowel : Nat
  final : Nat

def syllableCount : Nat := initials.length * vowels.length * finals.length

def Syllable.ofIndex (n : Nat) : Syllable :=
  ⟨n / (vowels.length * finals.length), n / finals.length % vowels.length, n % finals.length⟩

def Syllable.index (s : Syllable) : Nat := (s.initial * vowels.length + s.vowel) * finals.length + s.final

def Syllable.name (s : Syllable) : String :=
  initials[s.initial]?.getD "" ++ vowels[s.vowel]?.getD "" ++ finals[s.final]?.getD ""

def Syllable.letters (s : Syllable) : List Nat :=
  [firstInitial + s.initial, firstVowel + s.vowel] ++ if s.final = 0 then [] else [beforeFinals + s.final]

/-- The letters of a syllable character. -/
def letters? (n : Nat) : Option (List Nat) :=
  if firstSyllable ≤ n && n < firstSyllable + syllableCount then
    some (Syllable.ofIndex (n - firstSyllable)).letters
  else none

/-- An initial letter joins with a vowel, and the two with a final letter. -/
def join? (a b : Nat) : Option Nat :=
  if firstInitial ≤ a && a < firstInitial + initials.length && firstVowel ≤ b && b < firstVowel + vowels.length then
    some (firstSyllable + (⟨a - firstInitial, b - firstVowel, 0⟩ : Syllable).index)
  else if firstSyllable ≤ a && a < firstSyllable + syllableCount && (a - firstSyllable) % finals.length = 0
      && beforeFinals < b && b < beforeFinals + finals.length then
    some (a + (b - beforeFinals))
  else none

/-- The syllable character of a name. -/
def find? (name : List Char) : Option Nat :=
  ((List.range syllableCount).find? fun n => (Syllable.ofIndex n).name.toList = name).map (firstSyllable + ·)

end FlowSketch.TextHangul

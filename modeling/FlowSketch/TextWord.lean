import FlowSketch.TextWordTable

/-! Word characters and digits. ASCII is decided directly, everything else by the tables. -/
namespace FlowSketch.TextWord

def inRanges (ranges : List (Nat × Nat)) (n : Nat) : Bool :=
  ranges.any fun r => r.1 ≤ n && n ≤ r.2

def isAlphanumeric (c : Char) : Bool :=
  if c.toNat < 128 then c.isAlphanum else inRanges TextWordTable.alphanumeric c.toNat

def isWord (c : Char) : Bool := c == '_' || isAlphanumeric c

def isDecimalDigit (c : Char) : Bool :=
  if c.toNat < 128 then c.isDigit else inRanges TextWordTable.decimalDigit c.toNat

/-- A decimal digit or a digit of another form. -/
def isDigit (c : Char) : Bool := isDecimalDigit c || inRanges TextWordTable.otherDigit c.toNat

end FlowSketch.TextWord

import FlowSketch.TextHangul
import FlowSketch.TextNormalFormTable

/-! The normal form of names: characters that stand for others are replaced, combining marks are put in order, and what
makes a single character together is joined. -/
namespace FlowSketch.TextNormalForm
open TextNormalFormTable

def shifted? (n : Nat) : Option Nat :=
  (shifts.find? fun s => s.first ≤ n && n ≤ s.last && (n - s.first) % s.stride = 0).map fun s =>
    ((n : Int) + s.shift).toNat

def listed? (n : Nat) : Option Nat :=
  (rows.find? fun r => r.1 ≤ n && n < r.1 + r.2.length).bind fun r => r.2[n - r.1]?

/-- What a character stands for or is made of. -/
def expansion? (n : Nat) : Option (List Nat) :=
  TextHangul.letters? n
    <|> ((pairs.find? fun p => p.1 = n).map fun p => [p.2.1, p.2.2])
    <|> splits.lookup n
    <|> (shifted? n).map ([·])
    <|> (listed? n).map ([·])

/-- Expands as often as there is something to expand, up to the given depth. -/
def expand : Nat → Nat → List Nat
  | 0, n => [n]
  | depth + 1, n =>
    match expansion? n with
    | some parts => parts.flatMap (expand depth)
    | none => [n]

/-- No character is deeper than this. -/
def depth : Nat := 4

def combiningClass (n : Nat) : Nat :=
  ((classes.find? fun c => c.1 ≤ n && n ≤ c.2.1).map fun c => c.2.2).getD 0

def orderedMarks (marks : List Nat) : List Nat := marks.mergeSort fun a b => combiningClass a ≤ combiningClass b

/-- Puts the marks after each character in the order of their classes; `marks` are those just before. -/
def orderFrom (marks : List Nat) : List Nat → List Nat
  | [] => orderedMarks marks
  | n :: ns =>
    if combiningClass n = 0 then orderedMarks marks ++ n :: orderFrom [] ns else orderFrom (marks ++ [n]) ns

def join? (a b : Nat) : Option Nat :=
  TextHangul.join? a b <|> (pairs.find? fun p => p.2.1 = a && p.2.2 = b).map Prod.fst

/-- Joins a character with those after it. The marks between, which stay, are given last one first; a character can be
reached over them if its class is higher. -/
def joinFrom (base : Nat) (marks : List Nat) : List Nat → List Nat
  | [] => base :: marks.reverse
  | n :: ns =>
    let reached := (marks.head?.map fun m => decide (combiningClass m < combiningClass n)).getD true
    match if reached then join? base n else none with
    | some joined => joinFrom joined marks ns
    | none =>
      if combiningClass n = 0 then base :: marks.reverse ++ joinFrom n [] ns else joinFrom base (n :: marks) ns

def join : List Nat → List Nat
  | [] => []
  | n :: ns => joinFrom n [] ns

/-- The normal form of a name; ASCII stays as it is. -/
def compatible (name : List Char) : List Char :=
  if name.all fun c => c.toNat < 128 then name
  else (join (orderFrom [] (name.flatMap fun c => expand depth c.toNat))).map Char.ofNat

end FlowSketch.TextNormalForm

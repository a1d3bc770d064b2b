import FlowSketch.TextWord

/-! Text patterns with ordered choice, and their leftmost match in a text. Outcomes are tried in order and the first
that lets the rest of the pattern succeed is taken. -/
namespace FlowSketch

inductive Pattern where
  | empty
  | one (p : Char → Bool)
  | seq (a b : Pattern)
  /-- The first alternative is preferred. -/
  | alt (a b : Pattern)
  /-- At least `least` times and at most `extra` times more, longest first if `greedy`. -/
  | many (a : Pattern) (least : Nat) (extra : Option Nat) (greedy : Bool)
  | group (i : Nat) (a : Pattern)
  /-- A word character on exactly one side. -/
  | edge
  | notNext (a : Pattern)
  | start
  | lineStart
  /-- The end of the text, or before a line feed that ends it. -/
  | stop

namespace Pattern

/-- The text of a group, as the text from its start and the text from its end. -/
structure Span where
  start : List Char
  stop : List Char

def Span.chars (s : Span) : List Char := s.start.take (s.start.length - s.stop.length)

/-- A place in a text: the character before it, the text after it, the groups closed so far, latest first. -/
structure Place where
  before : Option Char
  rest : List Char
  groups : List (Nat × Span)

abbrev Step (α : Type) := Place → (Place → Option α) → Option α

/-- Exactly `n` passes. -/
def times {α : Type} (step : Step α) : Nat → Step α
  | 0, s, k => k s
  | n + 1, s, k => step s fun t => times step n t k

/-- At most as many passes as `fuel` has characters. -/
def upTo {α : Type} (step : Step α) (greedy : Bool) (fuel : List Char) : Step α := fun s k =>
  match fuel with
  | [] => k s
  | _ :: fuel =>
    if greedy then (step s fun t => upTo step greedy fuel t k) <|> k s
    else k s <|> step s fun t => upTo step greedy fuel t k

def isEdge (before next : Option Char) : Bool :=
  (before.map TextWord.isWord).getD false != (next.map TextWord.isWord).getD false

def run {α : Type} : Pattern → Step α
  | empty, s, k => k s
  | one p, s, k =>
    match s.rest with
    | c :: cs => if p c then k { s with before := some c, rest := cs } else none
    | [] => none
  | seq a b, s, k => a.run s fun t => b.run t k
  | alt a b, s, k => a.run s k <|> b.run s k
  | many a least extra greedy, s, k =>
    times a.run least s fun t => upTo a.run greedy ((extra.map (t.rest.take ·)).getD t.rest) t k
  | group i a, s, k =>
    a.run s fun t => k { t with groups := (i, ⟨s.rest, t.rest⟩) :: t.groups }
  | edge, s, k => if isEdge s.before s.rest.head? then k s else none
  | notNext a, s, k => if (a.run s some).isSome then none else k s
  | start, s, k => if s.before.isNone then k s else none
  | lineStart, s, k => if s.before.isNone || s.before == some '\n' then k s else none
  | stop, s, k => if s.rest.isEmpty || s.rest == ['\n'] then k s else none

def runAt (p : Pattern) (before : Option Char) (rest : List Char) : Option Place :=
  p.run ⟨before, rest, []⟩ some

/-- The match that starts the text. -/
def matchStart (p : Pattern) (text : List Char) : Option Place := p.runAt none text

def searchFrom (p : Pattern) (before : Option Char) : List Char → Option Place
  | [] => p.runAt before []
  | c :: cs => p.runAt before (c :: cs) <|> searchFrom p (some c) cs

/-- The leftmost match. -/
def search (p : Pattern) (text : List Char) : Option Place := p.searchFrom none text

def found (p : Pattern) (text : List Char) : Bool := (p.search text).isSome

/-- The text of a group, or nothing if the match did not pass it. -/
def Place.group? (m : Place) (i : Nat) : Option (List Char) := (m.groups.lookup i).map Span.chars

def Place.chars (m : Place) (i : Nat) : List Char := (m.group? i).getD []

def Place.text (m : Place) (i : Nat) : String := .ofList (m.chars i)

/-- What is left of a text without all its matches of `p`, found from left to right. -/
def removeAll (p : Pattern) : Nat → Option Char → List Char → List Char
  | 0, _, cs => cs
  | _, _, [] => []
  | fuel + 1, before, c :: cs =>
    match p.runAt before (c :: cs) with
    | some m =>
      if m.rest.length ≤ cs.length then removeAll p fuel m.before m.rest
      else c :: removeAll p fuel (some c) cs
    | none => c :: removeAll p fuel (some c) cs

end Pattern
end FlowSketch

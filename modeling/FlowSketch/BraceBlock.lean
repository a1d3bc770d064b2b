import FlowSketch.BraceOwner

/-! Brace blocks as a tree. Opening a block cuts its parent's tokens back to the last complete statement. A closing
brace without a block is passed over, and blocks still open at the end stay as they are. -/
namespace FlowSketch

/-- A block with its own tokens and the blocks in it; `anchor` is how many tokens its parent had when it opened. -/
structure Block where
  owner : Owner
  tokens : List Token
  children : List Block
  startLine : Nat
  endLine : Nat
  anchor : Nat

namespace Block

/-- The block being read, with the blocks around it, innermost first. -/
structure Open where
  current : Block
  around : List Block

def Open.initial : Open := ⟨⟨.root, [], [], 1, 1, 0⟩, []⟩

def addChild (child parent : Block) : Block := { parent with children := parent.children ++ [child] }

def addToken (t : Token) (b : Block) : Block := { b with tokens := b.tokens ++ [t] }

/-- The block that opens on a line after the given tokens. -/
def opened (before : List Token) (line : Nat) : Block :=
  ⟨Owner.classify before, [], [], line, line, (BraceStatement.complete before).length⟩

def Open.enter (line : Nat) (s : Open) : Open :=
  ⟨opened s.current.tokens line,
    { s.current with tokens := BraceStatement.complete s.current.tokens } :: s.around⟩

def Open.leave (line : Nat) (s : Open) : Open :=
  match s.around with
  | [] => s
  | parent :: around => ⟨addChild { s.current with endLine := line } parent, around⟩

def Open.step (s : Open) (t : Token) : Open :=
  if t.opens then s.enter t.line
  else if t.closes then s.leave t.line
  else { s with current := addToken t s.current }

/-- The whole tree of what has been read. -/
def Open.root (s : Open) : Block := s.around.foldl addChild s.current

def lastLine (tokens : List Token) : Nat := ((tokens.getLast?).map Token.line).getD 1

/-- The block tree of a token list. -/
def ofTokens (tokens : List Token) : Block :=
  { (tokens.foldl Open.step .initial).root with endLine := lastLine tokens }

end Block
end FlowSketch

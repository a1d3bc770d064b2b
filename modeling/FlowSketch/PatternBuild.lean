import FlowSketch.Pattern
import FlowSketch.TextBlank

/-! Ways to write patterns: a text stands for itself, `++` for one after the other, `<|>` for a choice. -/
namespace FlowSketch.Pattern

def word (s : String) : Pattern := s.toList.foldr (fun c p => .seq (.one (· == c)) p) .empty

instance : Coe String Pattern := ⟨word⟩
instance : Append Pattern := ⟨.seq⟩
instance : OrElse Pattern := ⟨fun a b => .alt a (b ())⟩

def oneOf (s : String) : Pattern := .one s.toList.contains

def noneOf (s : String) : Pattern := .one fun c => !s.toList.contains c

def letter : Pattern := .one TextWord.isWord

def digit : Pattern := .one TextWord.isDecimalDigit

def blank : Pattern := .one TextBlank.isBlank

/-- Any character but a line feed. -/
def any : Pattern := .one (· != '\n')

def reps (p : Pattern) : Pattern := .many p 0 none true

def plus (p : Pattern) : Pattern := .many p 1 none true

def opt (p : Pattern) : Pattern := .many p 0 (some 1) true

/-- From `low` to `high` times. -/
def within (low high : Nat) (p : Pattern) : Pattern := .many p low (some (high - low)) true

def lazily : Pattern → Pattern
  | .many a least extra _ => .many a least extra false
  | p => p

/-- Optional blanks. -/
def gap : Pattern := reps blank

/-- A name: one or more word characters. -/
def name : Pattern := plus letter

def choice : List String → Pattern
  | [] => .one fun _ => false
  | [s] => word s
  | s :: ss => .alt (word s) (choice ss)

end FlowSketch.Pattern

import FlowSketch.TextBlank

/-! Cutting brace regions and construct bodies out of the lines of a systems source. A cut works on the lines that
are still ahead: it returns the body, the lines it has passed, and the lines that remain. Text after a closing brace
remains as a line of its own. -/
namespace FlowSketch.SystemsRegion
open TextBlank

abbrev Line := List Char

/-- The contents of the group that closes at depth zero, and the text after it. -/
def closing? (depth : Int) : Line → Option (Line × Line)
  | [] => none
  | c :: cs =>
    if c = ')' && depth = 1 then some ([], cs)
    else
      let inner := if c = '(' then depth + 1 else if c = ')' then depth - 1 else depth
      (closing? inner cs).map fun r => (c :: r.1, r.2)

/-- The contents of the parentheses that open a text, and the text after them. -/
def parenthesised (cs : Line) : Line × Line :=
  match closing? 0 cs with
  | some r => (r.1.drop 1, r.2)
  | none => (cs.drop 1, [])

/-- Statements of a line, each with its semicolon; `current` is the statement being read. Semicolons in parentheses
and in literals do not count. -/
def statementsFrom (current : Line) (depth : Nat) (quote : Option Char) : Line → List Line
  | [] => if allBlank current then [] else [trim current]
  | c :: cs =>
    let read := current ++ [c]
    match quote with
    | some q => statementsFrom read depth (if c = q then none else some q) cs
    | none =>
      if c = '"' || c = '\'' then statementsFrom read depth (some c) cs
      else if c = '(' then statementsFrom read (depth + 1) none cs
      else if c = ')' then statementsFrom read (depth - 1) none cs
      else if c = ';' && depth = 0 then trim read :: statementsFrom [] 0 none cs
      else statementsFrom read depth none cs

def statements (line : Line) : List Line := statementsFrom [] 0 none line

/-- Opening minus closing braces outside literals. -/
def braceBalanceFrom (quote : Option Char) (escaped : Bool) : Line → Int
  | [] => 0
  | c :: cs =>
    match quote with
    | some q =>
      if escaped then braceBalanceFrom quote false cs
      else if c = '\\' then braceBalanceFrom quote true cs
      else braceBalanceFrom (if c = q then none else some q) false cs
    | none =>
      if c = '"' || c = '\'' then braceBalanceFrom (some c) false cs
      else if c = '{' then 1 + braceBalanceFrom none false cs
      else if c = '}' then braceBalanceFrom none false cs - 1
      else braceBalanceFrom none false cs

def braceBalance (line : Line) : Int := braceBalanceFrom none false line

/-- What a line adds to a region: the region ends on it, or goes on with a new depth. -/
inductive Scan where
  | closed (piece rest : Line)
  | inside (piece : Line) (depth : Int) (started : Bool)

def Scan.push (c : Char) : Scan → Scan
  | closed piece rest => closed (c :: piece) rest
  | inside piece depth started => inside (c :: piece) depth started

/-- Braces are counted character by character; the piece begins after the first opening brace. -/
def scan (depth : Int) (started : Bool) : Line → Scan
  | [] => .inside [] depth started
  | c :: cs =>
    if c = '{' then
      if started then (scan (depth + 1) true cs).push c else scan (depth + 1) true cs
    else if c = '}' then
      if started then if depth = 1 then .closed [] cs else (scan (depth - 1) true cs).push c
      else scan (depth - 1) false cs
    else if started then (scan depth true cs).push c
    else scan depth false cs

structure Cut where
  body : List Line
  passed : List Line
  rest : List Line

def Cut.pass (line : Line) (c : Cut) : Cut := { c with passed := line :: c.passed }

/-- A piece of a body counts as a line unless it is blank. -/
def kept (piece : Line) : List Line := if allBlank piece then [] else [piece]

/-- Text after a closing brace that is worth a line. -/
def leftover (after : Line) : Option Line :=
  if trim after = [] || trim after = [';'] then none else some (trim after)

def region (depth : Int) (started : Bool) : List Line → Cut
  | [] => ⟨[], [], []⟩
  | line :: lines =>
    match scan depth started line with
    | .closed piece after =>
      match leftover after with
      | some rest => ⟨kept piece, [], rest :: lines⟩
      | none => ⟨kept piece, [line], lines⟩
    | .inside piece d s =>
      let later := region d s lines
      ⟨kept piece ++ later.body, line :: later.passed, later.rest⟩

/-- The body of the first brace region. -/
def block : List Line → Cut
  | [] => ⟨[], [], []⟩
  | line :: lines => if line.contains '{' then region 0 false (line :: lines) else (block lines).pass line

/-- The body of a construct that has no text after its header: a region or the next line that is not blank. -/
def nextBody : List Line → Cut
  | [] => ⟨[], [], []⟩
  | line :: lines =>
    if allBlank line then (nextBody lines).pass line
    else if (trim line).head? = some '{' then block (line :: lines)
    else ⟨[line], [line], lines⟩

/-- The body of a construct on the line `header`, where `after` is the text after its condition. -/
def bodyAfter (header after : Line) (following : List Line) : Cut :=
  if (trim after).head? = some '{' then block (trim after :: following)
  else if trim after = [';'] then ⟨[], [header], following⟩
  else if trim after = [] then (nextBody following).pass header
  else ⟨[trim after], [header], following⟩

/-- Characters and line ends of a list of lines. -/
def weight (lines : List Line) : Nat := lines.foldr (fun l n => l.length + 1 + n) 0

@[simp] theorem weight_nil : weight [] = 0 := rfl

@[simp] theorem weight_cons (l : Line) (ls : List Line) : weight (l :: ls) = l.length + 1 + weight ls := rfl

@[simp] theorem weight_append (a b : List Line) : weight (a ++ b) = weight a + weight b := by
  induction a with
  | nil => simp
  | cons l a ih =>
    rw [List.cons_append, weight_cons, weight_cons, ih]
    omega

theorem trim_length (cs : Line) : (trim cs).length ≤ cs.length := by
  unfold trim dropEndBlanks dropBlanks
  have h1 := (List.dropWhile_sublist (l := cs) isBlank).length_le
  have h2 := (List.dropWhile_sublist (l := (cs.dropWhile isBlank).reverse) isBlank).length_le
  simp only [List.length_reverse] at *
  omega

theorem kept_weight (piece : Line) : weight (kept piece) ≤ piece.length + 1 := by
  unfold kept; split <;> simp

theorem leftover_length {after rest : Line} (h : leftover after = some rest) : rest.length ≤ after.length := by
  unfold leftover at h
  split at h
  · simp at h
  · simp only [Option.some.injEq] at h; subst h; exact trim_length after

/-- The length of what a scan keeps. -/
def Scan.size : Scan → Nat
  | closed piece rest => piece.length + rest.length + 1
  | inside piece _ _ => piece.length

theorem Scan.size_push (c : Char) (s : Scan) : (s.push c).size = s.size + 1 := by
  cases s <;> simp [push, size] ; omega

theorem scan_size (depth : Int) (started : Bool) (line : Line) : (scan depth started line).size ≤ line.length := by
  induction line generalizing depth started with
  | nil => simp [scan, Scan.size]
  | cons c cs ih =>
    have push : ∀ d s, ((scan d s cs).push c).size ≤ cs.length + 1 := fun d s => by
      rw [Scan.size_push]; exact Nat.succ_le_succ (ih d s)
    have skip : ∀ d s, (scan d s cs).size ≤ cs.length + 1 := fun d s => Nat.le_succ_of_le (ih d s)
    unfold scan
    simp only [List.length_cons]
    split
    · split
      · exact push _ _
      · exact skip _ _
    · split
      · split
        · split
          · simp [Scan.size]
          · exact push _ _
        · exact skip _ _
      · split
        · exact push _ _
        · exact skip _ _

/-- Before its first brace a region keeps less than the line has, if the line has one. -/
theorem scan_size_lt (depth : Int) {line : Line} (h : line.contains '{' = true) :
    (scan depth false line).size < line.length := by
  induction line generalizing depth with
  | nil => simp at h
  | cons c cs ih =>
    have skip : ∀ d s, (scan d s cs).size < cs.length + 1 := fun d s => Nat.lt_succ_of_le (scan_size d s cs)
    unfold scan
    simp only [List.length_cons, Bool.false_eq_true, if_false]
    split
    · exact skip _ _
    · split <;> exact skip _ _

/-- A cut whose body and remaining lines weigh at most `n`. -/
def Cut.Within (n : Nat) (c : Cut) : Prop := weight c.body + weight c.rest ≤ n

theorem region_within_of_size (depth : Int) (started : Bool) (line : Line) (lines : List Line) {n : Nat}
    (hs : (scan depth started line).size ≤ n)
    (ih : ∀ d s, (region d s lines).Within (weight lines)) :
    (region depth started (line :: lines)).Within (n + 1 + weight lines) := by
  unfold region Cut.Within
  split
  · rename_i piece after he
    rw [he] at hs
    simp only [Scan.size] at hs
    have hk := kept_weight piece
    split
    · rename_i rest hl
      have := leftover_length hl
      simp only [weight_cons]; omega
    · simp only; omega
  · rename_i piece d s he
    rw [he] at hs
    simp only [Scan.size] at hs
    have hk := kept_weight piece
    have := ih d s
    unfold Cut.Within at this
    simp only [weight_append]; omega

theorem region_within (depth : Int) (started : Bool) (lines : List Line) :
    (region depth started lines).Within (weight lines) := by
  induction lines generalizing depth started with
  | nil => simp [region, Cut.Within]
  | cons line lines ih =>
    simpa using region_within_of_size depth started line lines (scan_size depth started line) fun d s => ih d s

theorem block_within (lines : List Line) (h : lines ≠ []) : (block lines).Within (weight lines - 1) := by
  induction lines with
  | nil => exact absurd rfl h
  | cons line lines ih =>
    unfold block
    split
    · rename_i hc
      have hs := scan_size_lt 0 hc
      have := region_within_of_size 0 false line lines (Nat.le_sub_one_of_lt hs) fun d s => region_within d s lines
      unfold Cut.Within at *
      simp only [weight_cons]; omega
    · cases lines with
      | nil => simp [block, Cut.pass, Cut.Within]
      | cons l ls =>
        have := ih (by simp)
        unfold Cut.Within Cut.pass at *
        simp only [weight_cons] at *; omega

theorem nextBody_within (lines : List Line) : (nextBody lines).Within (weight lines) := by
  induction lines with
  | nil => simp [nextBody, Cut.Within]
  | cons line lines ih =>
    unfold nextBody
    split
    · unfold Cut.Within Cut.pass at *; simp only [weight_cons]; omega
    · split
      · have := block_within (line :: lines) (by simp)
        unfold Cut.Within at *; omega
      · simp [Cut.Within]

/-- Body and remaining lines weigh no more than the text after the header with the lines that follow. -/
theorem bodyAfter_within (header after : Line) (following : List Line) :
    (bodyAfter header after following).Within (after.length + 1 + weight following) := by
  have ht := trim_length after
  unfold bodyAfter
  split
  · have := block_within (trim after :: following) (by simp)
    unfold Cut.Within at *; simp only [weight_cons] at this; omega
  · split
    · simp [Cut.Within]
    · split
      · have := nextBody_within following
        unfold Cut.Within Cut.pass at *; simp only; omega
      · simp only [Cut.Within, weight_cons, weight_nil]; omega

end FlowSketch.SystemsRegion

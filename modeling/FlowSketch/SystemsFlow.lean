import FlowSketch.SystemsActions
import FlowSketch.SystemsComment
import FlowSketch.SystemsHeader

/-! The control flow of systems languages, read line by line: a construct takes its body from the lines ahead, and the
body is read in turn. Every cut leaves less than it took, which is why reading ends. -/
namespace FlowSketch.SystemsFlow
open TextBlank SystemsRegion SystemsHeader

theorem closing?_length {depth : Int} {cs : Line} {r : Line × Line} (h : closing? depth cs = some r) :
    r.2.length < cs.length := by
  induction cs generalizing depth r with
  | nil => simp [closing?] at h
  | cons c cs ih =>
    unfold closing? at h
    split at h
    · simp only [Option.some.injEq] at h; subst h; simp
    · obtain ⟨s, hs, rfl⟩ := Option.map_eq_some_iff.1 h
      have := ih hs
      exact Nat.lt_succ_of_lt this

/-- The text after a condition is shorter than its line, or there is none. -/
theorem condition_length (line : Line) : (condition line).2.length < line.length ∨ (condition line).2 = [] := by
  unfold condition parenthesised
  split
  · rename_i r h
    have h1 := closing?_length h
    have h2 : (fromParenthesis line).length ≤ line.length := (List.dropWhile_sublist _).length_le
    exact .inl (Nat.lt_of_lt_of_le h1 h2)
  · exact .inr rfl

theorem bodyAfter_lt {header after : Line} (following : List Line)
    (h : after.length < header.length ∨ after = []) :
    weight (bodyAfter header after following).body + weight (bodyAfter header after following).rest
      < weight (header :: following) := by
  have hw := bodyAfter_within header after following
  unfold Cut.Within at hw
  rcases h with h | h
  · simp only [weight_cons]; omega
  · subst h
    have := nextBody_within following
    have ht : trim ([] : Line) = [] := rfl
    unfold Cut.Within at this
    simp only [bodyAfter, ht, List.head?_nil, reduceCtorEq, if_false, List.ne_cons_self, if_true, Cut.pass, weight_cons]
    omega

theorem condition_trim_length (header : Line) :
    (condition (trim header)).2.length < header.length ∨ (condition (trim header)).2 = [] := by
  have := trim_length header
  rcases condition_length (trim header) with h | h
  · exact .inl (by omega)
  · exact .inr h

theorem after?_length {lead : String} {line rest : Line} (h : after? lead line = some rest) :
    rest.length ≤ line.length - lead.length := by
  unfold after? at h
  split at h
  · simp only [Option.some.injEq] at h; subst h; simp
  · simp at h

theorem afterWord?_length {w : String} {line rest : Line} (h : afterWord? w line = some rest) :
    rest.length ≤ line.length - w.length := by
  unfold afterWord? at h
  simp only [Option.bind_eq_bind] at h
  obtain ⟨r, hr, h⟩ := Option.bind_eq_some_iff.1 h
  split at h
  · simp at h
  · simp only [Option.some.injEq] at h; subst h; exact after?_length hr

/-- The lines after those that are blank. -/
def nextCode (lines : List Line) : List Line := lines.dropWhile allBlank

def blanksAhead (lines : List Line) : List Line := lines.takeWhile allBlank

theorem nextCode_weight (lines : List Line) : weight (nextCode lines) ≤ weight lines := by
  unfold nextCode
  induction lines with
  | nil => simp
  | cons l ls ih =>
    rw [List.dropWhile_cons]
    split
    · simp only [weight_cons]; omega
    · exact Nat.le_refl _

structure Branch where
  condition : Line
  body : List Line

/-- An if with its else clauses, cut out of the lines ahead. -/
structure Chain where
  branches : List Branch
  otherwise : List Line
  passed : List Line
  rest : List Line

/-- What follows an else clause's word, if a line begins with one. -/
def elseAfter? (line : Line) : Option Line := afterWord? "else" (trim line)

def chain (header : Line) (following : List Line) : Chain :=
  let head : Branch := ⟨(condition (trim header)).1, (bodyAfter header (condition (trim header)).2 following).body⟩
  let passed := (bodyAfter header (condition (trim header)).2 following).passed
  let rest := (bodyAfter header (condition (trim header)).2 following).rest
  match _h : nextCode rest with
  | [] => ⟨[head], [], passed, rest⟩
  | next :: more =>
    if isElseIf (trim next) then
      let later := chain next more
      ⟨head :: later.branches, later.otherwise, passed ++ blanksAhead rest ++ later.passed, later.rest⟩
    else match elseAfter? next with
      | some after =>
        let cut := bodyAfter next after more
        ⟨[head], cut.body, passed ++ blanksAhead rest ++ cut.passed, cut.rest⟩
      | none => ⟨[head], [], passed, rest⟩
termination_by weight (header :: following)
decreasing_by
  have h1 := bodyAfter_lt following (condition_trim_length header)
  have h2 := nextCode_weight (bodyAfter header (condition (trim header)).2 following).rest
  rw [_h] at h2
  omega

def branchWeight : List Branch → Nat
  | [] => 0
  | b :: bs => weight b.body + branchWeight bs

theorem elseAfter?_length {line after : Line} (h : elseAfter? line = some after) :
    after.length < line.length ∨ after = [] := by
  have h1 := afterWord?_length h
  have h2 := trim_length line
  have h3 : ("else" : String).length = 4 := rfl
  cases after with
  | nil => exact .inr rfl
  | cons a as => left; simp only [List.length_cons] at *; omega

theorem chain_weight (header : Line) (following : List Line) :
    branchWeight (chain header following).branches + weight (chain header following).otherwise
      + weight (chain header following).rest < weight (header :: following) := by
  fun_induction chain header following with
  | case1 header following head passed rest h =>
    have h1 := bodyAfter_lt following (condition_trim_length header)
    simp only [branchWeight, weight_nil, head, rest]; omega
  | case2 header following head passed rest next more h _ later ih =>
    have h1 := bodyAfter_lt following (condition_trim_length header)
    have h2 := nextCode_weight rest
    rw [h] at h2
    simp only [branchWeight, head, rest, later] at *; omega
  | case3 header following head passed rest next more h _ after ha cut =>
    have h1 := bodyAfter_lt following (condition_trim_length header)
    have h2 := nextCode_weight rest
    have h3 := bodyAfter_lt more (elseAfter?_length ha)
    rw [h] at h2
    simp only [branchWeight, head, rest, cut] at *; omega
  | case4 header following head passed rest next more h _ ha =>
    have h1 := bodyAfter_lt following (condition_trim_length header)
    simp only [branchWeight, weight_nil, head, rest]; omega

/-- A case of a switch with the lines up to the next case. -/
structure Clause where
  label : Line
  lines : List Line

def clauseWeight : List Clause → Nat
  | [] => 0
  | c :: cs => weight c.lines + clauseWeight cs

/-- The depth of braces after a line; it never falls below zero. -/
def depthAfter (depth : Nat) (line : Line) : Nat := (depth + braceBalance (trim line)).toNat

/-- The label that a line of a switch body begins; labels in braces belong to a nested switch. -/
def clauseAt (depth : Nat) (line : Line) : Option (Line × Line) :=
  if depth = 0 then clauseLabel? (trim line) else none

/-- Text after a label on the same line is the first line of its case. -/
def firstLine (after : Line) : List Line := if trim after = [] then [] else [trim after]

/-- The lines before the first case, and the cases. -/
def clausesFrom (depth : Nat) : List Line → List Line × List Clause
  | [] => ([], [])
  | line :: lines =>
    let later := clausesFrom (depthAfter depth line) lines
    match clauseAt depth line with
    | some (label, after) => ([], ⟨label, firstLine after ++ later.1⟩ :: later.2)
    | none => (line :: later.1, later.2)

theorem endsLabel_length {cs rest : Line} (h : endsLabel cs = some rest) : rest.length < cs.length := by
  have hd : (dropBlanks cs).length ≤ cs.length := (List.dropWhile_sublist _).length_le
  unfold endsLabel at h
  split at h
  · rename_i r he
    split at h
    · simp at h
    · simp only [Option.some.injEq] at h
      subst h; rw [he] at hd; exact hd
  · simp at h

theorem shortestLabel_length {cs : Line} {r : Line × Line} (h : shortestLabel cs = some r) :
    r.2.length < cs.length := by
  induction cs generalizing r with
  | nil => simp [shortestLabel] at h
  | cons c cs ih =>
    unfold shortestLabel at h
    split at h
    · simp at h
    · split at h
      · rename_i rest he
        simp only [Option.some.injEq] at h; subst h
        exact Nat.lt_succ_of_lt (endsLabel_length he)
      · obtain ⟨s, hs, rfl⟩ := Option.map_eq_some_iff.1 h
        have := ih hs
        exact Nat.lt_succ_of_lt this

theorem length_of_mem_afterBlanks {cs t : Line} (h : t ∈ afterBlanks cs) : t.length ≤ cs.length := by
  induction cs with
  | nil => simp [afterBlanks] at h
  | cons c cs ih =>
    unfold afterBlanks at h
    split at h
    · rcases List.mem_append.1 h with h | h
      · exact Nat.le_succ_of_le (ih h)
      · simp only [List.mem_singleton] at h; subst h; simp
    · simp at h

theorem clauseLabel?_length {line : Line} {r : Line × Line} (h : clauseLabel? line = some r) :
    r.2.length ≤ line.length := by
  unfold clauseLabel? at h
  rcases Option.or_eq_some_iff.1 (by simpa using h) with h | ⟨_, h⟩
  · unfold caseLabel? at h
    simp only [Option.bind_eq_bind] at h
    obtain ⟨s, hs, h⟩ := Option.bind_eq_some_iff.1 h
    obtain ⟨t, ht, h⟩ := List.exists_of_findSome?_eq_some h
    have h1 := after?_length hs
    have h2 := length_of_mem_afterBlanks ht
    have h3 := shortestLabel_length h
    omega
  · unfold defaultLabel? at h
    simp only [Option.bind_eq_bind] at h
    obtain ⟨s, hs, h⟩ := Option.bind_eq_some_iff.1 h
    have h1 := after?_length hs
    have h2 : (dropBlanks s).length ≤ s.length := (List.dropWhile_sublist _).length_le
    split at h
    · rename_i t he
      simp only [Option.some.injEq] at h; subst h
      rw [he] at h2; simp only [List.length_cons] at *; omega
    · simp at h

theorem firstLine_weight (after : Line) : weight (firstLine after) ≤ after.length + 1 := by
  have := trim_length after
  unfold firstLine; split
  · simp
  · simpa using this

theorem clausesFrom_weight (depth : Nat) (lines : List Line) :
    weight (clausesFrom depth lines).1 + clauseWeight (clausesFrom depth lines).2 ≤ weight lines := by
  induction lines generalizing depth with
  | nil => simp [clausesFrom, clauseWeight]
  | cons line lines ih =>
    have hl := ih (depthAfter depth line)
    unfold clausesFrom
    simp only
    split
    · rename_i label after he
      unfold clauseAt at he
      split at he
      · have h1 := clauseLabel?_length he
        have h2 := trim_length line
        have h3 := firstLine_weight after
        simp only [clauseWeight, weight_nil, weight_append, weight_cons] at *; omega
      · simp at he
    · simp only [weight_cons]; omega

/-- The lines of a case without those that begin with `break`. -/
def Clause.code (c : Clause) : List Line := c.lines.filter fun l => !isBreak l

theorem weight_filter_le (p : Line → Bool) (lines : List Line) : weight (lines.filter p) ≤ weight lines := by
  induction lines with
  | nil => simp
  | cons l ls ih => rw [List.filter_cons]; split <;> simp only [weight_cons] <;> omega

def text (cs : Line) : String := .ofList cs

def clipped (limit : Nat) (cs : Line) : String := text (SystemsActions.safeChars ((trim cs).take limit))

/-- The second of the three parts of a for header. -/
def forLabel (inner : Line) : String :=
  match cut ';' inner with
  | _ :: test :: _ :: _ => if (clipped 40 test).isEmpty then "For: condition" else "For: " ++ clipped 40 test
  | _ => "For: condition"

/-- A while that closes a do loop is passed. -/
def afterDo (rest : List Line) : List Line :=
  match nextCode rest with
  | [] => rest
  | next :: more => if calls "while" (trim next) then more else rest

theorem afterDo_weight (rest : List Line) : weight (afterDo rest) ≤ weight rest := by
  have h := nextCode_weight rest
  unfold afterDo
  split
  · exact Nat.le_refl _
  · rename_i next more he
    rw [he] at h
    split
    · simp only [weight_cons] at h; omega
    · exact Nat.le_refl _

/-- Lines without content of their own. -/
def isFiller (line : Line) : Bool := line = [] || line = ['{'] || line = ['}'] || line = ['}', ';']

def stepNodes (line : Line) : List Node := ((statements line).filterMap SystemsActions.stepOf).map Node.step

def afterDoWord (line : Line) : Line := line.drop 2

theorem afterDoWord_length (line : Line) :
    (afterDoWord (trim line)).length < line.length ∨ afterDoWord (trim line) = [] := by
  have := trim_length line
  unfold afterDoWord
  by_cases h : (trim line).length ≤ 2
  · exact .inr (List.drop_eq_nil_of_le h)
  · left; simp only [List.length_drop]; omega

mutual

/-- The nodes of a list of lines. -/
def nodesOf : List Line → List Node
  | [] => []
  | raw :: following =>
    if isFiller (trim raw) then nodesOf following
    else match header? (trim raw) with
      | some .branch =>
        have := chain_weight raw following
        decisions (chain raw following).branches (chain raw following).otherwise ++ nodesOf (chain raw following).rest
      | some .forLoop =>
        have := bodyAfter_lt following (condition_trim_length raw)
        .loop (forLabel (condition (trim raw)).1) "for" (nodesOf (bodyAfter raw (condition (trim raw)).2 following).body)
          :: nodesOf (bodyAfter raw (condition (trim raw)).2 following).rest
      | some .whileLoop =>
        have := bodyAfter_lt following (condition_trim_length raw)
        .loop ("While: " ++ clipped 40 (condition (trim raw)).1) "while"
            (nodesOf (bodyAfter raw (condition (trim raw)).2 following).body)
          :: nodesOf (bodyAfter raw (condition (trim raw)).2 following).rest
      | some .doLoop =>
        have := bodyAfter_lt following (afterDoWord_length raw)
        have := afterDo_weight (bodyAfter raw (afterDoWord (trim raw)) following).rest
        .loop "do...while loop" "do-while" (nodesOf (bodyAfter raw (afterDoWord (trim raw)) following).body)
          :: nodesOf (afterDo (bodyAfter raw (afterDoWord (trim raw)) following).rest)
      | some .switch =>
        have := bodyAfter_lt following (condition_trim_length raw)
        have := clausesFrom_weight 0 (bodyAfter raw (condition (trim raw)).2 following).body
        .switch ("Switch on " ++ clipped 30 (condition (trim raw)).1)
            (casesOf (clausesFrom 0 (bodyAfter raw (condition (trim raw)).2 following).body).2)
          :: nodesOf (bodyAfter raw (condition (trim raw)).2 following).rest
      | none => stepNodes (trim raw) ++ nodesOf following
termination_by lines => (weight lines, 0)
decreasing_by all_goals (simp only [weight_cons, Prod.lex_def] at *; omega)

/-- A chain as one decision, each else clause on the no side of the one before. -/
def decisions (branches : List Branch) (otherwise : List Line) : List Node :=
  match branches with
  | [] => nodesOf otherwise
  | b :: bs => [.decision (clipped 60 b.condition) (nodesOf b.body) (decisions bs otherwise)]
termination_by (branchWeight branches + weight otherwise, branches.length + 1)
decreasing_by all_goals (simp only [branchWeight, List.length_cons, Prod.lex_def] at *; omega)

def casesOf : List Clause → List Case
  | [] => []
  | c :: cs =>
    have := weight_filter_le (fun l => !isBreak l) c.lines
    ⟨text c.label, nodesOf c.code⟩ :: casesOf cs
termination_by cs => (clauseWeight cs, cs.length + 1)
decreasing_by all_goals (simp only [clauseWeight, Clause.code, List.length_cons, Prod.lex_def] at *; omega)

end

/-- The cases of a switch body. -/
def switchCases (lines : List Line) : List Case := casesOf (clausesFrom 0 lines).2

/-- Functions become nodes; the lines between them are read on their own, `loose` being those read so far. -/
def functionsFrom (loose : List Line) : List Line → List Node
  | [] => nodesOf loose
  | line :: lines =>
    match function? (trim line) with
    | some h =>
      nodesOf loose ++ .function h.label (nodesOf (block (line :: lines)).body)
        :: functionsFrom [] (block (line :: lines)).rest
    | none => functionsFrom (loose ++ [line]) lines
termination_by lines => weight lines
decreasing_by
  · have := block_within (line :: lines) (by simp)
    unfold Cut.Within at this
    simp only [weight_cons] at *; omega
  · simp only [weight_cons]; omega

def ofSource (code : String) : List Node := functionsFrom [] (cut '\n' (SystemsComment.strip code.toList))

end FlowSketch.SystemsFlow

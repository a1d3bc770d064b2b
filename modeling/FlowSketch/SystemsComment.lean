/-! Sources without their comments: first the block comments, each leaving a space, then the line comments. -/
namespace FlowSketch.SystemsComment

/-- The text after the first end of a block comment. -/
def afterBlock? : List Char → Option (List Char)
  | [] => none
  | '*' :: '/' :: cs => some cs
  | _ :: cs => afterBlock? cs

theorem afterBlock?_length {cs rest : List Char} (h : afterBlock? cs = some rest) : rest.length < cs.length := by
  fun_induction afterBlock? cs with
  | case1 => simp at h
  | case2 cs => simp only [Option.some.injEq] at h; subst h; simp only [List.length_cons]; omega
  | case3 _ cs _ ih => exact Nat.lt_succ_of_lt (ih h)

/-- A block comment that is never closed stays. -/
def dropBlocks : List Char → List Char
  | [] => []
  | '/' :: '*' :: cs =>
    match _h : afterBlock? cs with
    | some rest => ' ' :: dropBlocks rest
    | none => '/' :: dropBlocks ('*' :: cs)
  | c :: cs => c :: dropBlocks cs
termination_by cs => cs.length
decreasing_by
  · have := afterBlock?_length _h; simp only [List.length_cons]; omega
  · simp
  · simp

def dropLines : List Char → List Char
  | [] => []
  | '/' :: '/' :: cs => dropLines (cs.dropWhile (· ≠ '\n'))
  | c :: cs => c :: dropLines cs
termination_by cs => cs.length
decreasing_by
  · have := (List.dropWhile_sublist (l := cs) (· ≠ '\n')).length_le
    simp only [List.length_cons]; omega
  · simp

def strip (cs : List Char) : List Char := dropLines (dropBlocks cs)

end FlowSketch.SystemsComment

/-! Square brackets written as round ones. -/
namespace FlowSketch.TextBracket

/-- Every `[…]` with something in it becomes `(…)`; what is inside is not looked at again. -/
def rounded : List Char → List Char
  | [] => []
  | c :: cs =>
    if c = '[' && !(cs.takeWhile (· ≠ ']')).isEmpty && !(cs.dropWhile (· ≠ ']')).isEmpty then
      '(' :: cs.takeWhile (· ≠ ']') ++ ')' :: rounded ((cs.dropWhile (· ≠ ']')).drop 1)
    else c :: rounded cs
termination_by cs => cs.length
decreasing_by
  · have := (List.dropWhile_sublist (l := cs) (· ≠ ']')).length_le
    simp only [List.length_drop, List.length_cons]; omega
  · exact Nat.lt_succ_self _

end FlowSketch.TextBracket

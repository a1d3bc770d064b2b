import FlowSketch.SystemsComment
import Mathlib

/-!
# Sources without comments

The first pass puts a space for every block comment, the second cuts every line at a line comment. Neither puts
characters next to each other that could begin or end a comment, so one call leaves no comment for a second one.
-/
namespace FlowSketch.SystemsComment

/-! ### Comments in a text -/

theorem pair_infix_cons {a b c : Char} {cs : List Char} :
    [a, b] <:+: c :: cs ↔ (c = a ∧ cs.head? = some b) ∨ [a, b] <:+: cs := by
  rw [List.infix_cons_iff, List.cons_prefix_cons, List.singleton_prefix_iff_head?_eq_some, eq_comm]

/-- The end of a block comment stands in a text. -/
def EndsBlock (cs : List Char) : Prop := ['*', '/'] <:+: cs

/-- A line comment begins in a text. -/
def BeginsLine (cs : List Char) : Prop := ['/', '/'] <:+: cs

/-- A whole block comment stands in a text: its end begins two or more characters behind its beginning. -/
def HoldsBlock (cs : List Char) : Prop := ∃ a b, cs = a ++ '/' :: '*' :: b ∧ EndsBlock b

theorem holdsBlock_cons {c : Char} {cs : List Char} :
    HoldsBlock (c :: cs) ↔ (c = '/' ∧ ∃ b, cs = '*' :: b ∧ EndsBlock b) ∨ HoldsBlock cs := by
  constructor
  · rintro ⟨a, b, heq, hb⟩
    cases a with
    | nil =>
      obtain ⟨rfl, rfl⟩ := List.cons.inj heq
      exact .inl ⟨rfl, b, rfl, hb⟩
    | cons d a =>
      obtain ⟨rfl, rfl⟩ := List.cons.inj heq
      exact .inr ⟨a, b, rfl, hb⟩
  · rintro (⟨rfl, b, rfl, hb⟩ | ⟨a, b, rfl, hb⟩)
    · exact ⟨[], b, rfl, hb⟩
    · exact ⟨c :: a, b, rfl, hb⟩

theorem not_holdsBlock_nil : ¬ HoldsBlock [] := by simp [HoldsBlock]

theorem afterBlock?_cons (c : Char) (cs : List Char) :
    afterBlock? (c :: cs) = if c = '*' ∧ cs.head? = some '/' then some cs.tail else afterBlock? cs := by
  split_ifs with h
  · obtain ⟨rfl, hhead⟩ := h
    cases cs with
    | nil => cases hhead
    | cons d cs =>
      obtain rfl : d = '/' := by simpa using hhead
      rfl
  · refine afterBlock?.eq_3 c cs fun rest hc hcs => h ⟨hc, ?_⟩
    rw [hcs, List.head?_cons]

theorem afterBlock?_eq_none {cs : List Char} : afterBlock? cs = none ↔ ¬ EndsBlock cs := by
  induction cs with
  | nil => simp [afterBlock?, EndsBlock]
  | cons c cs ih =>
    rw [afterBlock?_cons, EndsBlock, pair_infix_cons, not_or, ← EndsBlock, ← ih]
    split_ifs with h <;> simp [h]

theorem eq_of_afterBlock? {cs rest : List Char} (h : afterBlock? cs = some rest) :
    ∃ inner, cs = inner ++ '*' :: '/' :: rest := by
  fun_induction afterBlock? cs with
  | case1 => cases h
  | case2 cs =>
    obtain rfl : cs = rest := by simpa using h
    exact ⟨[], rfl⟩
  | case3 c cs _ ih =>
    obtain ⟨inner, rfl⟩ := ih h
    exact ⟨c :: inner, rfl⟩

theorem endsBlock_of_afterBlock? {cs rest : List Char} (h : afterBlock? cs = some rest) : EndsBlock cs := by
  by_contra hnone
  rw [afterBlock?_eq_none.mpr hnone] at h
  cases h

/-! ### The first pass -/

theorem dropBlocks_block {cs rest : List Char} (h : afterBlock? cs = some rest) :
    dropBlocks ('/' :: '*' :: cs) = ' ' :: dropBlocks rest := by
  rw [dropBlocks]
  split <;> simp_all

theorem dropBlocks_open {cs : List Char} (h : ¬ EndsBlock cs) :
    dropBlocks ('/' :: '*' :: cs) = '/' :: dropBlocks ('*' :: cs) := by
  rw [dropBlocks]
  split <;> simp_all [afterBlock?_eq_none.mpr h]

theorem dropBlocks_cons {c : Char} {cs : List Char} (h : c = '/' → cs.head? ≠ some '*') :
    dropBlocks (c :: cs) = c :: dropBlocks cs := by
  refine dropBlocks.eq_3 c cs fun rest hc hcs => h hc ?_
  rw [hcs, List.head?_cons]

/-- The first pass keeps the first character, or puts a space for it. -/
theorem head_dropBlocks (cs : List Char) :
    (dropBlocks cs).head? = cs.head? ∨ (dropBlocks cs).head? = some ' ' := by
  fun_induction dropBlocks cs with
  | case1 => exact .inl rfl
  | case2 => exact .inr rfl
  | case3 => exact .inl rfl
  | case4 => exact .inl rfl

theorem head_of_dropBlocks {c : Char} {cs : List Char} (hc : c ≠ ' ') (h : (dropBlocks cs).head? = some c) :
    cs.head? = some c := by
  rcases head_dropBlocks cs with heq | heq
  · exact heq ▸ h
  · rw [heq] at h
    exact absurd (Option.some.inj h).symm hc

theorem endsBlock_of_dropBlocks {cs : List Char} (h : EndsBlock (dropBlocks cs)) : EndsBlock cs := by
  fun_induction dropBlocks cs with
  | case1 => exact h
  | case2 cs rest hrest ih =>
    obtain ⟨inner, rfl⟩ := eq_of_afterBlock? hrest
    exact ⟨'/' :: '*' :: inner, rest, by simp⟩
  | case3 cs hnone ih =>
    rw [EndsBlock, pair_infix_cons] at h ⊢
    exact .inr (ih (h.resolve_left (by simp)))
  | case4 c cs _ ih =>
    rw [EndsBlock, pair_infix_cons] at h ⊢
    rcases h with ⟨rfl, hhead⟩ | h
    · exact .inl ⟨rfl, head_of_dropBlocks (by decide) hhead⟩
    · exact .inr (ih h)

/-- The first pass leaves no whole block comment. -/
theorem not_holdsBlock_dropBlocks (cs : List Char) : ¬ HoldsBlock (dropBlocks cs) := by
  fun_induction dropBlocks cs with
  | case1 => exact not_holdsBlock_nil
  | case2 cs rest _ ih =>
    rw [holdsBlock_cons, not_or]
    exact ⟨by simp, ih⟩
  | case3 cs hnone ih =>
    rw [holdsBlock_cons, not_or]
    refine ⟨?_, ih⟩
    rintro ⟨-, b, heq, hb⟩
    rw [dropBlocks_cons (by simp)] at heq
    obtain ⟨-, rfl⟩ := List.cons.inj heq
    exact afterBlock?_eq_none.mp hnone (endsBlock_of_dropBlocks hb)
  | case4 c cs hplain ih =>
    rw [holdsBlock_cons, not_or]
    refine ⟨?_, ih⟩
    rintro ⟨rfl, b, heq, -⟩
    have hhead : cs.head? = some '*' := head_of_dropBlocks (by decide) (by rw [heq, List.head?_cons])
    obtain ⟨tail, rfl⟩ := List.head?_eq_some_iff.mp hhead
    exact hplain tail rfl rfl

theorem dropBlocks_eq_self {cs : List Char} (h : ¬ HoldsBlock cs) : dropBlocks cs = cs := by
  fun_induction dropBlocks cs with
  | case1 => rfl
  | case2 cs rest hrest _ => exact absurd ⟨[], cs, rfl, endsBlock_of_afterBlock? hrest⟩ h
  | case3 cs _ ih =>
    rw [holdsBlock_cons, not_or] at h
    rw [ih h.2]
  | case4 c cs _ ih =>
    rw [holdsBlock_cons, not_or] at h
    rw [ih h.2]

/-! ### The second pass -/

theorem dropLines_comment (cs : List Char) :
    dropLines ('/' :: '/' :: cs) = dropLines (cs.dropWhile (· ≠ '\n')) := by rw [dropLines]

theorem dropLines_cons {c : Char} {cs : List Char} (h : c = '/' → cs.head? ≠ some '/') :
    dropLines (c :: cs) = c :: dropLines cs := by
  refine dropLines.eq_3 c cs fun rest hc hcs => h hc ?_
  rw [hcs, List.head?_cons]

/-- Behind a line comment there is the end of its line or nothing. -/
theorem head_behindLine {c : Char} {cs : List Char} (h : (cs.dropWhile (· ≠ '\n')).head? = some c) : c = '\n' := by
  have hstop := List.head?_dropWhile_not (· ≠ '\n') cs
  rw [h] at hstop
  simpa using hstop

theorem head_of_dropLines {c : Char} {cs : List Char} (hc : c ≠ '\n') (h : (dropLines cs).head? = some c) :
    cs.head? = some c := by
  fun_induction dropLines cs with
  | case1 => exact h
  | case2 cs ih => exact absurd (head_behindLine (ih h)) hc
  | case3 => exact h

theorem pair_of_dropLines {a b : Char} (hb : b ≠ '\n') {cs : List Char} (h : [a, b] <:+: dropLines cs) :
    [a, b] <:+: cs := by
  fun_induction dropLines cs with
  | case1 => exact h
  | case2 cs ih =>
    have hsuffix : cs.dropWhile (· ≠ '\n') <:+ '/' :: '/' :: cs :=
      (List.dropWhile_suffix _).trans ((List.suffix_cons '/' cs).trans (List.suffix_cons '/' _))
    exact (ih h).trans hsuffix.isInfix
  | case3 c cs _ ih =>
    rw [pair_infix_cons] at h ⊢
    exact h.imp (fun ⟨hc, hhead⟩ => ⟨hc, head_of_dropLines hb hhead⟩) ih

/-- The second pass leaves no line comment. -/
theorem not_beginsLine_dropLines (cs : List Char) : ¬ BeginsLine (dropLines cs) := by
  fun_induction dropLines cs with
  | case1 => simp [BeginsLine]
  | case2 _ ih => exact ih
  | case3 c cs hplain ih =>
    rw [BeginsLine, pair_infix_cons, not_or]
    refine ⟨?_, ih⟩
    rintro ⟨rfl, hhead⟩
    obtain ⟨tail, rfl⟩ := List.head?_eq_some_iff.mp (head_of_dropLines (by decide) hhead)
    exact hplain tail rfl rfl

theorem HoldsBlock.of_suffix {as bs : List Char} (hs : as <:+ bs) (h : HoldsBlock as) : HoldsBlock bs := by
  obtain ⟨front, rfl⟩ := hs
  obtain ⟨a, b, rfl, hb⟩ := h
  exact ⟨front ++ a, b, by simp, hb⟩

theorem holdsBlock_of_dropLines {cs : List Char} (h : HoldsBlock (dropLines cs)) : HoldsBlock cs := by
  fun_induction dropLines cs with
  | case1 => exact h
  | case2 cs ih =>
    exact (ih h).of_suffix ((List.dropWhile_suffix _).trans ((List.suffix_cons '/' cs).trans (List.suffix_cons '/' _)))
  | case3 c cs _ ih =>
    rw [holdsBlock_cons] at h ⊢
    refine h.imp (fun ⟨hc, b, heq, hb⟩ => ⟨hc, ?_⟩) ih
    have hhead : cs.head? = some '*' := head_of_dropLines (by decide) (by rw [heq, List.head?_cons])
    obtain ⟨tail, rfl⟩ := List.head?_eq_some_iff.mp hhead
    rw [dropLines_cons (by simp)] at heq
    obtain ⟨-, rfl⟩ := List.cons.inj heq
    exact ⟨tail, rfl, pair_of_dropLines (by decide) hb⟩

theorem dropLines_eq_self {cs : List Char} (h : ¬ BeginsLine cs) : dropLines cs = cs := by
  fun_induction dropLines cs with
  | case1 => rfl
  | case2 cs _ => exact absurd ⟨[], cs, rfl⟩ h
  | case3 c cs _ ih =>
    rw [BeginsLine, pair_infix_cons, not_or] at h
    rw [ih h.2]

theorem count_dropLines (cs : List Char) : (dropLines cs).count '\n' = cs.count '\n' := by
  fun_induction dropLines cs with
  | case1 => rfl
  | case2 cs ih =>
    have hnone : (cs.takeWhile (· ≠ '\n')).count '\n' = 0 :=
      List.count_eq_zero_of_not_mem fun hmem => by simpa using List.mem_takeWhile_imp hmem
    have hsplit := congrArg (List.count '\n') (List.takeWhile_append_dropWhile (p := (· ≠ '\n')) (l := cs))
    rw [List.count_append, hnone, Nat.zero_add] at hsplit
    rw [ih, hsplit, List.count_cons_of_ne (by decide), List.count_cons_of_ne (by decide)]
  | case3 c cs _ ih => rw [List.count_cons, List.count_cons, ih]

/-! ### One call -/

/-- A piece of a source. -/
inductive Piece where
  | plain (c : Char)
  | literal (text : List Char)
  | lineComment (text : List Char)
  | blockComment (text : List Char)
  deriving DecidableEq, Repr

def Piece.source : Piece → List Char
  | plain c => [c]
  | literal text | lineComment text | blockComment text => text

/-- A block comment leaves a space, everything else stays. -/
def Piece.spaced : Piece → List Char
  | plain c => [c]
  | literal text | lineComment text => text
  | blockComment _ => [' ']

def Piece.blockText : Piece → List Char
  | blockComment text => text
  | _ => []

/-- The source as the first pass cuts it: the block comments that it removes, and single characters. -/
def firstPass : List Char → List Piece
  | [] => []
  | '/' :: '*' :: cs =>
    match _h : afterBlock? cs with
    | some rest => .blockComment ('/' :: '*' :: cs.take (cs.length - rest.length)) :: firstPass rest
    | none => .plain '/' :: firstPass ('*' :: cs)
  | c :: cs => .plain c :: firstPass cs
termination_by cs => cs.length
decreasing_by
  · have := afterBlock?_length _h
    simp only [List.length_cons]
    omega
  · simp
  · simp

theorem take_append_of_afterBlock? {cs rest : List Char} (h : afterBlock? cs = some rest) :
    cs.take (cs.length - rest.length) ++ rest = cs := by
  obtain ⟨inner, hinner⟩ := eq_of_afterBlock? h
  obtain rfl : cs = (inner ++ ['*', '/']) ++ rest := by rw [hinner, List.append_assoc, List.cons_append, List.singleton_append]
  rw [List.length_append, Nat.add_sub_cancel, List.take_left]

theorem source_firstPass (cs : List Char) : (firstPass cs).flatMap Piece.source = cs := by
  fun_induction firstPass cs with
  | case1 => rfl
  | case2 cs rest hrest ih =>
    rw [List.flatMap_cons, ih, Piece.source, List.cons_append, List.cons_append, take_append_of_afterBlock? hrest]
  | case3 cs _ ih => rw [List.flatMap_cons, ih, Piece.source, List.singleton_append]
  | case4 c cs _ ih => rw [List.flatMap_cons, ih, Piece.source, List.singleton_append]

theorem spaced_firstPass (cs : List Char) : (firstPass cs).flatMap Piece.spaced = dropBlocks cs := by
  fun_induction firstPass cs with
  | case1 => rw [dropBlocks, List.flatMap_nil]
  | case2 cs rest hrest ih => rw [dropBlocks_block hrest, List.flatMap_cons, ih, Piece.spaced, List.singleton_append]
  | case3 cs hnone ih =>
    rw [dropBlocks_open (afterBlock?_eq_none.mp hnone), List.flatMap_cons, ih, Piece.spaced, List.singleton_append]
  | case4 c cs hplain ih =>
    rw [dropBlocks.eq_3 c cs hplain, List.flatMap_cons, ih, Piece.spaced, List.singleton_append]

theorem count_spaced (ps : List Piece) :
    (ps.flatMap Piece.spaced).count '\n' + (ps.flatMap Piece.blockText).count '\n' =
      (ps.flatMap Piece.source).count '\n' := by
  induction ps with
  | nil => rfl
  | cons p ps ih =>
    rw [List.flatMap_cons, List.flatMap_cons, List.flatMap_cons, List.count_append, List.count_append, List.count_append]
    have hpiece : p.spaced.count '\n' + p.blockText.count '\n' = p.source.count '\n' := by
      cases p <;> simp [Piece.spaced, Piece.blockText, Piece.source]
    omega

/-- One call leaves a text without comments, which a second one does not change. Of the line ends, those in the block
comments that the first pass removes are lost and no others. -/
theorem strip_commentFree (code : List Char) :
    ¬ BeginsLine (strip code) ∧ ¬ HoldsBlock (strip code) ∧ strip (strip code) = strip code ∧
      (firstPass code).flatMap Piece.source = code ∧ (firstPass code).flatMap Piece.spaced = dropBlocks code ∧
      (strip code).count '\n' + ((firstPass code).flatMap Piece.blockText).count '\n' = code.count '\n' := by
  have hline : ¬ BeginsLine (strip code) := not_beginsLine_dropLines (dropBlocks code)
  have hblock : ¬ HoldsBlock (strip code) := fun h => not_holdsBlock_dropBlocks code (holdsBlock_of_dropLines h)
  have hagain : strip (strip code) = strip code := by
    rw [strip, dropBlocks_eq_self hblock, dropLines_eq_self hline]
  have hcount := count_spaced (firstPass code)
  rw [spaced_firstPass, source_firstPass] at hcount
  refine ⟨hline, hblock, hagain, source_firstPass code, spaced_firstPass code, ?_⟩
  rw [strip, count_dropLines, hcount]

end FlowSketch.SystemsComment

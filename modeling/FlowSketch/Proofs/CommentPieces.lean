import FlowSketch.Proofs.CommentFree

/-!
# Literals and comments of a source

Read from left to right, a source is made of literals, comments and other characters, and a comment begins only outside of
the literals and comments before it. The two passes do not read so: they leave everything but the comments exactly if
nothing in a literal or a line comment looks to them like a comment.
-/
namespace FlowSketch.SystemsComment

/-! ### Pieces of a source -/

/-- The rest of the literal that a quote opens and the text behind it, if its line closes it. A backslash escapes the next
character, which may be the end of the line. -/
def literal? (quote : Char) : List Char → Option (List Char × List Char)
  | [] => none
  | '\\' :: c :: cs => (literal? quote cs).map fun r => ('\\' :: c :: r.1, r.2)
  | c :: cs =>
    if c = quote then some ([c], cs)
    else if c = '\n' then none
    else (literal? quote cs).map fun r => (c :: r.1, r.2)

/-- The literal at the front of a text. -/
def literalAt? : List Char → Option (List Char × List Char)
  | [] => none
  | c :: cs => if c = '"' ∨ c = '\'' then (literal? c cs).map fun r => (c :: r.1, r.2) else none

theorem eq_of_literal? {quote : Char} {cs : List Char} {r : List Char × List Char} (h : literal? quote cs = some r) :
    cs = r.1 ++ r.2 ∧ r.1.getLast? = some quote := by
  fun_induction literal? quote cs generalizing r with
  | case1 => cases h
  | case2 c cs ih =>
    obtain ⟨s, hs, rfl⟩ := Option.map_eq_some_iff.mp h
    obtain ⟨rfl, hlast⟩ := ih hs
    exact ⟨rfl, by simp [List.getLast?_cons, hlast]⟩
  | case3 cs _ =>
    obtain rfl := Option.some.inj h
    exact ⟨rfl, rfl⟩
  | case4 => cases h
  | case5 c cs _ _ _ ih =>
    obtain ⟨s, hs, rfl⟩ := Option.map_eq_some_iff.mp h
    obtain ⟨rfl, hlast⟩ := ih hs
    exact ⟨rfl, by simp [List.getLast?_cons, hlast]⟩

theorem eq_of_literalAt? {cs : List Char} {r : List Char × List Char} (h : literalAt? cs = some r) :
    cs = r.1 ++ r.2 ∧ r.1 ≠ [] ∧ r.1.getLast? ≠ some '/' := by
  cases cs with
  | nil => cases h
  | cons c cs =>
    rw [literalAt?] at h
    split_ifs at h with hquote
    obtain ⟨s, hs, rfl⟩ := Option.map_eq_some_iff.mp h
    obtain ⟨rfl, hlast⟩ := eq_of_literal? hs
    refine ⟨rfl, List.cons_ne_nil _ _, ?_⟩
    rw [List.getLast?_cons, hlast]
    rcases hquote with rfl | rfl <;> decide

theorem literalAt?_length {cs : List Char} {r : List Char × List Char} (h : literalAt? cs = some r) :
    r.2.length < cs.length := by
  obtain ⟨heq, hne, -⟩ := eq_of_literalAt? h
  have hlength := congrArg List.length heq
  have hpos := List.length_pos_iff.mpr hne
  rw [List.length_append] at hlength
  omega

/-- The pieces of a source. A comment that is never closed and a quote that its line does not close stand for themselves. -/
def pieces : List Char → List Piece
  | [] => []
  | '/' :: '/' :: cs => .lineComment ('/' :: '/' :: cs.takeWhile (· ≠ '\n')) :: pieces (cs.dropWhile (· ≠ '\n'))
  | '/' :: '*' :: cs =>
    match _h : afterBlock? cs with
    | some rest => .blockComment ('/' :: '*' :: cs.take (cs.length - rest.length)) :: pieces rest
    | none => .plain '/' :: pieces ('*' :: cs)
  | c :: cs =>
    match _h : literalAt? (c :: cs) with
    | some r => .literal r.1 :: pieces r.2
    | none => .plain c :: pieces cs
termination_by cs => cs.length
decreasing_by
  · have := (List.dropWhile_sublist (l := cs) (· ≠ '\n')).length_le
    simp only [List.length_cons]
    omega
  · have := afterBlock?_length _h
    simp only [List.length_cons]
    omega
  · simp
  · exact literalAt?_length _h
  · simp

theorem source_pieces (cs : List Char) : (pieces cs).flatMap Piece.source = cs := by
  fun_induction pieces cs with
  | case1 => rfl
  | case2 cs ih =>
    rw [List.flatMap_cons, ih, Piece.source, List.cons_append, List.cons_append, List.takeWhile_append_dropWhile]
  | case3 cs rest hrest ih =>
    rw [List.flatMap_cons, ih, Piece.source, List.cons_append, List.cons_append, take_append_of_afterBlock? hrest]
  | case4 cs _ ih => rw [List.flatMap_cons, ih, Piece.source, List.singleton_append]
  | case5 c cs _ _ r hr ih => rw [List.flatMap_cons, ih, Piece.source, (eq_of_literalAt? hr).1]
  | case6 c cs _ _ _ ih => rw [List.flatMap_cons, ih, Piece.source, List.singleton_append]

/-- What should stay of a piece. -/
def Piece.kept : Piece → List Char
  | plain c => [c]
  | literal text => text
  | lineComment _ => []
  | blockComment _ => [' ']

/-- Literals and line comments: no comment begins in them. -/
def Piece.isSealed : Piece → Bool
  | literal _ | lineComment _ => true
  | _ => false

/-! ### The first pass over a piece -/

/-- A block comment begins in a text, where its end stands in it or in the text behind it. -/
def Opens (text behind : List Char) : Prop := ∃ a b, text = a ++ '/' :: '*' :: b ∧ EndsBlock (b ++ behind)

theorem opens_cons {c : Char} {cs behind : List Char} :
    Opens (c :: cs) behind ↔ (c = '/' ∧ ∃ b, cs = '*' :: b ∧ EndsBlock (b ++ behind)) ∨ Opens cs behind := by
  constructor
  · rintro ⟨a, b, heq, hb⟩
    cases a with
    | nil =>
      obtain ⟨rfl, rfl⟩ := List.cons.inj heq
      exact .inl ⟨rfl, b, rfl, hb⟩
    | cons d a =>
      obtain ⟨rfl, rfl⟩ := List.cons.inj heq
      exact .inr ⟨a, b, rfl, hb⟩
  · rintro (⟨rfl, b, rfl, hb⟩ | ⟨a, b, rfl, hb⟩)
    · exact ⟨[], b, rfl, hb⟩
    · exact ⟨c :: a, b, rfl, hb⟩

/-- The first pass leaves a text exactly if no block comment begins in it. -/
theorem dropBlocks_append_eq_iff {text behind later : List Char}
    (hseam : text.getLast? = some '/' → behind.head? ≠ some '*') :
    dropBlocks (text ++ behind) = text ++ later ↔ ¬ Opens text behind ∧ dropBlocks behind = later := by
  induction text with
  | nil => simp [Opens]
  | cons c cs ih =>
    have hlater : cs.getLast? = some '/' → behind.head? ≠ some '*' := fun hcs => hseam (by simp [List.getLast?_cons, hcs])
    rw [opens_cons, not_or, List.cons_append, List.cons_append]
    by_cases hopen : c = '/' ∧ ∃ b, cs = '*' :: b ∧ EndsBlock (b ++ behind)
    · obtain ⟨rfl, b, rfl, hb⟩ := hopen
      obtain ⟨rest, hrest⟩ := Option.ne_none_iff_exists'.mp fun hnone => afterBlock?_eq_none.mp hnone hb
      rw [List.cons_append, dropBlocks_block hrest]
      simp [hb]
    · have hpass : dropBlocks (c :: (cs ++ behind)) = c :: dropBlocks (cs ++ behind) := by
        by_cases hstart : c = '/' ∧ (cs ++ behind).head? = some '*'
        · obtain ⟨rfl, hhead⟩ := hstart
          cases cs with
          | nil => exact absurd hhead (hseam rfl)
          | cons d cs =>
            obtain rfl : d = '*' := by simpa using hhead
            exact dropBlocks_open fun hb => hopen ⟨rfl, cs, rfl, hb⟩
        · exact dropBlocks_cons fun hc hhead => hstart ⟨hc, hhead⟩
      rw [hpass, List.cons.injEq, ih hlater]
      simp [hopen]

/-! ### The second pass over a piece -/

/-- The second pass leaves a text exactly if no line comment begins in it. -/
theorem dropLines_append_eq_iff {text behind later : List Char}
    (hseam : text.getLast? = some '/' → behind.head? ≠ some '/') :
    dropLines (text ++ behind) = text ++ later ↔ ¬ BeginsLine text ∧ dropLines behind = later := by
  induction text with
  | nil => simp [BeginsLine]
  | cons c cs ih =>
    have hlater : cs.getLast? = some '/' → behind.head? ≠ some '/' := fun hcs => hseam (by simp [List.getLast?_cons, hcs])
    rw [BeginsLine, pair_infix_cons, ← BeginsLine, not_or, List.cons_append, List.cons_append]
    by_cases hbegin : c = '/' ∧ cs.head? = some '/'
    · obtain ⟨rfl, hhead⟩ := hbegin
      obtain ⟨tail, rfl⟩ := List.head?_eq_some_iff.mp hhead
      rw [List.cons_append, dropLines_comment]
      refine iff_of_false (fun heq => ?_) (by simp)
      have hfirst := congrArg List.head? heq
      rw [List.head?_cons] at hfirst
      exact absurd (head_behindLine (head_of_dropLines (by decide) hfirst)) (by decide)
    · have hpass : dropLines (c :: (cs ++ behind)) = c :: dropLines (cs ++ behind) := by
        refine dropLines_cons fun hc hhead => ?_
        cases cs with
        | nil => exact hseam (by rw [hc]; rfl) hhead
        | cons d cs => exact hbegin ⟨hc, hhead⟩
      rw [hpass, List.cons.injEq, ih hlater]
      simp [hbegin]

/-! ### Whole sources -/

theorem forall_split_cons {α : Type*} {q : α} {ps : List α} {P : α → List α → Prop} :
    (∀ before p after, q :: ps = before ++ p :: after → P p after) ↔
      P q ps ∧ ∀ before p after, ps = before ++ p :: after → P p after := by
  constructor
  · intro h
    refine ⟨h [] q ps rfl, fun before p after heq => h (q :: before) p after ?_⟩
    rw [heq, List.cons_append]
  · rintro ⟨hfirst, hlater⟩ before p after heq
    cases before with
    | nil =>
      obtain ⟨rfl, rfl⟩ := List.cons.inj heq
      exact hfirst
    | cons r before => exact hlater before p after (List.cons.inj heq).2

/-- No block comment begins in a literal or a line comment of a source. -/
def Unopened (ps : List Piece) : Prop :=
  ∀ before p after, ps = before ++ p :: after → p.isSealed = true → ¬ Opens p.source (after.flatMap Piece.source)

theorem unopened_nil : Unopened [] := by simp [Unopened]

theorem unopened_cons {p : Piece} {ps : List Piece} :
    Unopened (p :: ps) ↔ (p.isSealed = true → ¬ Opens p.source (ps.flatMap Piece.source)) ∧ Unopened ps :=
  forall_split_cons

/-- The first pass takes the block comments of a source and nothing else exactly if none begins in a literal or a line
comment. -/
theorem dropBlocks_eq_iff (cs : List Char) : dropBlocks cs = (pieces cs).flatMap Piece.spaced ↔ Unopened (pieces cs) := by
  fun_induction pieces cs with
  | case1 => simp [dropBlocks, unopened_nil]
  | case2 cs ih =>
    have hsplit : '/' :: '/' :: cs = ('/' :: '/' :: cs.takeWhile (· ≠ '\n')) ++ cs.dropWhile (· ≠ '\n') := by
      rw [List.cons_append, List.cons_append, List.takeWhile_append_dropWhile]
    have hseam (_ : ('/' :: '/' :: cs.takeWhile (· ≠ '\n')).getLast? = some '/') :
        (cs.dropWhile (· ≠ '\n')).head? ≠ some '*' := fun hhead => absurd (head_behindLine hhead) (by decide)
    rw [unopened_cons, source_pieces, List.flatMap_cons, Piece.spaced, hsplit, dropBlocks_append_eq_iff hseam, ih]
    simp [Piece.isSealed, Piece.source]
  | case3 cs rest hrest ih =>
    rw [unopened_cons, dropBlocks_block hrest, List.flatMap_cons, Piece.spaced, List.singleton_append, List.cons.injEq, ih]
    simp [Piece.isSealed]
  | case4 cs hnone ih =>
    rw [unopened_cons, dropBlocks_open (afterBlock?_eq_none.mp hnone), List.flatMap_cons, Piece.spaced,
      List.singleton_append, List.cons.injEq, ih]
    simp [Piece.isSealed]
  | case5 c cs _ _ r hr ih =>
    obtain ⟨hsplit, -, hlast⟩ := eq_of_literalAt? hr
    rw [unopened_cons, source_pieces, List.flatMap_cons, Piece.spaced, hsplit,
      dropBlocks_append_eq_iff (fun h => absurd h hlast), ih]
    simp [Piece.isSealed, Piece.source]
  | case6 c cs _ hblock _ ih =>
    rw [unopened_cons, dropBlocks.eq_3 c cs hblock, List.flatMap_cons, Piece.spaced, List.singleton_append,
      List.cons.injEq, ih]
    simp [Piece.isSealed]

/-- Without its block comments, a source begins as before or with a space. -/
theorem head_spaced (cs : List Char) :
    ((pieces cs).flatMap Piece.spaced).head? = cs.head? ∨ ((pieces cs).flatMap Piece.spaced).head? = some ' ' := by
  fun_induction pieces cs with
  | case1 => exact .inl rfl
  | case2 => exact .inl rfl
  | case3 => exact .inr rfl
  | case4 => exact .inl rfl
  | case5 c cs _ _ r hr _ =>
    obtain ⟨hsplit, hne, -⟩ := eq_of_literalAt? hr
    refine .inl ?_
    rw [List.flatMap_cons, Piece.spaced, hsplit, List.head?_append_of_ne_nil _ hne, List.head?_append_of_ne_nil _ hne]
  | case6 => exact .inl rfl

/-- Behind a line comment, the second pass goes on with the end of the line. -/
theorem dropLines_line {text : List Char} (htext : '\n' ∉ text) (rest : List Char) :
    dropLines ('/' :: '/' :: (text ++ (pieces (rest.dropWhile (· ≠ '\n'))).flatMap Piece.spaced)) =
      dropLines ((pieces (rest.dropWhile (· ≠ '\n'))).flatMap Piece.spaced) := by
  rw [dropLines_comment, List.dropWhile_append_of_pos fun c hc => by simpa using fun heq : c = '\n' => htext (heq ▸ hc)]
  congr 1
  cases hrest : rest.dropWhile (· ≠ '\n') with
  | nil => simp [pieces]
  | cons c more =>
    obtain rfl : c = '\n' := head_behindLine (by rw [hrest]; rfl)
    have hpieces : pieces ('\n' :: more) = .plain '\n' :: pieces more := by
      rw [pieces] <;> simp [literalAt?]
    rw [hpieces, List.flatMap_cons, Piece.spaced, List.singleton_append]
    simp

/-- The second pass takes the line comments of a source and nothing else exactly if none begins in a literal. -/
theorem dropLines_eq_iff (cs : List Char) :
    dropLines ((pieces cs).flatMap Piece.spaced) = (pieces cs).flatMap Piece.kept ↔
      ∀ text, Piece.literal text ∈ pieces cs → ¬ BeginsLine text := by
  fun_induction pieces cs with
  | case1 => simp [dropLines]
  | case2 cs ih =>
    have htext : '\n' ∉ cs.takeWhile (· ≠ '\n') := fun hmem => by simpa using List.mem_takeWhile_imp hmem
    rw [List.flatMap_cons, List.flatMap_cons, Piece.spaced, Piece.kept, List.cons_append, List.cons_append,
      dropLines_line htext, List.nil_append, ih]
    simp
  | case3 cs rest _ ih =>
    rw [List.flatMap_cons, List.flatMap_cons, Piece.spaced, Piece.kept, List.singleton_append, List.singleton_append,
      dropLines_cons (by simp), List.cons.injEq, ih]
    simp
  | case4 cs _ ih =>
    have hhead : ((pieces ('*' :: cs)).flatMap Piece.spaced).head? ≠ some '/' := fun h => by
      rcases head_spaced ('*' :: cs) with heq | heq <;> rw [heq] at h <;> simp at h
    rw [List.flatMap_cons, List.flatMap_cons, Piece.spaced, Piece.kept, List.singleton_append, List.singleton_append,
      dropLines_cons fun _ => hhead, List.cons.injEq, ih]
    simp
  | case5 c cs _ _ r hr ih =>
    obtain ⟨-, -, hlast⟩ := eq_of_literalAt? hr
    rw [List.flatMap_cons, List.flatMap_cons, Piece.spaced, Piece.kept,
      dropLines_append_eq_iff fun h => absurd h hlast, ih]
    simp
  | case6 c cs hline _ _ ih =>
    have hhead : c = '/' → ((pieces cs).flatMap Piece.spaced).head? ≠ some '/' := by
      rintro rfl h
      rcases head_spaced cs with heq | heq
      · rw [heq] at h
        obtain ⟨tail, rfl⟩ := List.head?_eq_some_iff.mp h
        exact hline tail rfl rfl
      · rw [heq] at h
        cases h
    rw [List.flatMap_cons, List.flatMap_cons, Piece.spaced, Piece.kept, List.singleton_append, List.singleton_append,
      dropLines_cons hhead, List.cons.injEq, ih]
    simp

/-- The passes take the comments of a source and nothing else, so that every literal stays as it is and no block comment
begins in a line comment, exactly if nothing in a literal looks like a line comment and nothing in a literal or a line
comment looks like the beginning of a block comment that ends somewhere behind it. -/
theorem strip_comments_only_iff (code : List Char) :
    dropBlocks code = (pieces code).flatMap Piece.spaced ∧ strip code = (pieces code).flatMap Piece.kept ↔
      (∀ before p after, pieces code = before ++ p :: after → p.isSealed = true →
        ¬ Opens p.source (after.flatMap Piece.source)) ∧
      ∀ text, Piece.literal text ∈ pieces code → ¬ BeginsLine text := by
  rw [dropBlocks_eq_iff, ← Unopened]
  refine and_congr_right fun hopen => ?_
  rw [strip, (dropBlocks_eq_iff code).mpr hopen, dropLines_eq_iff]

/-! ### An address in a literal -/

def address : List Char := "s = \"http://x\";".toList

/-- The slashes of the address cut the line. -/
theorem address_cut :
    Piece.literal "\"http://x\"".toList ∈ pieces address ∧ strip address = "s = \"http:".toList ∧
      ¬ "\"http://x\"".toList <:+: strip address := by
  have hstrip : strip address = "s = \"http:".toList := by cbv
  refine ⟨by decide +kernel, hstrip, ?_⟩
  rw [hstrip]
  decide

end FlowSketch.SystemsComment

import FlowSketch.Proofs.SystemsHalting

/-!
# Constructs make progress

A construct rewrites lines to parts of what they were, from its own position on, and ends at a later position or on its own
line, which is shorter then. A body has fewer characters than the lines it is taken from.
-/
namespace FlowSketch.SystemsRegion
open TextBlank SystemsFlow

/-! ### Characters -/

/-- The characters of a list of lines, without their ends. -/
def characters (lines : List Line) : ℕ := (lines.map List.length).sum

@[simp] theorem characters_nil : characters [] = 0 := rfl

@[simp] theorem characters_cons (line : Line) (lines : List Line) :
    characters (line :: lines) = line.length + characters lines := by
  simp [characters]

@[simp] theorem characters_append (a b : List Line) : characters (a ++ b) = characters a + characters b := by
  simp [characters]

theorem characters_drop_le (n : ℕ) (lines : List Line) : characters (lines.drop n) ≤ characters lines := by
  calc characters (lines.drop n)
      ≤ characters (lines.take n) + characters (lines.drop n) := Nat.le_add_left _ _
    _ = characters lines := by rw [← characters_append, List.take_append_drop]

theorem characters_kept (piece : Line) : characters (kept piece) ≤ piece.length := by
  unfold kept
  split <;> simp

theorem region_characters (depth : ℤ) (started : Bool) (lines : List Line) :
    characters (region depth started lines).body ≤ characters lines := by
  induction lines generalizing depth started with
  | nil => exact le_rfl
  | cons line lines ih =>
    have hsize := scan_size depth started line
    rw [region, characters_cons]
    cases hscan : scan depth started line with
    | closed piece after =>
      have hkept := characters_kept piece
      rw [hscan, Scan.size] at hsize
      cases hleft : leftover after with
      | some rest => simp only [hleft]; omega
      | none => simp only [hleft]; omega
    | inside piece d s =>
      have hkept := characters_kept piece
      have hlater := ih d s
      rw [hscan, Scan.size] at hsize
      simp only [characters_append]
      omega

theorem block_characters (lines : List Line) : characters (block lines).body ≤ characters lines := by
  induction lines with
  | nil => exact le_rfl
  | cons line lines ih =>
    rw [block]
    split
    · exact region_characters _ _ _
    · exact ih.trans (by rw [characters_cons]; omega)

theorem nextBody_characters (lines : List Line) : characters (nextBody lines).body ≤ characters lines := by
  induction lines with
  | nil => exact le_rfl
  | cons line lines ih =>
    rw [nextBody]
    split
    · exact ih.trans (by rw [characters_cons]; omega)
    · split
      · exact block_characters _
      · simp

/-- The characters of a body are those of the text after its header and of the lines behind, at most. -/
theorem bodyAfter_characters (header after : Line) (following : List Line) :
    characters (bodyAfter header after following).body ≤ after.length + characters following := by
  have htrim := trim_length after
  unfold bodyAfter
  split
  · have hblock := block_characters (trim after :: following)
    rw [characters_cons] at hblock
    omega
  split
  · exact Nat.zero_le _
  split
  · exact (nextBody_characters following).trans (Nat.le_add_left _ _)
  · simp only [characters_cons, characters_nil]
    omega

/-! ### Parts of lines -/

theorem trim_isInfix (cs : Line) : trim cs <:+: cs := by
  obtain ⟨a, b, -, -, hcs⟩ := exists_trim cs
  exact ⟨a, b, by rw [List.append_assoc, ← hcs]⟩

/-- The text behind the brace that ends a region. -/
def Scan.behind : Scan → Line
  | closed _ rest => rest
  | inside _ _ _ => []

@[simp] theorem Scan.behind_push (c : Char) (s : Scan) : (s.push c).behind = s.behind := by cases s <;> rfl

theorem scan_behind (depth : ℤ) (started : Bool) (line : Line) : (scan depth started line).behind <:+ line := by
  induction line generalizing depth started with
  | nil => exact List.nil_suffix
  | cons c cs ih =>
    have hlater (d : ℤ) (s : Bool) : (scan d s cs).behind <:+ c :: cs := (ih d s).trans (List.suffix_cons c cs)
    rw [scan]
    repeat' split
    all_goals first | exact List.suffix_cons c cs | simpa only [Scan.behind_push] using hlater _ _

theorem leftover_isInfix {after rest : Line} (h : leftover after = some rest) : rest <:+: after := by
  unfold leftover at h
  split at h
  · cases h
  · obtain rfl := Option.some.inj h
    exact trim_isInfix after

/-! ### Lines that a cut leaves -/

/-- Lines, with those that a cut has passed and those that remain in their place: each is a part of what it was, none is
changed behind the first that remains, and that one is shorter if no line is passed. -/
structure Rewrites (lines passed rest : List Line) : Prop where
  shrinks : List.Forall₂ (· <:+: ·) (passed ++ rest) lines
  behind : rest.tail = lines.drop (passed.length + 1)
  moves : passed = [] → ∀ old ∈ lines.head?, ∃ now ∈ rest.head?, now.length < old.length

theorem forall₂_infix_refl (lines : List Line) : List.Forall₂ (· <:+: ·) lines lines :=
  List.forall₂_same.mpr fun line _ => line.infix_refl

theorem forall₂_infix_trans {a b c : List Line} (hab : List.Forall₂ (· <:+: ·) a b)
    (hbc : List.Forall₂ (· <:+: ·) b c) : List.Forall₂ (· <:+: ·) a c := by
  induction hab generalizing c with
  | nil => exact hbc
  | cons hline _ ih =>
    cases hbc with
    | cons hline' hlines' => exact .cons (hline.trans hline') (ih hlines')

theorem characters_le {a b : List Line} (h : List.Forall₂ (· <:+: ·) a b) : characters a ≤ characters b := by
  induction h with
  | nil => exact le_rfl
  | cons hline _ ih =>
    rw [characters_cons, characters_cons]
    exact Nat.add_le_add hline.length_le ih

variable {lines passed rest following : List Line} {line header text : Line}

theorem Rewrites.nil : Rewrites [] [] [] := ⟨.nil, rfl, by simp⟩

theorem Rewrites.pass (line : Line) (lines : List Line) : Rewrites (line :: lines) [line] lines :=
  ⟨forall₂_infix_refl _, List.drop_one.symm, by simp⟩

theorem Rewrites.cons (line : Line) (h : Rewrites lines passed rest) : Rewrites (line :: lines) (line :: passed) rest :=
  ⟨.cons line.infix_refl h.shrinks, h.behind, by simp⟩

theorem Rewrites.shorten (hpart : text <:+: header) (hlength : text.length < header.length) :
    Rewrites (header :: following) [] (text :: following) :=
  ⟨.cons hpart (forall₂_infix_refl _), rfl, by simpa using hlength⟩

/-- A cut of the lines behind a header, with a part of the header in front of them, is one of the lines with the header. -/
theorem Rewrites.of_text (hpart : text <:+: header) (h : Rewrites (text :: following) passed rest) :
    Rewrites (header :: following) passed rest := by
  refine ⟨forall₂_infix_trans h.shrinks (.cons hpart (forall₂_infix_refl _)), h.behind, fun hpassed old hold => ?_⟩
  obtain ⟨now, hnow, hlength⟩ := h.moves hpassed text rfl
  obtain rfl : header = old := by simpa using hold
  exact ⟨now, hnow, hlength.trans_le hpart.length_le⟩

/-- A cut of the lines that another one leaves, but for some of them that are passed. -/
theorem Rewrites.trans {between later passed' rest' : List Line} (h : Rewrites lines passed rest)
    (hrest : rest = between ++ later) (h' : Rewrites later passed' rest') :
    Rewrites lines (passed ++ between ++ passed') rest' := by
  subst hrest
  refine ⟨?_, ?_, fun hpassed old hold => ?_⟩
  · have hlater : List.Forall₂ (· <:+: ·) ((passed ++ between) ++ (passed' ++ rest')) ((passed ++ between) ++ later) :=
      List.rel_append (forall₂_infix_refl _) h'.shrinks
    rw [List.append_assoc passed between later] at hlater
    rw [List.append_assoc (passed ++ between)]
    exact forall₂_infix_trans hlater h.shrinks
  · calc rest'.tail
        = later.drop (passed'.length + 1) := h'.behind
      _ = (between ++ later).drop (between.length + (passed'.length + 1)) := (List.drop_length_add_append _).symm
      _ = (between ++ later).tail.drop (between.length + passed'.length) := by rw [List.drop_tail, ← Nat.add_assoc]
      _ = lines.drop (passed.length + 1 + (between.length + passed'.length)) := by rw [h.behind, List.drop_drop]
      _ = lines.drop ((passed ++ between ++ passed').length + 1) := by
          simp only [List.length_append]
          congr 1
          omega
  · obtain ⟨rfl, rfl, rfl⟩ : passed = [] ∧ between = [] ∧ passed' = [] := by simpa using hpassed
    obtain ⟨middle, hmiddle, hlength⟩ := h.moves rfl old hold
    obtain ⟨now, hnow, hlength'⟩ := h'.moves rfl middle hmiddle
    exact ⟨now, hnow, hlength'.trans hlength⟩

/-! ### Cuts -/

theorem region_rewrites (depth : ℤ) (started : Bool) (lines : List Line) :
    Rewrites lines (region depth started lines).passed (region depth started lines).rest := by
  induction lines generalizing depth started with
  | nil => exact .nil
  | cons line lines ih =>
    have hsize := scan_size depth started line
    have hbehind := scan_behind depth started line
    rw [region]
    cases hscan : scan depth started line with
    | closed piece after =>
      rw [hscan] at hsize hbehind
      simp only [Scan.size, Scan.behind] at hsize hbehind
      cases hleft : leftover after with
      | some rest =>
        simp only [hleft]
        have hlength := leftover_length hleft
        exact .shorten ((leftover_isInfix hleft).trans hbehind.isInfix) (by omega)
      | none =>
        simp only [hleft]
        exact .pass line lines
    | inside piece d s => exact (ih d s).cons line

theorem block_rewrites (lines : List Line) : Rewrites lines (block lines).passed (block lines).rest := by
  induction lines with
  | nil => exact .nil
  | cons line lines ih =>
    rw [block]
    split
    · exact region_rewrites _ _ _
    · exact ih.cons line

theorem nextBody_rewrites (lines : List Line) : Rewrites lines (nextBody lines).passed (nextBody lines).rest := by
  induction lines with
  | nil => exact .nil
  | cons line lines ih =>
    rw [nextBody]
    split
    · exact ih.cons line
    · split
      · exact block_rewrites _
      · exact .pass line lines

theorem bodyAfter_rewrites {header after : Line} (hafter : after <:+: header) (following : List Line) :
    Rewrites (header :: following) (bodyAfter header after following).passed (bodyAfter header after following).rest := by
  unfold bodyAfter
  split
  · exact (block_rewrites _).of_text ((trim_isInfix after).trans hafter)
  split
  · exact .pass header following
  split
  · exact (nextBody_rewrites following).cons header
  · exact .pass header following

end FlowSketch.SystemsRegion
namespace FlowSketch.SystemsFlow
open TextBlank SystemsRegion SystemsHeader

theorem condition_isInfix (line : Line) : (condition (trim line)).2 <:+: line :=
  (condition_suffix (trim line)).isInfix.trans (trim_isInfix line)

theorem elseAfter?_isInfix {line after : Line} (h : elseAfter? line = some after) : after <:+: line :=
  (elseAfter?_suffix h).isInfix.trans (trim_isInfix line)

theorem elseAfter?_shorter {line after : Line} (h : elseAfter? line = some after) : after.length < line.length := by
  have hword := congrArg List.length (eq_of_elseAfter? h)
  have htrim := trim_length line
  rw [List.length_append] at hword
  have helse : "else".toList.length = 4 := rfl
  omega

/-- The induction is on the chain: an else goes on behind the lines that the body in front of it leaves. -/
theorem chain_rewrites (header : Line) (following : List Line) :
    Rewrites (header :: following) (chain header following).passed (chain header following).rest := by
  fun_induction chain header following with
  | case1 header following head passed rest h => exact bodyAfter_rewrites (condition_isInfix header) following
  | case2 header following head passed rest next more h _ later ih =>
    have hrest : rest = blanksAhead rest ++ next :: more := by rw [← h, SystemsAttempt.blanksAhead_append_nextCode]
    exact (bodyAfter_rewrites (condition_isInfix header) following).trans hrest ih
  | case3 header following head passed rest next more h _ after ha cut =>
    have hrest : rest = blanksAhead rest ++ next :: more := by rw [← h, SystemsAttempt.blanksAhead_append_nextCode]
    exact (bodyAfter_rewrites (condition_isInfix header) following).trans hrest
      (bodyAfter_rewrites (elseAfter?_isInfix ha) more)
  | case4 header following head passed rest next more h _ ha => exact bodyAfter_rewrites (condition_isInfix header) following

end FlowSketch.SystemsFlow
namespace FlowSketch.SystemsEdit
open TextBlank SystemsRegion SystemsHeader SystemsFlow SystemsAttempt

/-! ### Edits -/

/-- An edit that goes on at a later position, or on its own line, which is shorter then. It changes lines from its position
on and up to the one it goes on with, each to a part of what it was. -/
structure Advances {α : Type} (lines : List Line) (i : ℕ) (e : Edit α) : Prop where
  length : e.lines.length = lines.length
  moves : i < e.next ∨ e.next = i ∧ ∃ now ∈ e.lines[i]?, ∃ old ∈ lines[i]?, now.length < old.length
  before : e.lines.take i = lines.take i
  behind : e.lines.drop (e.next + 1) = lines.drop (e.next + 1)
  parts : List.Forall₂ (· <:+: ·) e.lines lines

variable {α : Type} {lines : List Line} {i : ℕ}

theorem advances_edit (taken : α) {passed rest : List Line} (hi : i < lines.length)
    (h : Rewrites (lines.drop i) passed rest) : Advances lines i (edit lines i taken passed rest) := by
  have hparts : List.Forall₂ (· <:+: ·) (edit lines i taken passed rest).lines lines := by
    have happend : List.Forall₂ (· <:+: ·) (lines.take i ++ (passed ++ rest)) (lines.take i ++ lines.drop i) :=
      List.rel_append (forall₂_infix_refl (lines.take i)) h.shrinks
    rwa [List.take_append_drop, ← List.append_assoc] at happend
  have hrest := edit_drop taken passed rest hi.le
  refine ⟨hparts.length_eq, ?_, ?_, ?_, hparts⟩
  · by_cases hpassed : passed = []
    · subst hpassed
      obtain ⟨now, hnow, hlength⟩ := h.moves rfl lines[i] (by rw [List.head?_drop]; exact List.getElem?_eq_getElem hi)
      refine .inr ⟨rfl, now, ?_, lines[i], List.getElem?_eq_getElem hi, hlength⟩
      rwa [← hrest, List.head?_drop] at hnow
    · have hpos := List.length_pos_iff.mpr hpassed
      exact .inl (Nat.lt_add_of_pos_right hpos)
  · rw [edit, List.append_assoc]
    exact List.take_left' (List.length_take_of_le hi.le)
  · rw [← List.drop_drop, hrest, List.drop_one, h.behind, List.drop_drop]
    rfl

theorem bodyAt_advances {after : Line} (hi : i < lines.length) (hpart : after <:+: lines[i])
    (hlength : after.length < lines[i].length) :
    ∃ e, bodyAt lines i after = .ok e ∧ Advances lines i e ∧ characters e.taken < characters (lines.drop i) := by
  have hd := List.drop_eq_getElem_cons hi
  have hcharacters := bodyAfter_characters lines[i] after (lines.drop (i + 1))
  refine ⟨_, by rw [bodyAt, hd], advances_edit _ hi (hd ▸ bodyAfter_rewrites hpart _), ?_⟩
  rw [hd, characters_cons]
  exact hcharacters.trans_lt (Nat.add_lt_add_right hlength _)

theorem chainAt_advances (hi : i < lines.length) (hcondition : '(' ∈ lines[i]) :
    ∃ e, chainAt lines i = .ok e ∧ Advances lines i e := by
  have hd := List.drop_eq_getElem_cons hi
  have hrewrites := chain_rewrites lines[i] (lines.drop (i + 1))
  rw [← hd] at hrewrites
  simp only [chainAt, hd, List.contains_iff_mem.mpr hcondition, if_true]
  exact ⟨_, rfl, advances_edit _ hi hrewrites⟩

/-- The lines ahead of an edit have no more characters than those it was made on, and fewer of them if it goes on with one of
its own. -/
theorem Advances.lowers {e : Edit α} (h : Advances lines i e) {j : ℕ} (hj : e.next ≤ j) :
    characters (e.lines.drop j) ≤ characters (lines.drop i) ∧
      (characters (e.lines.drop j) < characters (lines.drop i) ∨ i < j) := by
  rcases Nat.lt_or_ge i j with hij | hji
  · refine ⟨?_, .inr hij⟩
    calc characters (e.lines.drop j)
        ≤ characters (lines.drop j) := characters_le (List.forall₂_drop j h.parts)
      _ = characters ((lines.drop i).drop (j - i)) := by rw [List.drop_drop, Nat.add_sub_cancel' hij.le]
      _ ≤ characters (lines.drop i) := characters_drop_le _ _
  · rcases h.moves with hlt | ⟨hnext, now, hnow, old, hold, hlength⟩
    · omega
    · obtain rfl : j = i := by omega
      have hbehind := h.behind
      rw [hnext] at hbehind
      obtain ⟨hleft, rfl⟩ := List.getElem?_eq_some_iff.mp hnow
      obtain ⟨hi, rfl⟩ := List.getElem?_eq_some_iff.mp hold
      have hless : characters (e.lines.drop j) < characters (lines.drop j) := by
        rw [List.drop_eq_getElem_cons hleft, List.drop_eq_getElem_cons hi, characters_cons, characters_cons, hbehind]
        exact Nat.add_lt_add_right hlength _
      exact ⟨hless.le, .inl hless⟩

end FlowSketch.SystemsEdit

import FlowSketch.Proofs.AttemptOutcomes
import FlowSketch.SystemsAttempt

/-!
# Cuts at positions of a list of lines

A cut that goes through a list of lines by positions, and rewrites a line in place, takes what the lines from its
position on give, and leaves the lines behind it in place of those it took.
-/
namespace FlowSketch.SystemsAttempt
open TextBlank SystemsRegion SystemsHeader SystemsFlow SystemsEdit

/-! ### Positions -/

variable {lines following : List Line} {header : Line} {i : ℕ}

theorem lineAt_of_drop (h : lines.drop i = header :: following) : lineAt lines i = pure header :=
  Attempt.get_of_drop h _

theorem edit_whole {α : Type} (taken : α) (h : lines.drop i = following) :
    edit lines i taken [] following = ⟨taken, i, lines⟩ := by
  rw [edit, ← h]
  simp

theorem edit_append {α : Type} (taken : α) (ahead passed rest : List Line) (h : lines.drop i = ahead ++ following) :
    edit lines (i + ahead.length) taken passed rest = edit lines i taken (ahead ++ passed) rest := by
  have htake : lines.take (i + ahead.length) = lines.take i ++ ahead := by rw [List.take_add, h, List.take_left]
  simp only [edit, htake, List.length_append, List.append_assoc, Nat.add_assoc]

theorem edit_succ {α : Type} (taken : α) (passed rest : List Line) (h : lines.drop i = header :: following) :
    edit lines (i + 1) taken passed rest = edit lines i taken (header :: passed) rest :=
  edit_append taken [header] passed rest h

/-- The lines behind a cut are those it leaves. -/
theorem edit_drop {α : Type} (taken : α) (passed rest : List Line) (h : i ≤ lines.length) :
    (edit lines i taken passed rest).lines.drop (edit lines i taken passed rest).next = rest := by
  have hlength : i + passed.length = (lines.take i ++ passed).length := by simp [h]
  rw [edit, hlength, List.drop_left]

/-- A cut behind a cut goes on with the lines that the first one has passed. -/
theorem edit_edit {α β : Type} (first : α) (second : β) (passed rest later left : List Line) (h : i ≤ lines.length) :
    edit (edit lines i first passed rest).lines (edit lines i first passed rest).next second later left =
      edit lines i second (passed ++ later) left := by
  have hlength : i + passed.length = (lines.take i ++ passed).length := by simp [h]
  simp only [edit]
  rw [List.take_left' hlength.symm]
  simp only [List.length_append, List.append_assoc, Nat.add_assoc]

/-! ### Cuts -/

theorem regionFrom_eq (lines body : List Line) (depth : Int) (started : Bool) (i : ℕ) :
    regionFrom lines body depth started i =
      pure (edit lines i (body ++ (region depth started (lines.drop i)).body)
        (region depth started (lines.drop i)).passed (region depth started (lines.drop i)).rest) := by
  induction hd : lines.drop i generalizing body depth started i with
  | nil =>
    rw [regionFrom, if_neg (not_lt_of_drop hd), region, List.append_nil, edit_whole body hd]
  | cons line later ih =>
    rw [regionFrom, if_pos (lt_of_drop hd), lineAt_of_drop hd, pure_bind, region]
    cases hscan : scan depth started line with
    | closed piece after =>
      cases hrest : leftover after with
      | some rest =>
        have hset : lines.set i rest = lines.take i ++ [] ++ rest :: later := by
          rw [List.set_eq_take_append_cons_drop, if_pos (lt_of_drop hd), drop_succ_of_drop hd, List.append_nil]
        simp only [hrest, replaceLine, if_pos (lt_of_drop hd), pure_bind, edit, hset, List.length_nil, Nat.add_zero]
      | none =>
        simp only [hrest]
        rw [← edit_succ _ [] later hd, edit_whole _ (drop_succ_of_drop hd)]
    | inside piece d s =>
      simp only
      rw [ih _ _ _ _ (drop_succ_of_drop hd), edit_succ _ _ _ hd, List.append_assoc]

theorem takeBlock_eq (lines : List Line) (i : ℕ) : takeBlock lines i = pure (blockAt lines i) := by
  rw [blockAt]
  induction hd : lines.drop i generalizing i with
  | nil =>
    rw [takeBlock, braceFrom, if_neg (not_lt_of_drop hd), pure_bind, regionFrom_eq, hd]
    rfl
  | cons line later ih =>
    rw [takeBlock, braceFrom, if_pos (lt_of_drop hd), lineAt_of_drop hd, pure_bind, block]
    by_cases hbrace : line.contains '{' = true
    · rw [if_pos hbrace, if_pos hbrace, pure_bind, regionFrom_eq, hd]
      rfl
    · rw [if_neg hbrace, if_neg hbrace]
      exact (ih (i + 1) (drop_succ_of_drop hd)).trans (by rw [edit_succ _ _ _ hd]; rfl)

theorem codeFrom_eq (lines : List Line) (i : ℕ) : codeFrom lines i = pure (i + (blanksAhead (lines.drop i)).length) := by
  induction hd : lines.drop i generalizing i with
  | nil => rw [codeFrom, if_neg (not_lt_of_drop hd)]; rfl
  | cons line later ih =>
    rw [codeFrom, if_pos (lt_of_drop hd), lineAt_of_drop hd, pure_bind, blanksAhead, List.takeWhile_cons]
    by_cases hblank : allBlank line = true
    · rw [if_pos hblank, if_pos hblank, ih (i + 1) (drop_succ_of_drop hd), List.length_cons, blanksAhead]
      congr 1
      omega
    · rw [if_neg hblank, if_neg hblank]
      rfl

theorem blanksAhead_append_nextCode (lines : List Line) : blanksAhead lines ++ nextCode lines = lines :=
  List.takeWhile_append_dropWhile

theorem drop_blanksAhead (lines : List Line) : lines.drop (blanksAhead lines).length = nextCode lines := by
  calc lines.drop (blanksAhead lines).length
      = (blanksAhead lines ++ nextCode lines).drop (blanksAhead lines).length := by rw [blanksAhead_append_nextCode]
    _ = nextCode lines := List.drop_left

theorem drop_code (lines : List Line) (i : ℕ) :
    lines.drop (i + (blanksAhead (lines.drop i)).length) = nextCode (lines.drop i) := by
  rw [← List.drop_drop, drop_blanksAhead]

theorem nextBody_eq (lines : List Line) :
    nextBody lines =
      match nextCode lines with
      | [] => ⟨[], blanksAhead lines, []⟩
      | line :: more =>
        if (trim line).head? = some '{' then
          let cut := block (line :: more)
          ⟨cut.body, blanksAhead lines ++ cut.passed, cut.rest⟩
        else ⟨[line], blanksAhead lines ++ [line], more⟩ := by
  induction lines with
  | nil => rfl
  | cons line lines ih =>
    rw [nextBody, nextCode, blanksAhead, List.dropWhile_cons, List.takeWhile_cons]
    by_cases hblank : allBlank line = true
    · rw [if_pos hblank, if_pos hblank, if_pos hblank, ih, nextCode, blanksAhead]
      cases List.dropWhile allBlank lines with
      | nil => rfl
      | cons next more => 
        simp only
        split <;> rfl
    · rw [if_neg hblank, if_neg hblank, if_neg hblank]
      rfl

/-- A block behind a header is cut from the lines with the text after the header in its place. -/
theorem blockAt_set (text : Line) (hd : lines.drop i = header :: following) :
    blockAt (lines.set i text) i =
      edit lines i (block (text :: following)).body (block (text :: following)).passed (block (text :: following)).rest := by
  have hset : lines.set i text = lines.take i ++ text :: following := by
    rw [List.set_eq_take_append_cons_drop, if_pos (lt_of_drop hd), drop_succ_of_drop hd]
  have hlength : (lines.take i).length = i := List.length_take_of_le (lt_of_drop hd).le
  rw [blockAt, hset, List.drop_left' hlength, edit, edit, List.take_left' hlength]

theorem takeBody_eq (lines : List Line) (i : ℕ) (after : Line) :
    takeBody lines i after = .ofEdit (bodyAt lines i after) := by
  rw [takeBody, bodyAt]
  cases hd : lines.drop i with
  | nil =>
    have hend : lines.length ≤ i := List.drop_eq_nil_iff.mp hd
    simp only [replaceLine, if_neg (not_lt.mpr hend)]
    split
    · rfl
    by_cases hnone : trim after = []
    · rw [if_neg (by simp [hnone]), if_neg (by simp [hnone]), if_pos (by simp [hnone]), codeFrom, if_neg (by omega),
        pure_bind, if_pos (by omega)]
      rfl
    · split
      · simp_all [Attempt.ofEdit]
      · simp_all [Attempt.ofEdit]
  | cons header following =>
    simp only [bodyAfter]
    split
    · rw [replaceLine, if_pos (lt_of_drop hd), pure_bind, takeBlock_eq, blockAt_set _ hd]
      rfl
    have hwhole {body : List Line} : edit lines i body [header] following = ⟨body, i + 1, lines⟩ := by
      rw [← edit_succ _ _ _ hd, edit_whole _ (drop_succ_of_drop hd)]
    by_cases hsemicolon : trim after = [';']
    · rw [if_pos hsemicolon, if_pos hsemicolon, hwhole]
      rfl
    rw [if_neg hsemicolon, if_neg hsemicolon]
    by_cases hnone : trim after = []
    · have hnext : lines.drop (i + 1 + (blanksAhead following).length) = nextCode following := by
        rw [← drop_succ_of_drop hd, drop_code]
      have hpassed (taken passed rest : List Line) :
          edit lines i taken (header :: (blanksAhead following ++ passed)) rest =
            edit lines (i + 1 + (blanksAhead following).length) taken passed rest := by
        have hahead : lines.drop (i + 1) = blanksAhead following ++ nextCode following := by
          rw [drop_succ_of_drop hd, blanksAhead_append_nextCode]
        rw [edit_append _ _ _ _ hahead, edit_succ _ _ _ hd]
      rw [if_neg (not_not.mpr hnone), if_pos hnone, codeFrom_eq, drop_succ_of_drop hd, pure_bind, nextBody_eq]
      cases hcode : nextCode following with
      | nil =>
        rw [hcode] at hnext
        have hall := hpassed [] [] []
        rw [List.append_nil, edit_whole _ hnext] at hall
        rw [if_pos (List.drop_eq_nil_iff.mp hnext)]
        simp only [Cut.pass, hall]
        rfl
      | cons line more =>
        rw [hcode] at hnext
        rw [if_neg (not_le.mpr (lt_of_drop hnext)), lineAt_of_drop hnext, pure_bind]
        by_cases hbrace : (trim line).head? = some '{'
        · simp only [if_pos hbrace, Cut.pass]
          rw [takeBlock_eq, blockAt, hnext, hpassed]
          rfl
        · simp only [if_neg hbrace, Cut.pass]
          rw [hpassed, ← edit_succ _ _ _ hnext, edit_whole _ (drop_succ_of_drop hnext)]
          rfl
    · rw [if_pos hnone, if_neg hnone, hwhole]
      rfl

end FlowSketch.SystemsAttempt

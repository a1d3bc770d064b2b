import FlowSketch.ChartLabel
import FlowSketch.Proofs.TextEnds
import FlowSketch.TextWord

/-!
# Lines and blanks

Blanks are no word characters, the lines of a joined text are the texts that were joined, and a safe
label holds no line end.
-/
namespace FlowSketch.TextBlank

theorem isBlank_of_isLineEnd {c : Char} (h : isLineEnd c = true) : isBlank c = true := by
  simp only [isLineEnd, isBlank, Bool.or_eq_true, Bool.and_eq_true, decide_eq_true_eq, beq_iff_eq] at h ⊢
  omega

/-- The code points of the blanks. -/
def blankCodes : List ℕ :=
  [9, 10, 11, 12, 13, 28, 29, 30, 31, 32, 0x85, 0xA0, 0x1680, 0x2000, 0x2001, 0x2002, 0x2003, 0x2004, 0x2005,
    0x2006, 0x2007, 0x2008, 0x2009, 0x200A, 0x2028, 0x2029, 0x202F, 0x205F, 0x3000]

theorem mem_blankCodes {c : Char} (h : isBlank c = true) : c.toNat ∈ blankCodes := by
  simp only [isBlank, Bool.or_eq_true, Bool.and_eq_true, decide_eq_true_eq, beq_iff_eq] at h
  simp only [blankCodes, List.mem_cons, List.not_mem_nil, or_false]
  omega

theorem blankCodes_not_word : ∀ n ∈ blankCodes, TextWord.isWord (Char.ofNat n) = false := by decide +kernel

theorem isWord_of_isBlank {c : Char} (h : isBlank c = true) : TextWord.isWord c = false := by
  simpa using blankCodes_not_word _ (mem_blankCodes h)

theorem isBlank_of_isWord {c : Char} (h : TextWord.isWord c = true) : isBlank c = false := by
  by_contra hb
  simp [isWord_of_isBlank (Bool.not_eq_false _ ▸ hb)] at h

/-! ### Lines -/

/-- A text on one line. -/
def OneLine (cs : List Char) : Prop := ∀ c ∈ cs, isLineEnd c = false

theorem OneLine.append {a b : List Char} (ha : OneLine a) (hb : OneLine b) : OneLine (a ++ b) := fun c hc =>
  (List.mem_append.mp hc).elim (ha c) (hb c)

theorem OneLine.newline_notMem {cs : List Char} (h : OneLine cs) : '\n' ∉ cs := fun hc =>
  absurd (h _ hc) (by decide)

theorem textLines_cons {c : Char} {cs : List Char} (h : isLineEnd c = false) :
    textLines (c :: cs) = match textLines cs with
      | [] => [[c]]
      | line :: lines => (c :: line) :: lines := by
  rw [textLines]
  · rw [h]
    cases textLines cs <;> rfl
  · rintro rest rfl
    simp [isLineEnd] at h

theorem textLines_append_newline {line : List Char} (h : OneLine line) (rest : List Char) :
    textLines (line ++ '\n' :: rest) = line :: textLines rest := by
  induction line with
  | nil => rfl
  | cons c cs ih =>
    rw [List.cons_append, textLines_cons (h c (by simp)), ih fun d hd => h d (by simp [hd])]

theorem textLines_oneLine {line : List Char} (h : OneLine line) (hne : line ≠ []) : textLines line = [line] := by
  induction line with
  | nil => exact absurd rfl hne
  | cons c cs ih =>
    rw [textLines_cons (h c (by simp))]
    by_cases hcs : cs = []
    · simp [hcs, textLines]
    · rw [ih (fun d hd => h d (by simp [hd])) hcs]

/-- Texts on one line each come back when their joined text is cut into lines. -/
theorem textLines_intercalate {lines : List (List Char)} (h : ∀ l ∈ lines, OneLine l ∧ l ≠ []) :
    textLines (['\n'].intercalate lines) = lines := by
  induction lines with
  | nil => rfl
  | cons l ls ih =>
    obtain ⟨hl, hne⟩ := h l (by simp)
    cases ls with
    | nil => simpa using textLines_oneLine hl hne
    | cons m ms =>
      rw [List.intercalate_cons_cons, List.append_assoc, List.singleton_append, textLines_append_newline hl,
        ih fun k hk => h k (by simp [hk])]

/-! ### Words -/

/-- What holds of a single character that is not blank, and still holds with another one in front, holds of the words. -/
theorem words_induction {P : List Char → Prop} {cs : List Char} (single : ∀ c ∈ cs, isBlank c = false → P [c])
    (cons : ∀ c ∈ cs, isBlank c = false → ∀ w, P w → P (c :: w)) : ∀ w ∈ words cs, P w := by
  fun_induction words cs with
  | case1 => simp
  | case2 c hc => simp
  | case3 c hc =>
    rw [List.forall_mem_singleton]
    exact single c List.mem_cons_self (Bool.not_eq_true _ ▸ hc)
  | case4 c d cs hc ih =>
    exact ih (fun e he => single e (List.mem_cons_of_mem c he)) fun e he => cons e (List.mem_cons_of_mem c he)
  | case5 c d cs hc hd ih =>
    rw [List.forall_mem_cons]
    exact ⟨single c List.mem_cons_self (Bool.not_eq_true _ ▸ hc),
      ih (fun e he => single e (List.mem_cons_of_mem c he)) fun e he => cons e (List.mem_cons_of_mem c he)⟩
  | case6 c d cs hc hd ih =>
    have hlater := ih (fun e he => single e (List.mem_cons_of_mem c he)) fun e he => cons e (List.mem_cons_of_mem c he)
    cases hw : words (d :: cs) with
    | nil => simp
    | cons w ws =>
      rw [hw, List.forall_mem_cons] at hlater
      rw [List.modifyHead_cons, List.forall_mem_cons]
      exact ⟨cons c List.mem_cons_self (Bool.not_eq_true _ ▸ hc) w hlater.1, hlater.2⟩

theorem words_not_blank {cs w : List Char} (h : w ∈ words cs) : ∀ c ∈ w, isBlank c = false := by
  refine words_induction (P := fun w => ∀ c ∈ w, isBlank c = false) ?_ ?_ w h
  · exact fun c _ hc => List.forall_mem_singleton.mpr hc
  · exact fun c _ hc w hw => List.forall_mem_cons.mpr ⟨hc, hw⟩

theorem words_ne_nil {cs w : List Char} (h : w ∈ words cs) : w ≠ [] :=
  words_induction (P := fun w => w ≠ []) (fun _ _ _ => List.cons_ne_nil _ _) (fun _ _ _ _ _ => List.cons_ne_nil _ _) w h

theorem words_subset {cs w : List Char} (h : w ∈ words cs) : w ⊆ cs := by
  refine words_induction (P := fun w => w ⊆ cs) ?_ ?_ w h
  · exact fun c hc _ => List.cons_subset.mpr ⟨hc, List.nil_subset _⟩
  · exact fun c hc _ w hw => List.cons_subset.mpr ⟨hc, hw⟩

/-- A character that is not blank begins a word. -/
theorem words_cons {c : Char} (h : isBlank c = false) (cs : List Char) : ∃ w ws, words (c :: cs) = (c :: w) :: ws := by
  induction cs generalizing c with
  | nil => exact ⟨[], [], by simp [words, h]⟩
  | cons d cs ih =>
    by_cases hd : isBlank d = true
    · exact ⟨[], words (d :: cs), by simp [words, h, hd]⟩
    · obtain ⟨w, ws, hwords⟩ := ih (Bool.not_eq_true _ ▸ hd)
      exact ⟨d :: w, ws, by simp [words, h, hd, hwords]⟩

theorem mem_joinWords {ws : List (List Char)} {c : Char} (h : c ∈ joinWords ws) : c = ' ' ∨ ∃ w ∈ ws, c ∈ w := by
  unfold joinWords at h
  induction ws with
  | nil => simp [List.intercalate_nil] at h
  | cons w ws ih =>
    cases ws with
    | nil => simp_all
    | cons v vs =>
      rw [List.intercalate_cons_cons, List.append_assoc, List.mem_append, List.singleton_append, List.mem_cons] at h
      rcases h with h | h | h
      · exact .inr ⟨w, by simp, h⟩
      · exact .inl h
      · exact (ih h).imp_right fun ⟨u, hu, hc⟩ => ⟨u, List.mem_cons_of_mem _ hu, hc⟩

end FlowSketch.TextBlank

namespace FlowSketch.ChartLabel
open TextBlank

/-- The only blank that a safe label holds is a space. -/
theorem safeChars_blank {c : Char} {cs : List Char} (h : c ∈ safeChars cs) (hb : isBlank c = true) : c = ' ' := by
  rcases mem_joinWords (List.mem_of_mem_take (mem_dropEndBlanks h)) with hc | ⟨w, hw, hc⟩
  · exact hc
  · simp [words_not_blank (List.mem_of_mem_take hw) c hc] at hb

theorem safe_oneLine (s : String) : OneLine (safe s).toList := by
  intro c hc
  rw [safe, String.toList_ofList] at hc
  by_contra hl
  rw [Bool.not_eq_false] at hl
  rw [safeChars_blank hc (isBlank_of_isLineEnd hl)] at hl
  simp [isLineEnd] at hl

end FlowSketch.ChartLabel

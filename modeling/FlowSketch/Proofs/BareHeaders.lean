import FlowSketch.Proofs.SystemsCuts

/-!
# Headers without a body

A header or an else with no text behind it takes its body from the next line that is not blank, and so does one that
stands behind a brace, once the line is cut there. An else, and the while of a do loop, go on with a construct of the
lines before them.
-/
namespace FlowSketch.TextBlank

/-- A text behind which a brace follows keeps its beginning, and what is behind it begins no word. -/
theorem exists_trim_brace {line : List Char} (h : trim line ≠ []) (rest : List Char) :
    ∃ more, trim (line ++ '}' :: rest) = trim line ++ more ∧ ∀ c ∈ more.head?, TextWord.isWord c = false := by
  obtain ⟨a, b, ha, hb, hline⟩ := exists_trim line
  have hbrace : allBlank (b ++ '}' :: rest) = false :=
    SystemsFlow.not_allBlank (c := '}') (by simp) rfl
  refine ⟨dropEndBlanks (b ++ '}' :: rest), ?_, fun c hc => ?_⟩
  · conv_lhs => rw [hline]
    rw [List.append_assoc, List.append_assoc, trim_append ha, trim_append_left (solid_trim line).1 h hbrace]
  · have hhead : (b ++ '}' :: rest).head? = some c := by
      obtain ⟨t, ht⟩ := dropEndBlanks_isPrefix (b ++ '}' :: rest)
      rw [← ht, List.head?_append, Option.mem_def.mp hc, Option.some_or]
    cases b with
    | nil =>
      obtain rfl := Option.some.inj hhead
      decide
    | cons d b =>
      obtain rfl := Option.some.inj hhead
      exact isWord_of_isBlank (hb d List.mem_cons_self)

end FlowSketch.TextBlank

namespace FlowSketch.SystemsFlow
open TextBlank SystemsRegion SystemsHeader

/-! ### Texts behind braces -/

/-- The texts behind the braces of a line. -/
def behindBraces : Line → List Line
  | [] => []
  | c :: cs => if c = '{' || c = '}' then cs :: behindBraces cs else behindBraces cs

theorem behindBraces_noBraces {line : Line} (h : NoBraces line) : behindBraces line = [] := by
  induction line with
  | nil => rfl
  | cons c cs ih =>
    have hc : (c = '{' || c = '}') = false := by simp [h.head]
    rw [behindBraces, hc]
    exact ih h.tail

theorem behindBraces_append (a : Line) {b : Line} (h : NoBraces b) :
    behindBraces (a ++ b) = (behindBraces a).map (· ++ b) := by
  induction a with
  | nil => rw [List.nil_append, behindBraces_noBraces h]; rfl
  | cons c a ih =>
    rw [List.cons_append, behindBraces, behindBraces, ih]
    split <;> rfl

theorem behindBraces_suffix {a b : Line} (h : a <:+ b) : behindBraces a ⊆ behindBraces b := by
  obtain ⟨t, rfl⟩ := h
  induction t with
  | nil => exact fun _ h => h
  | cons c t ih =>
    rw [List.cons_append, behindBraces]
    split
    · exact fun x hx => List.mem_cons_of_mem _ (ih hx)
    · exact ih

/-! ### Headers -/

/-- The text behind what takes a body: a header, or an else. -/
def headed? (line : Line) : Option Line :=
  match header? (trim line) with
  | some .doLoop => some (afterDoWord (trim line))
  | some _ => some (condition (trim line)).2
  | none => elseAfter? line

/-- A line that ends where a body has to begin. -/
def opensBare (line : Line) : Bool := (headed? line).any allBlank

/-- A line that ends, behind one of its braces, where a body has to begin. -/
def waitsBehind (line : Line) : Bool := (behindBraces line).any opensBare

/-- A line that takes the next one as a body, whole or from one of its braces on. -/
def waits (line : Line) : Bool := opensBare line || waitsBehind line

/-- A line that goes on with a construct of the lines before it. -/
def resumes (line : Line) : Bool := (elseAfter? line).isSome || calls "while" (trim line)

theorem opensBare_congr {a b : Line} (h : trim a = trim b) : opensBare a = opensBare b := by
  rw [opensBare, opensBare, headed?, headed?, elseAfter?, elseAfter?, h]

theorem waitsBehind_suffix {a b : Line} (h : a <:+ b) (ha : waitsBehind a = true) : waitsBehind b = true := by
  obtain ⟨t, ht, hopens⟩ := List.any_eq_true.mp ha
  exact List.any_eq_true.mpr ⟨t, behindBraces_suffix h ht, hopens⟩

theorem waitsBehind_trim {line : Line} (h : waitsBehind (trim line) = true) : waitsBehind line = true := by
  obtain ⟨a, b, -, hb, hline⟩ := exists_trim line
  obtain ⟨t, ht, hopens⟩ := List.any_eq_true.mp h
  have hinner : waitsBehind (trim line ++ b) = true := by
    rw [waitsBehind, behindBraces_append _ (noBraces_of_blank hb)]
    refine List.any_eq_true.mpr ⟨t ++ b, List.mem_map_of_mem ht, ?_⟩
    rw [opensBare_congr (trim_append_right hb t), hopens]
  rw [hline]
  exact waitsBehind_suffix (List.suffix_append a _) hinner

theorem waits_trim {line : Line} (h : waits (trim line) = true) : waits line = true := by
  rcases Bool.or_eq_true_iff.mp h with h | h
  · rw [opensBare_congr (trim_trim line)] at h
    exact Bool.or_eq_true_iff.mpr (.inl h)
  · exact Bool.or_eq_true_iff.mpr (.inr (waitsBehind_trim h))

/-- What waits behind a brace waits on its line. -/
theorem waitsBehind_of_brace {c : Char} (hc : c = '{' ∨ c = '}') (before : Line) {after : Line} (h : waits after = true) :
    waitsBehind (before ++ c :: after) = true := by
  refine waitsBehind_suffix (List.suffix_append before _) ?_
  rw [waitsBehind, behindBraces, if_pos (by simpa using hc), List.any_cons]
  exact h

theorem after?_eq_some {lead : String} {line rest : Line} : after? lead line = some rest ↔ line = lead.toList ++ rest := by
  have hlength : lead.length = lead.toList.length := String.length_toList.symm
  constructor
  · intro h
    unfold after? at h
    split at h
    · next hlead =>
      obtain ⟨t, rfl⟩ := List.isPrefixOf_iff_prefix.mp hlead
      rw [hlength, List.drop_left] at h
      rw [Option.some.inj h]
    · cases h
  · rintro rfl
    rw [after?, if_pos (by simp), hlength, List.drop_left]

theorem after?_append {lead : String} {line rest : Line} (h : after? lead line = some rest) (more : Line) :
    after? lead (line ++ more) = some (rest ++ more) :=
  after?_eq_some.2 (by rw [after?_eq_some.1 h, List.append_assoc])

theorem afterWord?_eq_some {w : String} {line rest : Line} (h : afterWord? w line = some rest) :
    line = w.toList ++ rest := by
  unfold afterWord? at h
  obtain ⟨t, ht, h⟩ := Option.bind_eq_some_iff.mp h
  split at h
  · cases h
  · obtain rfl := Option.some.inj h
    exact after?_eq_some.1 ht

theorem eq_of_elseAfter? {line after : Line} (h : elseAfter? line = some after) : trim line = "else".toList ++ after :=
  afterWord?_eq_some h

/-- What resumes a construct also does so with a brace behind it. -/
theorem resumes_brace {line : Line} (h : resumes line = true) (rest : Line) : resumes (line ++ '}' :: rest) = true := by
  have hne : trim line ≠ [] := by
    intro hnil
    rw [resumes, elseAfter?, hnil] at h
    cases h
  obtain ⟨more, htrim, hmore⟩ := exists_trim_brace hne rest
  rcases Bool.or_eq_true_iff.mp h with helse | hwhile
  · refine Bool.or_eq_true_iff.mpr (.inl ?_)
    obtain ⟨after, hafter⟩ := Option.isSome_iff_exists.mp helse
    unfold elseAfter? afterWord? at hafter ⊢
    obtain ⟨text, htext, hword⟩ := Option.bind_eq_some_iff.mp hafter
    rw [htrim, after?_append htext]
    cases text with
    | nil =>
      cases more with
      | nil => rfl
      | cons c more => simp [hmore c rfl]
    | cons c text =>
      have hc : TextWord.isWord c = false := by
        by_contra hc
        rw [Bool.not_eq_false] at hc
        simp [hc] at hword
      simp [hc]
  · refine Bool.or_eq_true_iff.mpr (.inr ?_)
    unfold calls at hwhile ⊢
    cases htext : after? "while" (trim line) with
    | none => simp [htext] at hwhile
    | some text =>
      rw [htrim, after?_append htext]
      simp only [htext, Option.map_some, Option.getD_some, dropBlanks, beq_iff_eq] at hwhile ⊢
      have hnot : ¬ (List.dropWhile isBlank text).isEmpty = true := by
        intro hnil
        rw [List.isEmpty_iff.mp hnil] at hwhile
        cases hwhile
      rw [List.dropWhile_append, if_neg hnot, List.head?_append, hwhile, Option.some_or]

/-! ### Texts behind headers -/

theorem closing?_suffix {depth : ℤ} {cs : Line} {r : Line × Line} (h : closing? depth cs = some r) : r.2 <:+ cs := by
  induction cs generalizing depth r with
  | nil => cases h
  | cons c cs ih =>
    unfold closing? at h
    split at h
    · obtain rfl := Option.some.inj h
      exact List.suffix_cons c cs
    · obtain ⟨s, hs, rfl⟩ := Option.map_eq_some_iff.mp h
      exact (ih hs).trans (List.suffix_cons c cs)

theorem condition_suffix (line : Line) : (condition line).2 <:+ line := by
  unfold condition parenthesised
  split
  · next r h => exact (closing?_suffix h).trans (List.dropWhile_suffix _)
  · exact List.nil_suffix

theorem elseAfter?_suffix {line after : Line} (h : elseAfter? line = some after) : after <:+ trim line :=
  ⟨"else".toList, (eq_of_elseAfter? h).symm⟩

/-- A header waits if there is no text behind it, or if that text waits behind a brace. -/
theorem waits_of_headed {line after : Line} (h : headed? line = some after) (hs : after <:+ trim line) :
    (allBlank after = true → waits line = true) ∧ (waitsBehind after = true → waits line = true) := by
  constructor
  · intro hblank
    rw [waits, opensBare, h, Option.any_some, hblank, Bool.true_or]
  · intro hwaits
    exact Bool.or_eq_true_iff.mpr (.inr (waitsBehind_trim (waitsBehind_suffix hs hwaits)))

end FlowSketch.SystemsFlow

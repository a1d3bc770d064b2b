import FlowSketch.TextBlank
import Mathlib

/-!
# Blanks at the ends of a text

A text in front of which, or behind which, there are blanks only has the same ends without them, and what is left of it
is a part of the text.
-/
namespace FlowSketch.TextBlank

/-- A text of blanks, such as an indentation. -/
def Blank (cs : List Char) : Prop := ∀ c ∈ cs, isBlank c = true

instance : DecidablePred Blank := fun b => decidable_of_iff (allBlank b = true) List.all_eq_true

/-- What has a character behind a text without it begins with that text. -/
theorem exists_of_append_eq {c : Char} {as bs xs ys : List Char} (has : c ∉ as) (h : as ++ xs = bs ++ c :: ys) :
    ∃ more, bs = as ++ more ∧ xs = more ++ c :: ys := by
  rcases List.append_eq_append_iff.mp h with ⟨more, rfl, hxs⟩ | ⟨more, rfl, hrest⟩
  · exact ⟨more, rfl, hxs⟩
  · cases more with
    | nil => exact ⟨[], by simp, hrest.symm⟩
    | cons d more =>
      obtain ⟨rfl, -⟩ := List.cons.inj hrest
      exact absurd (by simp) has

theorem dropBlanks_append {b : List Char} (h : Blank b) (cs : List Char) : dropBlanks (b ++ cs) = dropBlanks cs := by
  induction b with
  | nil => rfl
  | cons c b ih =>
    rw [List.cons_append, dropBlanks, List.dropWhile_cons_of_pos (h c (by simp))]
    exact ih fun d hd => h d (by simp [hd])

theorem dropEndBlanks_isPrefix (cs : List Char) : dropEndBlanks cs <+: cs := by
  have hsuffix : cs.reverse.dropWhile isBlank <:+ cs.reverse := List.dropWhile_suffix isBlank
  rw [← List.reverse_prefix, List.reverse_reverse] at hsuffix
  exact hsuffix

theorem mem_dropEndBlanks {c : Char} {cs : List Char} (h : c ∈ dropEndBlanks cs) : c ∈ cs :=
  (dropEndBlanks_isPrefix cs).subset h

theorem trim_append {b : List Char} (h : Blank b) (cs : List Char) : trim (b ++ cs) = trim cs := by
  rw [trim, dropBlanks_append h, trim]

theorem allBlank_append {b : List Char} (h : Blank b) (cs : List Char) : allBlank (b ++ cs) = allBlank cs := by
  have hb : b.all isBlank = true := List.all_eq_true.mpr h
  rw [allBlank, List.all_append, hb, Bool.true_and, allBlank]

theorem allBlank_of_blank {b : List Char} (h : Blank b) : allBlank b = true := List.all_eq_true.mpr h

/-- A text with no blank at its ends. -/
def Solid (cs : List Char) : Prop := (∀ c ∈ cs.head?, isBlank c = false) ∧ ∀ c ∈ cs.getLast?, isBlank c = false

instance : DecidablePred Solid := fun cs =>
  decidable_of_iff ((cs.head?.all fun c => !isBlank c) ∧ (cs.getLast?.all fun c => !isBlank c))
    (by simp [Solid, Option.all_eq_true])

theorem dropBlanks_solid {cs : List Char} (h : ∀ c ∈ cs.head?, isBlank c = false) : dropBlanks cs = cs := by
  cases cs with
  | nil => rfl
  | cons c cs => rw [dropBlanks, List.dropWhile_cons_of_neg (by simp [h c rfl])]

theorem trim_solid {cs : List Char} (h : Solid cs) : trim cs = cs := by
  rw [trim, dropBlanks_solid h.1, dropEndBlanks, dropBlanks_solid, List.reverse_reverse]
  simpa using h.2

theorem solid_trim (cs : List Char) : Solid (trim cs) := by
  have hhead (xs : List Char) : ∀ c ∈ (dropBlanks xs).head?, isBlank c = false := by
    intro c hc
    have := List.head?_dropWhile_not isBlank xs
    rw [dropBlanks] at hc
    rw [Option.mem_def.mp hc] at this
    simpa using this
  refine ⟨?_, ?_⟩
  · intro c hc
    obtain ⟨t, ht⟩ : trim cs <+: dropBlanks cs := dropEndBlanks_isPrefix _
    refine hhead cs c ?_
    rw [← ht, List.head?_append, Option.mem_def.mp hc]
    rfl
  · simpa [trim, dropEndBlanks] using hhead (dropBlanks cs).reverse

theorem trim_trim (cs : List Char) : trim (trim cs) = trim cs := trim_solid (solid_trim cs)

theorem trim_sublist (cs : List Char) : (trim cs).Sublist cs :=
  (dropEndBlanks_isPrefix (dropBlanks cs)).sublist.trans (List.dropWhile_sublist isBlank)

theorem trim_eq_nil {cs : List Char} : trim cs = [] ↔ allBlank cs = true := by
  rw [trim, dropEndBlanks, List.reverse_eq_nil_iff, dropBlanks, List.dropWhile_eq_nil_iff, allBlank, List.all_eq_true]
  refine ⟨fun h c hc => ?_, fun h c hc => h c ((List.dropWhile_sublist _).subset (List.mem_reverse.mp hc))⟩
  rw [← List.takeWhile_append_dropWhile (p := isBlank) (l := cs)] at hc
  rcases List.mem_append.mp hc with hc | hc
  · exact List.mem_takeWhile_imp hc
  · exact h c (List.mem_reverse.mpr hc)

/-! ### Blanks behind a text -/

theorem getLast?_dropEndBlanks (cs : List Char) : (dropEndBlanks cs).getLast? ≠ some ' ' := by
  intro hlast
  rw [dropEndBlanks, List.getLast?_reverse] at hlast
  have hfirst := List.head?_dropWhile_not isBlank cs.reverse
  rw [← dropBlanks, hlast] at hfirst
  cases hfirst

theorem dropEndBlanks_ne_nil {c : Char} {cs : List Char} (hc : c ∈ cs) (h : isBlank c = false) : dropEndBlanks cs ≠ [] := by
  intro hnil
  have hblank := List.dropWhile_eq_nil_iff.mp (List.reverse_eq_nil_iff.mp hnil) c (List.mem_reverse.mpr hc)
  rw [h] at hblank
  cases hblank

theorem exists_dropEndBlanks (cs : List Char) : ∃ b, Blank b ∧ cs = dropEndBlanks cs ++ b := by
  refine ⟨(cs.reverse.takeWhile isBlank).reverse, fun c hc => List.mem_takeWhile_imp (List.mem_reverse.mp hc), ?_⟩
  rw [dropEndBlanks, dropBlanks, ← List.reverse_append, List.takeWhile_append_dropWhile, List.reverse_reverse]

theorem exists_trim (cs : List Char) : ∃ a b, Blank a ∧ Blank b ∧ cs = a ++ (trim cs ++ b) := by
  obtain ⟨b, hb, hcs⟩ := exists_dropEndBlanks (dropBlanks cs)
  refine ⟨cs.takeWhile isBlank, b, fun c hc => List.mem_takeWhile_imp hc, hb, ?_⟩
  rw [trim, ← hcs, dropBlanks, List.takeWhile_append_dropWhile]

theorem dropEndBlanks_append {b : List Char} (h : Blank b) (cs : List Char) :
    dropEndBlanks (cs ++ b) = dropEndBlanks cs := by
  have hrev : Blank b.reverse := fun c hc => h c (List.mem_reverse.mp hc)
  rw [dropEndBlanks, List.reverse_append, dropBlanks_append hrev, dropEndBlanks]

theorem trim_append_right {b : List Char} (h : Blank b) (cs : List Char) : trim (cs ++ b) = trim cs := by
  by_cases hcs : allBlank cs = true
  · rw [trim_append (List.all_eq_true.mp hcs), trim_eq_nil.mpr hcs, trim_eq_nil.mpr (allBlank_of_blank h)]
  · have hdrop : dropBlanks (cs ++ b) = dropBlanks cs ++ b := by
      rw [dropBlanks, List.dropWhile_append, if_neg]
      · rfl
      · simpa [allBlank] using hcs
    rw [trim, hdrop, dropEndBlanks_append h, trim]

/-- Text behind a text that begins without blanks loses its blanks at the end only. -/
theorem trim_append_left {a b : List Char} (ha : ∀ c ∈ a.head?, isBlank c = false) (hne : a ≠ []) (hb : allBlank b = false) :
    trim (a ++ b) = a ++ dropEndBlanks b := by
  have hstart : dropBlanks (a ++ b) = a ++ b := dropBlanks_solid (by rwa [List.head?_append_of_ne_nil a hne])
  have hend : ¬ (List.dropWhile isBlank b.reverse).isEmpty = true := by
    rw [List.isEmpty_iff, List.dropWhile_eq_nil_iff]
    intro h
    have : allBlank b = true := List.all_eq_true.mpr fun c hc => h c (List.mem_reverse.mpr hc)
    rw [this] at hb
    cases hb
  rw [trim, hstart, dropEndBlanks, List.reverse_append, dropBlanks, List.dropWhile_append, if_neg hend, List.reverse_append,
    List.reverse_reverse, dropEndBlanks, dropBlanks]

theorem trim_dropEndBlanks (cs : List Char) : trim (dropEndBlanks cs) = trim cs := by
  obtain ⟨b, hb, hcs⟩ := exists_dropEndBlanks cs
  conv_rhs => rw [hcs, trim_append_right hb]

/-- Blanks at the end are lost behind the last text only. -/
theorem dropEndBlanks_append_cons {c : Char} (hc : isBlank c = false) (as bs : List Char) :
    dropEndBlanks (as ++ c :: bs) = as ++ c :: dropEndBlanks bs := by
  have hreverse : (as ++ c :: bs).reverse = bs.reverse ++ c :: as.reverse := by simp
  rw [dropEndBlanks, hreverse, dropBlanks, List.dropWhile_append, List.dropWhile_cons_of_neg (by simp [hc]),
    dropEndBlanks, dropBlanks]
  split_ifs with hblank
  · rw [List.isEmpty_iff.mp hblank]
    simp
  · simp

end FlowSketch.TextBlank

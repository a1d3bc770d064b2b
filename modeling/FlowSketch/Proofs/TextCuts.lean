import FlowSketch.TextBlank
import Mathlib

/-!
# The lines of a source text

A text is cut into lines at its newlines only, so the lines of a joined text are those of the texts that were joined, and
what comes before the first newline stays on the first line.
-/
namespace FlowSketch.TextBlank

/-! ### Cuts -/

theorem cut_eq_splitOn (separator : Char) (cs : List Char) : cut separator cs = cs.splitOn separator := by
  rw [List.splitOn]
  induction cs with
  | nil => rfl
  | cons c cs ih => rw [cut, List.splitOnP_cons_eq_if_modifyHead, ih]

theorem cut_ne_nil (separator : Char) (cs : List Char) : cut separator cs ≠ [] := by
  rw [cut_eq_splitOn]
  exact List.splitOn_ne_nil separator cs

theorem cut_append_separator (separator : Char) (as bs : List Char) :
    cut separator (as ++ separator :: bs) = cut separator as ++ cut separator bs := by
  simp only [cut_eq_splitOn, List.splitOn]
  exact List.splitOnP_append_cons as bs (by simp)

theorem cut_intercalate (separator : Char) {pieces : List (List Char)} (h : pieces ≠ []) :
    cut separator ([separator].intercalate pieces) = pieces.flatMap (cut separator) := by
  induction pieces with
  | nil => exact absurd rfl h
  | cons piece pieces ih =>
    cases pieces with
    | nil => simp
    | cons next pieces =>
      rw [List.intercalate_cons_cons, List.append_assoc, List.singleton_append, cut_append_separator,
        ih (List.cons_ne_nil _ _)]
      simp only [List.flatMap_cons]

/-- A text in front of which there is something on the same line. -/
theorem cut_append {separator : Char} {as : List Char} (h : separator ∉ as) (bs : List Char) :
    cut separator (as ++ bs) = (cut separator bs).modifyHead (as ++ ·) := by
  induction as with
  | nil => exact (congrFun List.modifyHead_id _).symm
  | cons a as ih =>
    have has : separator ∉ as := fun hmem => h (List.mem_cons_of_mem a hmem)
    have ha : ¬ (a == separator) = true := fun heq => h (by simp [eq_of_beq heq])
    rw [List.cons_append, cut, if_neg ha, ih has, List.modifyHead_modifyHead]
    rfl

theorem cut_of_notMem {separator : Char} {cs : List Char} (h : separator ∉ cs) : cut separator cs = [cs] := by
  simpa [cut] using cut_append h []

/-- The pieces of a cut text have no separator in them. -/
theorem notMem_of_mem_cut {separator : Char} {cs piece : List Char} (h : piece ∈ cut separator cs) :
    separator ∉ piece := by
  induction cs generalizing piece with
  | nil =>
    obtain rfl := List.mem_singleton.mp h
    exact List.not_mem_nil
  | cons c cs ih =>
    obtain ⟨first, pieces, hcut⟩ := List.exists_cons_of_ne_nil (cut_ne_nil separator cs)
    rw [hcut] at ih
    rw [cut, hcut] at h
    split at h
    · rcases List.mem_cons.mp h with rfl | h
      · exact List.not_mem_nil
      · exact ih h
    · next hc =>
      rcases List.mem_cons.mp h with rfl | h
      · have hne : separator ≠ c := fun heq => hc (by simp [heq])
        simp [hne, ih List.mem_cons_self]
      · exact ih (List.mem_cons_of_mem _ h)

/-- Joined texts have the lines of the texts. -/
theorem sourceLines_joinLines {texts : List String} (h : texts ≠ []) :
    sourceLines (joinLines texts) = texts.flatMap sourceLines := by
  have hnewline : "\n".toList = ['\n'] := rfl
  rw [sourceLines, joinLines, String.toList_intercalate, hnewline, cut_intercalate _ (by simpa using h),
    List.map_flatMap, List.flatMap_map]
  rfl

theorem sourceLines_of_notMem {text : String} (h : '\n' ∉ text.toList) : sourceLines text = [text] := by
  rw [sourceLines, cut_of_notMem h, List.map_singleton, String.ofList_toList]

/-- Joined lines come back. -/
theorem sourceLines_lines {lines : List String} (hne : lines ≠ []) (h : ∀ l ∈ lines, '\n' ∉ l.toList) :
    sourceLines (joinLines lines) = lines := by
  have hsingle : lines.flatMap sourceLines = lines.flatMap fun l => [l] :=
    List.flatMap_congr fun l hl => sourceLines_of_notMem (h l hl)
  rw [sourceLines_joinLines hne, hsingle, List.flatMap_singleton']

/-! ### Texts on one line -/

/-- A text without newlines. -/
def Unbroken (text : String) : Prop := '\n' ∉ text.toList

instance : DecidablePred Unbroken := fun text => inferInstanceAs (Decidable ('\n' ∉ text.toList))

theorem unbroken_append {s t : String} : Unbroken (s ++ t) ↔ Unbroken s ∧ Unbroken t := by
  rw [Unbroken, String.toList_append, List.mem_append, not_or]
  rfl

/-- A text between two others. -/
theorem framed_unbroken {lead text tail : String} (hlead : Unbroken lead) (htext : Unbroken text) (htail : Unbroken tail) :
    Unbroken (lead ++ text ++ tail) :=
  unbroken_append.mpr ⟨unbroken_append.mpr ⟨hlead, htext⟩, htail⟩

theorem unbroken_ofList {cs : List Char} : Unbroken (.ofList cs) ↔ '\n' ∉ cs := by
  rw [Unbroken, String.toList_ofList]

theorem unbroken_of_subset {cs ds : List Char} (h : '\n' ∉ ds) (hsub : cs ⊆ ds) : Unbroken (.ofList cs) :=
  unbroken_ofList.mpr fun hmem => h (hsub hmem)

theorem unbroken_intercalate {sep : String} (hsep : Unbroken sep) {parts : List String} (h : ∀ s ∈ parts, Unbroken s) :
    Unbroken (sep.intercalate parts) := by
  induction parts with
  | nil => exact List.not_mem_nil
  | cons s parts ih =>
    obtain ⟨hs, hparts⟩ := List.forall_mem_cons.mp h
    cases parts with
    | nil => rwa [String.intercalate_singleton]
    | cons t parts =>
      rw [String.intercalate_cons_cons]
      exact unbroken_append.mpr ⟨unbroken_append.mpr ⟨hs, hsep⟩, ih hparts⟩

theorem unbroken_join {parts : List String} (h : ∀ s ∈ parts, Unbroken s) : Unbroken (String.join parts) := by
  induction parts with
  | nil => exact List.not_mem_nil
  | cons s parts ih =>
    obtain ⟨hs, hparts⟩ := List.forall_mem_cons.mp h
    rw [String.join_cons]
    exact unbroken_append.mpr ⟨hs, ih hparts⟩

theorem Unbroken.clip {text : String} (h : Unbroken text) (n : ℕ) : Unbroken (clip n text) :=
  unbroken_of_subset h (List.take_subset n _)

end FlowSketch.TextBlank

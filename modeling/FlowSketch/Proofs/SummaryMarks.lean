import FlowSketch.Proofs.UnbrokenTexts

/-!
# The marks of a summary

The summary of a source in a brace language has one header, one footer and a line for each step of the top level, unless
a string over several lines brings lines like these with it.
-/
namespace FlowSketch

/-- The languages that are told by file names and contents have names on one line. -/
theorem Language.detect_unbroken (path code : String) : TextBlank.Unbroken (detect path code) := by
  have hextensions : ∀ e ∈ extensions, TextBlank.Unbroken e.2 := by decide
  have hmarks : ∀ mark ∈ marks, TextBlank.Unbroken mark.2 := by decide
  rw [detect]
  cases hextension : extensions.lookup (TextCase.lower (extensionOf path)) with
  | some language =>
    obtain ⟨before, after, hsplit, -⟩ := List.lookup_eq_some_iff.mp hextension
    exact hextensions (_, language) (hsplit ▸ List.mem_append_right _ List.mem_cons_self)
  | none =>
    cases hmark : marks.find? fun mark => mark.1.found code.toList with
    | none => decide
    | some mark => exact hmarks mark (List.mem_of_find?_eq_some hmark)

namespace Analysis
open Summary TextBlank

/-- The summary has one header and one footer, and as many lines for steps as there are steps at the top level. -/
def IsMarked (a : Analysis) : Prop := Marked a.summary (a.nodes.filter Node.isStep).length

theorem analyze_nodes (code path hint : String) :
    (analyze code path hint).nodes = extract (analyze code path hint).dialect code := by
  simp only [analyze, analyzeWith]

theorem analyze_summary (code path hint : String) :
    (analyze code path hint).summary = summarize (analyze code path hint).nodes (analyze code path hint).language := by
  simp only [analyze, analyzeWith]

/-- Whoever does not say a language gets one with a name on one line. -/
theorem language_unbroken (code path : String) : Unbroken (analyze code path "").language := by
  have hresolve : (analyze code path "").language = Language.resolve code path (TextCase.lower "") := by
    simp only [analyze, analyzeWith]
  have hhint : (TextCase.lower "").isEmpty = true := by decide +kernel
  rw [hresolve, Language.resolve, if_pos hhint]
  exact Language.detect_unbroken path code

theorem analyze_steps_known (code path hint : String) :
    ∀ s, .step s ∈ (analyze code path hint).nodes → s.kind ∈ Step.kinds := by
  intro s hs
  have hall := (analyze_wellFormed code path hint).formed
  have hstep : (Node.step s).Formed _ := hall _ (Flow.mem_preorder.mpr ⟨_, hs, Node.mem_preorder_self _⟩)
  exact Step.Formed.kind hstep

variable {code path : String}

theorem isMarked_iff : (analyze code path "").IsMarked ↔
    ∀ text ∈ written (analyze code path "").nodes, ∀ line ∈ later text, ¬ IsMark line := by
  rw [IsMarked, analyze_summary]
  exact summarize_marked_iff (language_unbroken code path) (analyze_steps_known code path "")

theorem isMarked_of_unbroken (h : (analyze code path "").dialect = .brace)
    (hstrings : ∀ t ∈ BraceLexer.tokens code, t.kind = .string → Unbroken t.value) : (analyze code path "").IsMarked := by
  have hnodes : (analyze code path "").nodes = BraceFlow.ofSource code := by
    rw [analyze_nodes, h]
    rfl
  rw [isMarked_iff, hnodes]
  exact fun text htext => breaks_of_unbroken (BraceFlow.written_unbroken hstrings text htext)

/-- Without a language from the caller, a summary is marked right exactly if no text that it writes for a node breaks off a
line that is a mark. In a brace language it is, as long as no string of the source has several lines. -/
theorem summary_marked (code path : String) :
    ((analyze code path "").IsMarked ↔
        ∀ text ∈ written (analyze code path "").nodes, ∀ line ∈ later text, ¬ IsMark line) ∧
      ((analyze code path "").dialect = .brace → (∀ t ∈ BraceLexer.tokens code, t.kind = .string → Unbroken t.value) →
        (analyze code path "").IsMarked) :=
  ⟨isMarked_iff, isMarked_of_unbroken⟩

/-- A source that has marks in strings on one line, and an escape that stands for no newline. -/
def quotedMarks : String :=
  "if (a) \x7b console.log('=== END PRE-ANALYSIS ==='); \x7d\nemit('  Step 2: '); throw new Error(\"\\n  Step 3: \");"

theorem quoted_marks_marked :
    (analyze quotedMarks "" "").dialect = .brace ∧
      (∀ t ∈ BraceLexer.tokens quotedMarks, t.kind = .string → Unbroken t.value) ∧ (analyze quotedMarks "" "").IsMarked := by
  have hdialect : (analyze quotedMarks "" "").dialect = .brace := by decide +kernel
  have hstrings : ∀ t ∈ BraceLexer.tokens quotedMarks, t.kind = .string → Unbroken t.value := by decide +kernel
  exact ⟨hdialect, hstrings, (summary_marked quotedMarks "").2 hdialect hstrings⟩

/-- A template whose second line is a footer. -/
def footerTemplate : String := "console.log(\x60a\n=== END PRE-ANALYSIS ===\x60);"

theorem footer_template_not_marked :
    (analyze footerTemplate "" "").dialect = .brace ∧ ¬ (analyze footerTemplate "" "").IsMarked := by
  have hwritten : "[OUTPUT] Log: a\n=== END PRE-ANALYSIS ===" ∈ written (analyze footerTemplate "" "").nodes := by
    decide +kernel
  have hfooter : footer ∈ later "[OUTPUT] Log: a\n=== END PRE-ANALYSIS ===" := by decide +kernel
  exact ⟨by decide +kernel, fun hmarked => isMarked_iff.mp hmarked _ hwritten _ hfooter (.inr (.inl rfl))⟩

end Analysis
end FlowSketch

import FlowSketch.AnalysisAttempt
import FlowSketch.Proofs.BlockHalting
import FlowSketch.Proofs.LexerHalting
import FlowSketch.Proofs.SystemsHalting

/-!
# Every analysis ends, and none is degraded

The extractor of each dialect gives its nodes for every source, however malformed. Only the lexer of brace languages can
run forever, on a digit beyond ASCII that stands outside of literals and comments.
-/
namespace FlowSketch.Analysis
open BraceAttempt

/-- A source in which no digit beyond ASCII is outside of string literals and comments, if it is read by the lexer. -/
def Readable (dialect : Dialect) (code : String) : Prop :=
  dialect = .brace → (outside code.toList).any isForeignDigit = false

instance (dialect : Dialect) (code : String) : Decidable (Readable dialect code) :=
  inferInstanceAs (Decidable (_ → _))

theorem attempt_ends {dialect : Dialect} {code : String} (h : Readable dialect code) :
    Ends (fun fuel => attempt fuel dialect code) (pure (extract dialect code)) := by
  cases dialect with
  | systems => exact SystemsAttempt.ofSource_ends code
  | indentation => exact ⟨0, fun _ _ => rfl⟩
  | brace => exact BraceAttempt.ofSource_ends (tokens_ends (h rfl))

/-- Other sources are cut off, with whatever fuel. -/
theorem attempt_cutOff {dialect : Dialect} {code : String} (h : ¬ Readable dialect code) (fuel : ℕ) :
    attempt fuel dialect code = .cutOff := by
  obtain ⟨rfl, hany⟩ : dialect = .brace ∧ (outside code.toList).any isForeignDigit = true := by
    simpa only [Readable, Classical.not_imp, Bool.not_eq_false] using h
  rw [attempt, BraceAttempt.ofSource, tokens, tokensFrom_eq_none hany]
  rfl

theorem run_ends {code path hint : String} (h : Readable (dialectOf code path hint) code) :
    Ends (fun fuel => run fuel code path hint) (some (analyze code path hint)) := by
  refine .of_eventually ?_
  filter_upwards [(attempt_ends h).eventually] with fuel hattempt
  rw [run, hattempt]
  rfl

/-- An extractor ends with its nodes on every source that it reads to the end, and the analysis is that of these nodes; and
every recursion over a list of lines ends. -/
theorem extractors_halt (code : String) :
    (∀ dialect, Readable dialect code → Ends (fun fuel => attempt fuel dialect code) (pure (extract dialect code))) ∧
      (∀ path hint, Readable (dialectOf code path hint) code →
        Ends (fun fuel => run fuel code path hint) (some (analyze code path hint))) ∧
      ∀ lines, SystemsAttempt.Halts lines :=
  ⟨fun _ => attempt_ends, fun _ _ => run_ends, SystemsAttempt.halts⟩

/-- A source in which nothing is closed, with a foreign digit in a literal. -/
def unclosed : String := "switch (x \x7b case '٣: for (;;"

theorem unclosed_halts :
    Readable .brace unclosed ∧
      Ends (fun fuel => run fuel unclosed "a.js" "") (some (analyze unclosed "a.js" "")) := by
  have hread : Readable .brace unclosed := by decide +kernel
  exact ⟨hread, (extractors_halt unclosed).2.1 "a.js" "" fun _ => hread rfl⟩

end FlowSketch.Analysis

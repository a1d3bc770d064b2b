import FlowSketch.Flow
import FlowSketch.Pattern
import FlowSketch.TextBlank

/-! Ordered tables of statement shapes. The first rule whose pattern occurs in a statement decides what it is. -/
namespace FlowSketch

/-- A rule without an outcome recognises statements that are no step. -/
structure StatementRule where
  pattern : Pattern
  outcome : Option (String × (Pattern.Place → String))

namespace StatementRule

def ignore (pattern : Pattern) : StatementRule := ⟨pattern, none⟩

def step (kind : String) (pattern : Pattern) (label : Pattern.Place → String) : StatementRule :=
  ⟨pattern, some (kind, label)⟩

def fixed (kind : String) (pattern : Pattern) (label : String) : StatementRule := step kind pattern fun _ => label

/-- The step for a match; a statement whose label comes out empty is no step. -/
def stepOf (rule : StatementRule) (limit : Nat) (m : Pattern.Place) : Option Step := do
  let (kind, label) ← rule.outcome
  let label := TextBlank.clip limit (label m)
  if label.isEmpty then none else some ⟨kind, label⟩

end StatementRule

abbrev StatementTable := List StatementRule

/-- The step that a statement is, with a label of at most `limit` characters. -/
def StatementTable.classify (table : StatementTable) (limit : Nat) (statement : String) : Option Step :=
  match table with
  | [] => none
  | rule :: rules =>
    match rule.pattern.search statement.toList with
    | some m => rule.stepOf limit m
    | none => classify rules limit statement

/-- What holds of the steps of every rule for its own matches holds of the steps of the table. -/
theorem StatementTable.classify_all {table : StatementTable} {limit : Nat} {statement : String} {P : Step → Prop}
    (h : ∀ rule ∈ table, ∀ m, rule.pattern.search statement.toList = some m → ∀ s, rule.stepOf limit m = some s → P s)
    {s : Step} (hs : table.classify limit statement = some s) : P s := by
  induction table with
  | nil => cases hs
  | cons rule rules ih =>
    rw [classify] at hs
    split at hs
    · next m hm => exact h rule List.mem_cons_self m hm s hs
    · exact ih (fun r hr => h r (List.mem_cons_of_mem rule hr)) hs

end FlowSketch

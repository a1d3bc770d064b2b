import FlowSketch.SystemsEdit

/-! Computations with their failures. An attempt gives a value, ends with a fault, or is cut off. A recursion that nothing
bounds takes fuel, one for each nested call; one that runs forever is cut off however much it has. -/
namespace FlowSketch

/-- What an extractor can end with in place of nodes. -/
inductive Fault where
  /-- A line or a condition is missing. -/
  | edit (e : SystemsEdit.EditError)
  /-- A text that was cut has no such part. -/
  | noPart
  /-- There is no block at a position. -/
  | noBlock
  /-- The owner of a block does not name a part of its statement. -/
  | noOwnerPart (key : String)
  deriving DecidableEq, Repr

/-- Without an outcome (`none`) the computation was cut off. -/
abbrev Attempt := ExceptT Fault Option

/-- The outcome of a computation, reached with any fuel from some amount on. -/
def Ends {α : Type} (f : Nat → α) (outcome : α) : Prop := ∃ least, ∀ fuel, least ≤ fuel → f fuel = outcome

namespace Attempt

def cutOff {α : Type} : Attempt α := .mk none

def ofEdit {α : Type} : Except SystemsEdit.EditError α → Attempt α
  | .ok a => pure a
  | .error e => throw (.edit e)

/-- The value, or the fault that stands for the lack of one. -/
def get {α : Type} (fault : Fault) : Option α → Attempt α
  | some a => pure a
  | none => throw fault

end Attempt
end FlowSketch

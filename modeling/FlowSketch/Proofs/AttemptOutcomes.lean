import FlowSketch.Attempt
import Mathlib

/-!
# Outcomes of attempts

A computation with fuel ends as soon as its calls, which have one less, have ended. What it reads at a position of a list
is what the list has from there on.
-/
namespace FlowSketch

/-! ### Fuel -/

section

variable {α : Type} {f : ℕ → α} {outcome : α}

theorem Ends.eventually (h : Ends f outcome) : ∀ᶠ fuel in Filter.atTop, f fuel = outcome :=
  Filter.eventually_atTop.mpr h

theorem Ends.of_eventually (h : ∀ᶠ fuel in Filter.atTop, f fuel = outcome) : Ends f outcome :=
  Filter.eventually_atTop.mp h

theorem Ends.of_succ (h : ∀ᶠ fuel in Filter.atTop, f (fuel + 1) = outcome) : Ends f outcome := by
  have hall : ∀ᶠ fuel in Filter.map (· + 1) Filter.atTop, f fuel = outcome := h
  rw [Filter.map_add_atTop_eq_nat] at hall
  exact .of_eventually hall

theorem Ends.of_step (h : ∀ fuel, f (fuel + 1) = outcome) : Ends f outcome := .of_succ (.of_forall h)

end

/-! ### Positions -/

variable {α : Type} {l later : List α} {a : α} {i : ℕ}

theorem lt_of_drop (h : l.drop i = a :: later) : i < l.length := by
  have hlength : l.length - i = later.length + 1 := by rw [← List.length_drop, h, List.length_cons]
  omega

theorem not_lt_of_drop (h : l.drop i = []) : ¬ i < l.length := not_lt.mpr (List.drop_eq_nil_iff.mp h)

theorem drop_succ_of_drop (h : l.drop i = a :: later) : l.drop (i + 1) = later := by
  rw [← List.drop_drop, h]
  rfl

theorem getElem?_of_drop (h : l.drop i = a :: later) : l[i]? = some a := by
  rw [← List.head?_drop, h, List.head?_cons]

theorem mem_of_drop (h : l.drop i = a :: later) : a ∈ l := List.mem_of_mem_drop (h ▸ List.mem_cons_self)

theorem Attempt.get_of_drop (h : l.drop i = a :: later) (fault : Fault) : Attempt.get fault l[i]? = pure a := by
  rw [getElem?_of_drop h]
  rfl

end FlowSketch

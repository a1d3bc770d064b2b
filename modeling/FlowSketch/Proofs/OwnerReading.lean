import FlowSketch.BraceOwner
import Mathlib

/-!
# What an owner is read from

An owner that is recognised names parts of its statement: groups of a match, or the text of a parenthesis.
-/
namespace FlowSketch.Owner
open Pattern BraceStatement

/-- The texts that an owner names. -/
def texts : Owner → List String
  | event s m n => [s, m, n]
  | forOf item => item.toList
  | branch t | elseBranch t | forLoop t | whileLoop t | switch t | catchBlock t => [t]
  | iterator s m => [s, m]
  | function n | method n | namedArrow n | classBody n => [n]
  | _ => []

/-- The owners that a statement can have, with what each is read from. -/
inductive Reads (flat : List Char) (stmt : List Token) : Owner → Prop where
  | event {m : Place} (h : eventPattern.search (flatten stmt).toList = some m) :
      Reads flat stmt (event (m.text 1) (m.text 2) (m.text 3))
  | branch : Reads flat stmt (branch (parenthesised headerLimit "if" stmt))
  | elseBranch : Reads flat stmt (elseBranch (parenthesised headerLimit "if" stmt))
  | forOf : Reads flat stmt (forOf ((forOfPattern.search flat).map (·.text 1)))
  | forLoop : Reads flat stmt (forLoop (parenthesised headerLimit "for" stmt))
  | whileLoop : Reads flat stmt (whileLoop (parenthesised headerLimit "while" stmt))
  | switch : Reads flat stmt (switch (parenthesised headerLimit "switch" stmt))
  | catchBlock : Reads flat stmt (catchBlock (((catchParamPattern.search flat).map (·.text 1)).getD "e"))
  | iterator {m : Place} (h : iteratorPattern.search flat = some m) : Reads flat stmt (iterator (m.text 1) (m.text 2))
  | function {p : Pattern} {m : Place} (h : p.search flat = some m) : Reads flat stmt (function (m.text 1))
  | method {m : Place} (h : methodPattern.matchStart flat = some m) : Reads flat stmt (method (m.text 1))
  | namedArrow {p : Pattern} {m : Place} (h : p.search flat = some m) : Reads flat stmt (namedArrow (m.text 1))
  | classBody {p : Pattern} {m : Place} (h : p.search flat = some m) : Reads flat stmt (classBody (m.text 1))
  | fixed {owner : Owner} (h : owner.texts = []) : Reads flat stmt owner

variable {flat : List Char} {stmt : List Token} {owner : Owner}

theorem reads_of_if {p : Prop} [Decidable p] {o : Owner} (h : (if p then some o else none) = some owner)
    (ho : Reads flat stmt o) : Reads flat stmt owner := by
  split at h <;> cases h
  exact ho

theorem reads_of_match {x : Option Place} {f : Place → Owner} (h : (x.bind fun m => some (f m)) = some owner)
    (hf : ∀ m, x = some m → Reads flat stmt (f m)) : Reads flat stmt owner := by
  obtain ⟨m, hm, howner⟩ := Option.bind_eq_some_iff.mp h
  exact Option.some.inj howner ▸ hf m hm

theorem branch?_reads (h : branch? flat stmt = some owner) : Reads flat stmt owner := by
  rw [branch?] at h
  split at h
  · simp only at h
    split at h <;> cases h
    · exact .elseBranch
    · exact .branch
  · cases h

theorem method?_reads (h : method? flat stmt = some owner) : Reads flat stmt owner := by
  rw [method?] at h
  split at h
  · cases h
  · obtain ⟨m, hm, howner⟩ := Option.bind_eq_some_iff.mp h
    split at howner <;> cases howner
    exact .method hm

theorem rules_read : ∀ rule ∈ rules, rule flat stmt = some owner → Reads flat stmt owner := by
  simp only [rules, List.forall_mem_cons]
  refine ⟨fun h => reads_of_match h fun _ hm => .event hm, branch?_reads, fun h => reads_of_if h (.fixed rfl),
    fun h => reads_of_if h .forOf, fun h => reads_of_if h (.fixed rfl), fun h => reads_of_if h .forLoop,
    fun h => reads_of_if h .whileLoop, fun h => reads_of_if h (.fixed rfl), fun h => reads_of_if h .switch,
    fun h => reads_of_if h (.fixed rfl), fun h => reads_of_if h .catchBlock, fun h => reads_of_if h (.fixed rfl),
    fun h => reads_of_if h (.fixed rfl), fun h => reads_of_if h (.fixed rfl), fun h => reads_of_if h (.fixed rfl),
    fun h => reads_of_match h fun _ hm => .iterator hm, fun h => reads_of_match h fun _ hm => .function hm, method?_reads,
    fun h => reads_of_match h fun _ hm => .namedArrow hm, fun h => reads_of_match h fun _ hm => .classBody hm,
    fun h => reads_of_if h (.fixed rfl), nofun⟩

/-- The owner of a block is read from the pending statement of the tokens before it. -/
theorem classify_reads (ts : List Token) :
    Reads (flattenBlanked (pending ts)).toList (pending ts) (classify ts) := by
  rw [classify, ofStatement]
  cases h : rules.findSome? fun rule => rule (flattenBlanked (pending ts)).toList (pending ts) with
  | none => exact .fixed rfl
  | some owner =>
    obtain ⟨rule, hrule, howner⟩ := List.exists_of_findSome?_eq_some h
    exact rules_read rule hrule howner

end FlowSketch.Owner

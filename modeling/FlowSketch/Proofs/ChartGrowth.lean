import FlowSketch.ChartDrawing
import FlowSketch.Proofs.TextLines

/-!
# How a drawing grows

Whatever is drawn, a drawing grows by few kinds of additions: a new node takes up open exits, a new node
hangs on a node that is drawn already, or open exits are wired to a node that is there. What holds of every
drawing is shown for the additions.
-/
namespace FlowSketch.ChartDrawing
open TextBlank ChartLabel

def Item.nodeId? : Item → Option Id
  | node id _ _ => some id
  | edge .. => none

/-- The nodes that items define. -/
def nodeIds (items : List Item) : List Id := items.filterMap Item.nodeId?

@[simp] theorem nodeIds_nil : nodeIds [] = [] := rfl

@[simp] theorem nodeIds_append (a b : List Item) : nodeIds (a ++ b) = nodeIds a ++ nodeIds b := by
  simp [nodeIds]

@[simp] theorem nodeIds_node (id : Id) (s : Shape) (l : String) (items : List Item) :
    nodeIds (.node id s l :: items) = id :: nodeIds items := rfl

@[simp] theorem nodeIds_edge (a b : Id) (l : String) (items : List Item) :
    nodeIds (.edge a b l :: items) = nodeIds items := rfl

@[simp] theorem nodeIds_wire (exits : List Exit) (target : Id) : nodeIds (wire exits target) = [] := by
  simp [nodeIds, wire, Item.nodeId?]

@[simp] theorem nodeIds_entered (exits : List Exit) (id : Id) (s : Shape) (l : String) :
    nodeIds (entered exits id s l) = [id] := by
  simp [entered]

theorem mem_nodeIds {id : Id} {items : List Item} : id ∈ nodeIds items ↔ ∃ s l, .node id s l ∈ items := by
  induction items with
  | nil => simp
  | cons i items ih => cases i <;> simp [ih, exists_or, eq_comm]

theorem mem_wire {a b target : Id} {l : String} {exits : List Exit} :
    .edge a b l ∈ wire exits target ↔ ⟨a, l⟩ ∈ exits ∧ b = target := by
  simp only [wire, List.mem_map, Item.edge.injEq]
  constructor
  · rintro ⟨e, he, rfl, rfl, rfl⟩
    exact ⟨he, rfl⟩
  · rintro ⟨he, rfl⟩
    exact ⟨_, he, rfl, rfl, rfl⟩

theorem mem_entered {a b id : Id} {l label : String} {s : Shape} {exits : List Exit} :
    .edge a b l ∈ entered exits id s label ↔ ⟨a, l⟩ ∈ exits ∧ b = id := by
  simp [entered, mem_wire]

def Exit.Plain (e : Exit) : Prop := OneLine e.label.toList

/-- The additions to a part of a drawing. -/
inductive Adds : Part → Part → Prop
  /-- A new node takes up some of the open exits and opens its own. -/
  | enter {p : Part} {taken kept fresh : List Exit} (mark : Mark) (shape : Shape) {label : String}
      (plain : OneLine label.toList) (split : p.exits.Perm (taken ++ kept)) (nodup : fresh.Nodup)
      (own : ∀ e ∈ fresh, e.source = .drawn mark (p.count + 1) ∧ e.Plain) :
      Adds p ⟨p.items ++ entered taken (.drawn mark (p.count + 1)) shape label, fresh ++ kept, p.count + 1⟩
  /-- A new node hangs on a node that has no open exits. -/
  | branch {p : Part} {fresh : List Exit} (source : Exit) (mark : Mark) (shape : Shape) {label : String}
      (plain : OneLine label.toList) (drawn : source.source ∈ nodeIds p.items)
      (free : ∀ e ∈ p.exits, e.source ≠ source.source) (sourcePlain : source.Plain) (nodup : fresh.Nodup)
      (own : ∀ e ∈ fresh, e.source = .drawn mark (p.count + 1) ∧ e.Plain) :
      Adds p ⟨p.items ++ entered [source] (.drawn mark (p.count + 1)) shape label, fresh ++ p.exits, p.count + 1⟩
  /-- Some of the open exits are wired to a node that is there. -/
  | wire {p : Part} {taken kept : List Exit} (target : Id) (there : target = .stop ∨ target ∈ nodeIds p.items)
      (split : p.exits.Perm (taken ++ kept)) : Adds p ⟨p.items ++ wire taken target, kept, p.count⟩
  /-- The order of the open exits does not count. -/
  | reorder {p : Part} {exits : List Exit} (same : p.exits.Perm exits) : Adds p ⟨p.items, exits, p.count⟩

/-- Any number of additions. -/
inductive Grows (p : Part) : Part → Prop
  | refl : Grows p p
  | tail {q r : Part} : Grows p q → Adds q r → Grows p r

theorem Grows.single {p q : Part} (h : Adds p q) : Grows p q := .tail .refl h

theorem Grows.trans {p q r : Part} (h : Grows p q) (h' : Grows q r) : Grows p r := by
  induction h' with
  | refl => exact h
  | tail _ last ih => exact ih.tail last

theorem Grows.to {p q r : Part} (h : Grows p q) (items : q.items = r.items) (exits : q.exits.Perm r.exits)
    (count : q.count = r.count) : Grows p r := by
  obtain ⟨ri, re, rc⟩ := r
  subst items count
  exact h.tail (.reorder exits)

theorem Adds.count_le {p q : Part} (h : Adds p q) : p.count ≤ q.count := by
  cases h <;> simp

theorem Grows.count_le {p q : Part} (h : Grows p q) : p.count ≤ q.count := by
  induction h with
  | refl => exact le_rfl
  | tail _ h ih => exact ih.trans h.count_le

/-- The start, or a drawn node with a number up to `n`. -/
def Id.Upto (n : ℕ) : Id → Prop
  | start => True
  | stop => False
  | drawn _ k => k ≤ n

theorem Id.Upto.mono {m n : ℕ} {id : Id} (h : id.Upto m) (hmn : m ≤ n) : id.Upto n := by
  cases id with
  | start => trivial
  | stop => exact h
  | drawn _ k => exact le_trans h hmn

theorem Id.upto_drawn (mark : Mark) (n : ℕ) : (Id.drawn mark n).Upto n := le_refl n

def Part.Bounded (p : Part) : Prop := ∀ e ∈ p.exits, e.source.Upto p.count

theorem Adds.bounded {p q : Part} (h : Adds p q) (hp : p.Bounded) : q.Bounded := by
  intro e he
  cases h with
  | enter mark shape plain split nodup own =>
    rcases List.mem_append.mp he with he | he
    · rw [(own e he).1]
      exact Id.upto_drawn mark _
    · exact (hp e (split.mem_iff.mpr (List.mem_append_right _ he))).mono (Nat.le_succ _)
  | branch source mark shape plain drawn free sourcePlain nodup own =>
    rcases List.mem_append.mp he with he | he
    · rw [(own e he).1]
      exact Id.upto_drawn mark _
    · exact (hp e he).mono (Nat.le_succ _)
  | wire target there split => exact hp e (split.mem_iff.mpr (List.mem_append_right _ he))
  | reorder same => exact hp e (same.mem_iff.mpr he)

theorem Grows.bounded {p q : Part} (h : Grows p q) (hp : p.Bounded) : q.Bounded := by
  induction h with
  | refl => exact hp
  | tail _ h ih => exact h.bounded ih

/-- Additions open no exits of nodes that are there already. -/
theorem Adds.mem_exits {p q : Part} (h : Adds p q) {e : Exit} (he : e ∈ q.exits) :
    e ∈ p.exits ∨ ∃ mark, e.source = .drawn mark (p.count + 1) := by
  cases h with
  | enter mark shape plain split nodup own =>
    rcases List.mem_append.mp he with he | he
    · exact .inr ⟨mark, (own e he).1⟩
    · exact .inl (split.mem_iff.mpr (List.mem_append_right _ he))
  | branch source mark shape plain drawn free sourcePlain nodup own =>
    rcases List.mem_append.mp he with he | he
    · exact .inr ⟨mark, (own e he).1⟩
    · exact .inl he
  | wire target there split => exact .inl (split.mem_iff.mpr (List.mem_append_right _ he))
  | reorder same => exact .inl (same.mem_iff.mpr he)

theorem Grows.mem_exits {p q : Part} (h : Grows p q) {e : Exit} (he : e ∈ q.exits) (hu : e.source.Upto p.count) :
    e ∈ p.exits := by
  induction h with
  | refl => exact he
  | tail hg h ih =>
    rcases h.mem_exits he with he | ⟨mark, hs⟩
    · exact ih he
    · have := hg.count_le
      rw [hs] at hu
      simp only [Id.Upto] at hu
      omega

/-- A part with what is drawn after it; `kept` are the open exits that stay as they were. -/
def Part.followed (p q : Part) (kept : List Exit) : Part := ⟨p.items ++ q.items, q.exits ++ kept, q.count⟩

theorem question_oneLine (text : String) : OneLine (question text).toList := by
  rw [question, String.toList_append]
  exact (safe_oneLine text).append (by simp [OneLine, isLineEnd])

theorem catchLabel_oneLine (param : String) : OneLine (catchLabel param).toList := safe_oneLine _

theorem handlerLabel_oneLine (subject name : String) : OneLine (handlerLabel subject name).toList := safe_oneLine _

theorem yes_oneLine : OneLine "Yes".toList := by simp [OneLine, isLineEnd]

theorem no_oneLine : OneLine "No".toList := by simp [OneLine, isLineEnd]

theorem error_oneLine : OneLine "Error".toList := by simp [OneLine, isLineEnd]

theorem empty_oneLine : OneLine "".toList := by simp [OneLine]

theorem exit_own (mark : Mark) (n : ℕ) {label : String} (h : OneLine label.toList) :
    ∀ e ∈ [Exit.mk (.drawn mark n) label], e.source = .drawn mark n ∧ e.Plain := by
  simpa [Exit.Plain] using h

theorem exits_own (mark : Mark) (n : ℕ) {a b : String} (ha : OneLine a.toList) (hb : OneLine b.toList) :
    ∀ e ∈ [Exit.mk (.drawn mark n) a, ⟨.drawn mark n, b⟩], e.source = .drawn mark n ∧ e.Plain := by
  simpa [Exit.Plain] using ⟨ha, hb⟩

/-- Open exits that stay do not mind in which order the others were opened. -/
theorem perm_kept (a b kept : List Exit) : (b ++ (a ++ kept)).Perm ((a ++ b) ++ kept) :=
  (List.perm_append_comm_assoc b a kept).trans (.of_eq (List.append_assoc ..).symm)

theorem drawStep_caseStep (m : ℕ) (exits : List Exit) (l : String) :
    drawStep m exits (caseStep l) =
      ⟨entered exits (.drawn .step (m + 1)) .process (safe (caseStep l).label), [⟨.drawn .step (m + 1), ""⟩], m + 1⟩ := by
  simp [drawStep, caseStep, Step.isTerminal, Shape.ofKind]

theorem drawStep_grows (s : Step) {m : ℕ} {exits kept : List Exit} {p : Part} (hs : p.exits.Perm (exits ++ kept))
    (hm : p.count = m) : Grows p (p.followed (drawStep m exits s) kept) := by
  subst hm
  have entry : Grows p _ := .single (.enter .step (Shape.ofKind s.kind) (safe_oneLine s.label) hs
    (List.nodup_singleton _) (exit_own .step (p.count + 1) empty_oneLine))
  unfold drawStep
  split
  · have ending := entry.tail (.wire .stop (.inl rfl) (.refl ([Exit.mk (.drawn .step (p.count + 1)) ""] ++ kept)))
    exact ending.to (by simp [Part.followed, wire]) (.refl _) rfl
  · exact entry.to rfl (.refl _) rfl

mutual

theorem drawNode_grows : ∀ (n : Node) {m : ℕ} {exits kept : List Exit} {p : Part},
    p.exits.Perm (exits ++ kept) → p.count = m → p.Bounded → Grows p (p.followed (drawNode m exits n) kept)
  | .step s, _, _, _, _, hs, hm, _ => by
    rw [drawNode]
    exact drawStep_grows s hs hm
  | .function _ body, _, _, _, _, hs, hm, hb => by
    rw [drawNode]
    exact drawNodes_grows body hs hm hb
  | .promise _ _, _, _, _, _, hs, hm, _ => by
    rw [drawNode]
    exact Grows.refl.to (List.append_nil _).symm hs hm
  | .decision c yes no, m, exits, kept, p, hs, hm, hb => by
    subst hm
    have g1 : Grows p _ := .single (.enter .decision .decision (question_oneLine c) hs (by simp)
      (exits_own .decision (p.count + 1) yes_oneLine no_oneLine))
    have g2 := g1.trans (drawNodes_grows yes (.refl ([Exit.mk (.drawn .decision (p.count + 1)) "Yes"] ++ _)) rfl
      (g1.bounded hb))
    have open' (exits : List Exit) : (exits ++ ⟨.drawn .decision (p.count + 1), "No"⟩ :: kept).Perm
        ([⟨.drawn .decision (p.count + 1), "No"⟩] ++ (exits ++ kept)) := List.perm_middle
    have g3 := g2.trans (drawNodes_grows no (open' _) rfl (g2.bounded hb))
    rw [drawNode]
    exact g3.to (by simp [Part.followed]) (perm_kept _ _ kept) rfl
  | .loop l _ body, m, exits, kept, p, hs, hm, hb => by
    subst hm
    have g1 : Grows p _ := .single (.enter .loop .decision (question_oneLine l) hs (by simp)
      (exits_own .loop (p.count + 1) yes_oneLine no_oneLine))
    have g2 := g1.trans (drawNodes_grows body (.refl ([Exit.mk (.drawn .loop (p.count + 1)) "Yes"] ++ _)) rfl
      (g1.bounded hb))
    have g3 := g2.tail (.wire (.drawn .loop (p.count + 1)) (.inr (by simp [Part.followed])) (.refl _))
    rw [drawNode]
    exact g3.to (by simp [Part.followed]) (.refl _) rfl
  | .tryCatch body e handler _, m, exits, kept, p, hs, hm, hb => by
    subst hm
    have g1 : Grows p _ := .single (.enter .tryBlock .process (safe_oneLine "Try block") hs (by simp)
      (exits_own .tryBlock (p.count + 1) empty_oneLine error_oneLine))
    have g2 := g1.trans (drawNodes_grows body (.refl ([Exit.mk (.drawn .tryBlock (p.count + 1)) ""] ++ _)) rfl
      (g1.bounded hb))
    have open' (exits : List Exit) : (exits ++ ⟨.drawn .tryBlock (p.count + 1), "Error"⟩ :: kept).Perm
        ([⟨.drawn .tryBlock (p.count + 1), "Error"⟩] ++ (exits ++ kept)) := List.perm_middle
    have g3 := g2.tail (.enter .catchBlock .process (catchLabel_oneLine e) (open' _) (List.nodup_singleton _)
      (exit_own .catchBlock _ empty_oneLine))
    have g4 := g3.trans (drawNodes_grows handler (.refl _) rfl (g3.bounded hb))
    rw [drawNode]
    exact g4.to (by simp [Part.followed, entered, wire]) (perm_kept _ _ kept) rfl
  | .switch l cases, m, exits, kept, p, hs, hm, hb => by
    subst hm
    have g1 : Grows p _ := .single (.enter .switch .decision (safe_oneLine l) hs List.nodup_nil (by simp))
    have free : ∀ e ∈ kept, e.source ≠ .drawn .switch (p.count + 1) := by
      intro e he hsource
      have := hb e (hs.mem_iff.mpr (List.mem_append_right _ he))
      rw [hsource] at this
      exact Nat.not_succ_le_self _ this
    have g2 := g1.trans (drawCases_grows cases (.refl _) rfl (g1.bounded hb) le_rfl (by simp) free)
    rw [drawNode]
    exact g2.to (by simp [Part.followed]) (.refl _) rfl
  | .event s n _ body, m, exits, kept, p, hs, hm, hb => by
    subst hm
    have g1 : Grows p _ := .single (.enter .handler .process (handlerLabel_oneLine s n) hs (List.nodup_singleton _)
      (exit_own .handler (p.count + 1) empty_oneLine))
    have g2 := g1.trans (drawNodes_grows body (.refl _) rfl (g1.bounded hb))
    have g3 := g2.tail (.wire .stop (.inl rfl) (.refl _))
    rw [drawNode]
    exact g3.to (by simp [Part.followed]) (.refl _) rfl

theorem drawNodes_grows : ∀ (ns : List Node) {m : ℕ} {exits kept : List Exit} {p : Part},
    p.exits.Perm (exits ++ kept) → p.count = m → p.Bounded → Grows p (p.followed (drawNodes m exits ns) kept)
  | [], _, _, _, _, hs, hm, _ => by
    rw [drawNodes]
    exact Grows.refl.to (List.append_nil _).symm hs hm
  | n :: ns, m, exits, kept, p, hs, hm, hb => by
    have first := drawNode_grows n hs hm hb
    have later := drawNodes_grows ns (.refl _) rfl (first.bounded hb)
    rw [drawNodes]
    exact (first.trans later).to (List.append_assoc ..) (.refl _) rfl

theorem drawCases_grows : ∀ (cases : List Case) {m k : ℕ} {kept : List Exit} {p : Part},
    p.exits.Perm kept → p.count = m → p.Bounded → k ≤ m → .drawn .switch k ∈ nodeIds p.items →
      (∀ e ∈ p.exits, e.source ≠ .drawn .switch k) →
        Grows p (p.followed (drawCases m (.drawn .switch k) cases) kept)
  | [], _, _, _, _, hs, hm, _, _, _, _ => by
    rw [drawCases]
    exact Grows.refl.to (List.append_nil _).symm hs hm
  | ⟨l, body⟩ :: cases, m, k, kept, p, hs, hm, hb, hk, hd, hf => by
    subst hm
    have g1 : Grows p _ := .single (.branch ⟨.drawn .switch k, safe l⟩ .step .process
      (safe_oneLine (caseStep l).label) hd hf (safe_oneLine l) (List.nodup_singleton _)
      (exit_own .step (p.count + 1) empty_oneLine))
    have g2 := g1.trans (drawNodes_grows body (hs.append_left _) rfl (g1.bounded hb))
    have free : ∀ e ∈ (drawNodes (p.count + 1) [⟨.drawn .step (p.count + 1), ""⟩] body).exits ++ kept,
        e.source ≠ .drawn .switch k := by
      intro e he hsource
      exact hf e (g2.mem_exits he (hsource ▸ hk)) hsource
    have g3 := g2.trans (drawCases_grows cases (.refl _) rfl (g2.bounded hb) (hk.trans g2.count_le)
      (by simp [Part.followed, hd]) free)
    rw [drawCases, drawStep_caseStep]
    exact g3.to (by simp [Part.followed]) (perm_kept _ _ kept) rfl

end

end FlowSketch.ChartDrawing

import FlowSketch.Proofs.ChartGrowth

/-!
# Walks through a drawing

A part of a drawing is a diagram with gates, by which walks come in, and open exits. It draws a set of runs
when its walks from a gate to an exit are the completed runs and its walks from a gate to the end are the
ended ones. Whatever is drawn is put together from few such parts.
-/
namespace FlowSketch.ChartDrawing

/-- How a run leaves off. -/
inductive Ending where
  | completed
  | ended
  deriving DecidableEq, Repr

/-- A set of runs: what is run through, and how it ends. -/
abbrev Runs := List Id → Ending → Prop

namespace Runs

/-- The run through nothing. -/
def only (ending : Ending) : Runs := fun vs e => vs = [] ∧ e = ending

def none : Runs := fun _ _ => False

def after (id : Id) (r : Runs) : Runs := fun vs e => ∃ ws, vs = id :: ws ∧ r ws e

def either (r s : Runs) : Runs := fun vs e => r vs e ∨ s vs e

/-- One run after the other, where an ended run cuts off the rest. -/
def andThen (r s : Runs) : Runs := fun vs e =>
  (r vs .ended ∧ e = .ended) ∨ ∃ as bs, vs = as ++ bs ∧ r as .completed ∧ s bs e

/-- Every run is ended. -/
def cut (r : Runs) : Runs := fun vs e => e = .ended ∧ ∃ e', r vs e'

/-- Any number of completed runs, each followed by the head of the loop, or a last one that ended. -/
inductive Loop (id : Id) (body : Runs) : Runs where
  | leave : Loop id body [id] .completed
  | last {vs : List Id} : body vs .ended → Loop id body (id :: vs) .ended
  | again {vs ws : List Id} {e : Ending} :
      body vs .completed → Loop id body ws e → Loop id body (id :: (vs ++ ws)) e

end Runs

/-! ### Walks -/

def Link (items : List Item) (a b : Id) : Prop := ∃ l, .edge a b l ∈ items

theorem link_append {p q : List Item} {a b : Id} : Link (p ++ q) a b ↔ Link p a b ∨ Link q a b := by
  simp [Link, exists_or]

theorem link_wire {exits : List Exit} {target a b : Id} :
    Link (wire exits target) a b ↔ (∃ e ∈ exits, e.source = a) ∧ b = target := by
  simp only [Link, mem_wire, exists_and_right]
  refine and_congr_left fun _ => ⟨fun ⟨l, h⟩ => ⟨_, h, rfl⟩, ?_⟩
  rintro ⟨e, he, rfl⟩
  exact ⟨e.label, he⟩

theorem link_entered {exits : List Exit} {a b id : Id} {s : Shape} {l : String} :
    Link (entered exits id s l) a b ↔ (∃ e ∈ exits, e.source = a) ∧ b = id := by
  rw [← link_wire]
  simp [Link, entered]

/-- A walk from `a` through `vs`, the last of which is `c`. -/
inductive Walk (items : List Item) : Id → List Id → Id → Prop where
  | nil (a : Id) : Walk items a [] a
  | cons {a b c : Id} {vs : List Id} : Link items a b → Walk items b vs c → Walk items a (b :: vs) c

namespace Walk
variable {p q items : List Item} {a b c : Id} {vs ws : List Id}

theorem single (h : Link items a b) : Walk items a [b] b := .cons h (.nil b)

theorem append (h : Walk items a vs b) (h' : Walk items b ws c) : Walk items a (vs ++ ws) c := by
  induction h with
  | nil a => exact h'
  | cons hl _ ih => exact .cons hl (ih h')

theorem mono (h : Walk p a vs c) (links : ∀ {x y}, Link p x y → Link q x y) : Walk q a vs c := by
  induction h with
  | nil a => exact .nil a
  | cons hl _ ih => exact .cons (links hl) ih

theorem left (h : Walk p a vs c) : Walk (p ++ q) a vs c := h.mono fun hl => link_append.2 (.inl hl)

theorem right (h : Walk q a vs c) : Walk (p ++ q) a vs c := h.mono fun hl => link_append.2 (.inr hl)

theorem last (h : Walk items a (vs ++ [b]) c) : b = c := by
  induction vs generalizing a with
  | nil =>
    cases h with
    | cons _ h => cases h; rfl
  | cons v vs ih =>
    cases h with
    | cons _ h => exact ih h

theorem of_nil (h : Walk [] a vs c) : vs = [] := by
  cases h with
  | nil => rfl
  | cons hl _ => simp [Link] at hl

/-- A walk stays in the first of two parts, or there is a first link of the second one. -/
theorem split (h : Walk (p ++ q) a vs c) :
    Walk p a vs c ∨ ∃ as w b bs, vs = as ++ b :: bs ∧ Walk p a as w ∧ Link q w b ∧ Walk (p ++ q) b bs c := by
  induction h with
  | nil a => exact .inl (.nil a)
  | @cons a b c vs hl h ih =>
    rcases link_append.1 hl with hl | hl
    · rcases ih with ih | ⟨as, w, b', bs, rfl, has, hq, hbs⟩
      · exact .inl (.cons hl ih)
      · exact .inr ⟨b :: as, w, b', bs, rfl, .cons hl has, hq, hbs⟩
    · exact .inr ⟨[], a, b, vs, rfl, .nil a, hl, h⟩

/-- A walk does not leave a region from which all links are links of one part and stay in the region. -/
theorem confined {P : Id → Prop} (stays : ∀ {a b}, P a → Link items a b → Link p a b ∧ P b)
    (h : Walk items a vs c) (ha : P a) : Walk p a vs c ∧ P c := by
  induction h with
  | nil a => exact ⟨.nil a, ha⟩
  | cons hl _ ih =>
    obtain ⟨hp, hb⟩ := stays ha hl
    exact ⟨.cons hp (ih hb).1, (ih hb).2⟩

end Walk

/-- What is cut off before the end of a list ends as the list does. -/
theorem snoc_split {vs as bs : List Id} {b c : Id} (h : vs ++ [c] = as ++ b :: bs) :
    ∃ ws, b :: bs = ws ++ [c] ∧ vs = as ++ ws := by
  obtain ⟨ws, d, hws⟩ := List.eq_nil_or_concat (b :: bs) |>.resolve_left (by simp)
  rw [List.concat_eq_append] at hws
  rw [hws, ← List.append_assoc] at h
  obtain ⟨rfl, hd⟩ := List.append_inj' h rfl
  rw [← hd] at hws
  exact ⟨ws, hws, rfl⟩

theorem cons_split {vs ws : List Id} {b c : Id} (hne : c ≠ b) (h : vs ++ [c] = b :: ws) :
    ∃ us, vs = b :: us ∧ ws = us ++ [c] := by
  cases vs with
  | nil => exact absurd (List.cons.inj h).1 hne
  | cons v vs =>
    obtain ⟨rfl, rfl⟩ := List.cons.inj h
    exact ⟨vs, rfl, rfl⟩

/-! ### Numbers -/

/-- A drawn node with a number after `m`, up to `n`. -/
def Id.Between (m n : ℕ) : Id → Prop
  | drawn _ k => m < k ∧ k ≤ n
  | _ => False

theorem Id.Between.mono {m n m' n' : ℕ} {id : Id} (h : id.Between m n) (hm : m' ≤ m) (hn : n ≤ n') :
    id.Between m' n' := by
  cases id with
  | drawn _ k => exact ⟨lt_of_le_of_lt hm h.1, h.2.trans hn⟩
  | start => exact h
  | stop => exact h

theorem Id.Between.upto {m n : ℕ} {id : Id} (h : id.Between m n) : id.Upto n := by
  cases id with
  | drawn _ k => exact h.2
  | start => exact h.elim
  | stop => exact h.elim

theorem Id.Between.not_upto {m n : ℕ} {id : Id} (h : id.Between m n) : ¬ id.Upto m := by
  cases id with
  | drawn _ k => exact Nat.not_le_of_lt h.1
  | start => exact h.elim
  | stop => exact h.elim

theorem Id.stop_not_upto (m : ℕ) : ¬ Id.stop.Upto m := id

theorem Id.between_new (mark : Mark) {m n : ℕ} (h : m + 1 ≤ n) : (Id.drawn mark (m + 1)).Between m n :=
  ⟨Nat.lt_succ_self m, h⟩

/-! ### Diagrams -/

/-- The sources of exits. -/
def Opens (exits : List Exit) (a : Id) : Prop := ∃ e ∈ exits, e.source = a

@[simp] theorem opens_singleton (id : Id) (l : String) : Opens [⟨id, l⟩] = (id = ·) := by
  funext a
  simp [Opens]

@[simp] theorem opens_append {p q : List Exit} {a : Id} : Opens (p ++ q) a ↔ Opens p a ∨ Opens q a := by
  simp [Opens, or_and_right, exists_or]

/-- A part that is drawn after number `m`, is entered at the gates and draws the runs `r`. -/
structure Draws (p : Part) (m : ℕ) (gate : Id → Prop) (r : Runs) : Prop where
  le : m ≤ p.count
  old : ∀ {a}, gate a → a.Upto m
  source : ∀ {a b}, Link p.items a b → gate a ∨ a.Between m p.count
  target : ∀ {a b}, Link p.items a b → b = .stop ∨ b.Between m p.count
  exit : ∀ {a}, Opens p.exits a → gate a ∨ a.Between m p.count
  completes : ∀ {a vs}, gate a → r vs .completed → ∃ c, Opens p.exits c ∧ Walk p.items a vs c
  ends : ∀ {a vs}, gate a → r vs .ended → Walk p.items a (vs ++ [.stop]) .stop
  completed : ∀ {a vs c}, gate a → Opens p.exits c → Walk p.items a vs c → r vs .completed
  ended : ∀ {a vs}, gate a → Walk p.items a (vs ++ [.stop]) .stop → r vs .ended

namespace Draws
variable {p q : Part} {m : ℕ} {gate : Id → Prop} {r s : Runs} {id a b : Id}

theorem source_upto (h : Draws p m gate r) (hl : Link p.items a b) : a.Upto p.count :=
  (h.source hl).elim (fun ha => (h.old ha).mono h.le) Id.Between.upto

theorem exit_upto (h : Draws p m gate r) (ha : Opens p.exits a) : a.Upto p.count :=
  (h.exit ha).elim (fun ha => (h.old ha).mono h.le) Id.Between.upto

theorem target_not_upto (h : Draws p m gate r) (hl : Link p.items a b) : ¬ b.Upto m := by
  rcases h.target hl with rfl | hb
  · exact Id.stop_not_upto m
  · exact hb.not_upto

/-- A walk from a node of the part, or from the end, stays there. -/
theorem stays (h : Draws p m gate r) {vs : List Id} (hw : Walk p.items a vs b) (ha : a = .stop ∨ a.Between m p.count) :
    b = .stop ∨ b.Between m p.count :=
  (hw.confined (P := fun x => x = .stop ∨ x.Between m p.count) (fun _ hl => ⟨hl, h.target hl⟩) ha).2

/-- A walk from a gate ends at that gate, at the end of the chart or at a node of the part. -/
theorem walk_end (h : Draws p m gate r) {vs : List Id} (hw : Walk p.items a vs b) :
    (vs = [] ∧ b = a) ∨ b = .stop ∨ b.Between m p.count := by
  cases hw with
  | nil a => exact .inl ⟨rfl, rfl⟩
  | cons hl hw => exact .inr (h.stays hw (h.target hl))

/-- A walk that comes into a later part stays there. -/
theorem confined_right (hp : Draws p m gate r) {gate' : Id → Prop} (hq : Draws q p.count gate' s) {vs : List Id}
    (hw : Walk (p.items ++ q.items) a vs b) (ha : ¬ a.Upto p.count) : Walk q.items a vs b ∧ ¬ b.Upto p.count := by
  refine hw.confined (P := fun x => ¬ x.Upto p.count) (fun hx hl => ?_) ha
  rcases link_append.1 hl with hl | hl
  · exact absurd (hp.source_upto hl) hx
  · exact ⟨hl, hq.target_not_upto hl⟩

theorem target_append (hp : Draws p m gate r) {gate' : Id → Prop} (hq : Draws q p.count gate' s)
    (hl : Link (p.items ++ q.items) a b) : b = .stop ∨ b.Between m q.count := by
  rcases link_append.1 hl with hl | hl
  · exact (hp.target hl).imp_right fun h => h.mono le_rfl hq.le
  · exact (hq.target hl).imp_right fun h => h.mono hp.le le_rfl

/-! ### Nothing -/

theorem nothing {exits : List Exit} (h : ∀ {a}, Opens exits a → a.Upto m) :
    Draws ⟨[], exits, m⟩ m (Opens exits) (.only .completed) where
  le := le_rfl
  old := h
  source hl := by simp [Link] at hl
  target hl := by simp [Link] at hl
  exit := .inl
  completes := by
    rintro a vs ha ⟨rfl, -⟩
    exact ⟨a, ha, .nil a⟩
  ends := by
    rintro a vs - ⟨-, he⟩
    cases he
  completed := by
    rintro a vs c - - hw
    exact ⟨hw.of_nil, rfl⟩
  ended := by
    rintro a vs - hw
    simpa using hw.of_nil

theorem none (h : a.Upto m) : Draws ⟨[], [], m⟩ m (a = ·) .none where
  le := le_rfl
  old := by
    rintro b rfl
    exact h
  source hl := by simp [Link] at hl
  target hl := by simp [Link] at hl
  exit := by simp [Opens]
  completes _ hr := hr.elim
  ends _ hr := hr.elim
  completed _ hc := by simp [Opens] at hc
  ended := by
    rintro b vs - hw
    simpa using hw.of_nil

/-! ### One part after the other -/

/-- A walk through two parts in a row stays in the first one or leaves it by one of its exits. -/
theorem sequence_walk (hp : Draws p m gate r) (hq : Draws q p.count (Opens p.exits) s) {vs : List Id} {c : Id}
    (ha : gate a) (hw : Walk (p.items ++ q.items) a vs c) :
    Walk p.items a vs c ∨ ∃ as w b bs, vs = as ++ b :: bs ∧ Opens p.exits w ∧ Walk p.items a as w ∧
      Walk q.items w (b :: bs) c := by
  rcases hw.split with hw | ⟨as, w, b, bs, rfl, has, hl, hbs⟩
  · exact .inl hw
  · have hw : w.Upto p.count := by
      rcases hp.walk_end has with ⟨-, rfl⟩ | rfl | hw
      · exact (hp.old ha).mono hp.le
      · exact ((hq.source hl).elim hp.exit_upto fun h => h.elim)
      · exact hw.upto
    have hgate : Opens p.exits w := (hq.source hl).resolve_right fun h => h.not_upto hw
    exact .inr ⟨as, w, b, bs, rfl, hgate, has, .cons hl (hp.confined_right hq hbs (hq.target_not_upto hl)).1⟩

theorem andThen (hp : Draws p m gate r) (hq : Draws q p.count (Opens p.exits) s) :
    Draws ⟨p.items ++ q.items, q.exits, q.count⟩ m gate (r.andThen s) where
  le := hp.le.trans hq.le
  old := hp.old
  source := by
    intro a b hl
    rcases link_append.1 hl with hl | hl
    · exact (hp.source hl).imp_right fun h => h.mono le_rfl hq.le
    · rcases hq.source hl with h | h
      · exact (hp.exit h).imp_right fun h => h.mono le_rfl hq.le
      · exact .inr (h.mono hp.le le_rfl)
  target := hp.target_append hq
  exit := by
    intro a ha
    rcases hq.exit ha with h | h
    · exact (hp.exit h).imp_right fun h => h.mono le_rfl hq.le
    · exact .inr (h.mono hp.le le_rfl)
  completes := by
    rintro a vs ha (⟨-, he⟩ | ⟨as, bs, rfl, hr, hs⟩)
    · cases he
    · obtain ⟨w, hw, has⟩ := hp.completes ha hr
      obtain ⟨c, hc, hbs⟩ := hq.completes hw hs
      exact ⟨c, hc, has.left.append hbs.right⟩
  ends := by
    rintro a vs ha (⟨hr, -⟩ | ⟨as, bs, rfl, hr, hs⟩)
    · exact (hp.ends ha hr).left
    · obtain ⟨w, hw, has⟩ := hp.completes ha hr
      rw [List.append_assoc]
      exact has.left.append (hq.ends hw hs).right
  completed := by
    intro a vs c ha hc hw
    rcases hp.sequence_walk hq ha hw with hw | ⟨as, w, b, bs, rfl, hgate, has, hbs⟩
    · have hcu : c.Upto p.count := by
        rcases hp.walk_end hw with ⟨-, rfl⟩ | rfl | h
        · exact (hp.old ha).mono hp.le
        · exact absurd (hq.exit_upto hc) (Id.stop_not_upto _)
        · exact h.upto
      have hgate : Opens p.exits c := (hq.exit hc).resolve_right fun h => h.not_upto hcu
      exact .inr ⟨vs, [], (List.append_nil _).symm, hp.completed ha hgate hw, hq.completed hgate hc (.nil c)⟩
    · exact .inr ⟨as, b :: bs, rfl, hp.completed ha hgate has, hq.completed hgate hc hbs⟩
  ended := by
    intro a vs ha hw
    rcases hp.sequence_walk hq ha hw with hw | ⟨as, w, b, bs, hv, hgate, has, hbs⟩
    · exact .inl ⟨hp.ended ha hw, rfl⟩
    · obtain ⟨ws, hws, rfl⟩ := snoc_split hv
      rw [hws] at hbs
      exact .inr ⟨as, ws, rfl, hp.completed ha hgate has, hq.ended hgate hbs⟩

/-! ### One part or the other -/

/-- A walk from the common gate of two parts goes through one of them. -/
theorem branch_walk (hp : Draws p m (id = ·) r) (hq : Draws q p.count (id = ·) s) {vs : List Id} {c : Id}
    (hw : Walk (p.items ++ q.items) id vs c) :
    (Walk p.items id vs c ∧ (vs = [] ∨ c = .stop ∨ c.Between m p.count)) ∨
      (Walk q.items id vs c ∧ (vs = [] ∨ ¬ c.Upto p.count)) := by
  cases hw with
  | nil => exact .inl ⟨.nil id, .inl rfl⟩
  | cons hl hw =>
    rcases link_append.1 hl with hl | hl
    · obtain ⟨hw, hc⟩ := hw.confined (p := p.items) (P := fun x => x = .stop ∨ x.Between m p.count)
        (fun {x y} hx hxy => by
          rcases link_append.1 hxy with hxy | hxy
          · exact ⟨hxy, hp.target hxy⟩
          · exfalso
            rcases hq.source hxy with rfl | h
            · rcases hx with rfl | hx
              · exact Id.stop_not_upto m (hp.old rfl)
              · exact hx.not_upto (hp.old rfl)
            · rcases hx with rfl | hx
              · exact h.elim
              · exact h.not_upto hx.upto) (hp.target hl)
      exact .inl ⟨.cons hl hw, .inr hc⟩
    · obtain ⟨hw, hc⟩ := hp.confined_right hq hw (hq.target_not_upto hl)
      exact .inr ⟨.cons hl hw, .inr hc⟩

theorem either (hp : Draws p m (id = ·) r) (hq : Draws q p.count (id = ·) s) :
    Draws ⟨p.items ++ q.items, p.exits ++ q.exits, q.count⟩ m (id = ·) (r.either s) where
  le := hp.le.trans hq.le
  old := hp.old
  source := by
    intro a b hl
    rcases link_append.1 hl with hl | hl
    · exact (hp.source hl).imp_right fun h => h.mono le_rfl hq.le
    · exact (hq.source hl).imp_right fun h => h.mono hp.le le_rfl
  target := hp.target_append hq
  exit := by
    intro a ha
    rcases opens_append.1 ha with ha | ha
    · exact (hp.exit ha).imp_right fun h => h.mono le_rfl hq.le
    · exact (hq.exit ha).imp_right fun h => h.mono hp.le le_rfl
  completes := by
    rintro a vs ha (hr | hs)
    · obtain ⟨c, hc, hw⟩ := hp.completes ha hr
      exact ⟨c, opens_append.2 (.inl hc), hw.left⟩
    · obtain ⟨c, hc, hw⟩ := hq.completes ha hs
      exact ⟨c, opens_append.2 (.inr hc), hw.right⟩
  ends := by
    rintro a vs ha (hr | hs)
    · exact (hp.ends ha hr).left
    · exact (hq.ends ha hs).right
  completed := by
    rintro a vs c rfl hc hw
    rcases hp.branch_walk hq hw with ⟨hw, hend⟩ | ⟨hw, hend⟩ <;> rcases opens_append.1 hc with hc | hc
    · exact .inl (hp.completed rfl hc hw)
    · rcases hend with rfl | rfl | hend
      · cases hw
        exact .inr (hq.completed rfl hc (.nil _))
      · exact absurd (hq.exit_upto hc) (Id.stop_not_upto _)
      · rcases hq.exit hc with rfl | h
        · exact absurd (hp.old rfl) hend.not_upto
        · exact absurd hend.upto h.not_upto
    · rcases hend with rfl | hend
      · cases hw
        exact .inl (hp.completed rfl hc (.nil _))
      · exact absurd (hp.exit_upto hc) hend
    · exact .inr (hq.completed rfl hc hw)
  ended := by
    rintro a vs rfl hw
    rcases hp.branch_walk hq hw with ⟨hw, -⟩ | ⟨hw, -⟩
    · exact .inl (hp.ended rfl hw)
    · exact .inr (hq.ended rfl hw)

/-! ### A new node -/

end Draws

/-- A walk that enters at a new node goes on behind it. -/
theorem Walk.of_entered {exits : List Exit} {items : List Item} {id a c : Id} {s : Shape} {l : String} {vs : List Id}
    {m : ℕ} (hexits : ∀ {a}, Opens exits a → a.Upto m) (hid : ¬ id.Upto m)
    (hitems : ∀ {a b}, Link items a b → ¬ a.Upto m ∧ ¬ b.Upto m) (ha : a.Upto m) (hc : ¬ c.Upto m)
    (hw : Walk (entered exits id s l ++ items) a vs c) : ∃ ws, vs = id :: ws ∧ Walk items id ws c := by
  cases hw with
  | nil => exact absurd ha hc
  | @cons _ b _ ws hl hw =>
    obtain ⟨-, rfl⟩ := link_entered.1 ((link_append.1 hl).resolve_right fun h => (hitems h).1 ha)
    refine ⟨ws, rfl, (hw.confined (P := fun x => ¬ x.Upto m) (fun hx hl => ?_) hid).1⟩
    rcases link_append.1 hl with hl | hl
    · exact absurd (hexits (link_entered.1 hl).1) hx
    · exact ⟨hl, (hitems hl).2⟩

namespace Draws
variable {p q : Part} {m : ℕ} {gate : Id → Prop} {r s : Runs} {id a b : Id}

/-- The links behind a new node touch nothing that was there before. -/
theorem link_new {mark : Mark} (hq : Draws q (m + 1) (.drawn mark (m + 1) = ·) r) (hl : Link q.items a b) :
    a.Between m q.count ∧ (b = .stop ∨ b.Between m q.count) := by
  refine ⟨?_, (hq.target hl).imp_right fun h => h.mono (Nat.le_succ m) le_rfl⟩
  rcases hq.source hl with rfl | h
  · exact Id.between_new mark hq.le
  · exact h.mono (Nat.le_succ m) le_rfl

theorem link_new_not_upto {mark : Mark} (hq : Draws q (m + 1) (.drawn mark (m + 1) = ·) r) (hl : Link q.items a b) :
    ¬ a.Upto m ∧ ¬ b.Upto m := by
  obtain ⟨ha, rfl | hb⟩ := hq.link_new hl
  · exact ⟨ha.not_upto, Id.stop_not_upto m⟩
  · exact ⟨ha.not_upto, hb.not_upto⟩

theorem exit_new {mark : Mark} (hq : Draws q (m + 1) (.drawn mark (m + 1) = ·) r) (ha : Opens q.exits a) :
    a.Between m q.count := by
  rcases hq.exit ha with rfl | h
  · exact Id.between_new mark hq.le
  · exact h.mono (Nat.le_succ m) le_rfl

theorem enter {mark : Mark} {exits : List Exit} (hexits : ∀ {a}, Opens exits a → a.Upto m)
    (hq : Draws q (m + 1) (.drawn mark (m + 1) = ·) r) (shape : Shape) (label : String) :
    Draws ⟨entered exits (.drawn mark (m + 1)) shape label ++ q.items, q.exits, q.count⟩ m (Opens exits)
      (r.after (.drawn mark (m + 1))) where
  le := (Nat.le_succ m).trans hq.le
  old := hexits
  source := by
    intro a b hl
    rcases link_append.1 hl with hl | hl
    · exact .inl (link_entered.1 hl).1
    · exact .inr (hq.link_new hl).1
  target := by
    intro a b hl
    rcases link_append.1 hl with hl | hl
    · obtain ⟨-, rfl⟩ := link_entered.1 hl
      exact .inr (Id.between_new mark hq.le)
    · exact (hq.link_new hl).2
  exit ha := .inr (hq.exit_new ha)
  completes := by
    rintro a vs ha ⟨ws, rfl, hr⟩
    obtain ⟨c, hc, hw⟩ := hq.completes rfl hr
    exact ⟨c, hc, .cons (link_append.2 (.inl (link_entered.2 ⟨ha, rfl⟩))) hw.right⟩
  ends := by
    rintro a vs ha ⟨ws, rfl, hr⟩
    exact .cons (link_append.2 (.inl (link_entered.2 ⟨ha, rfl⟩))) (hq.ends rfl hr).right
  completed := by
    intro a vs c ha hc hw
    obtain ⟨ws, hv, hws⟩ := hw.of_entered hexits (Id.between_new mark le_rfl).not_upto hq.link_new_not_upto
      (hexits ha) (hq.exit_new hc).not_upto
    exact ⟨ws, hv, hq.completed rfl hc hws⟩
  ended := by
    intro a vs ha hw
    obtain ⟨ws, hv, hws⟩ := hw.of_entered hexits (Id.between_new mark le_rfl).not_upto hq.link_new_not_upto
      (hexits ha) (Id.stop_not_upto m)
    obtain ⟨ws, rfl, rfl⟩ := cons_split (by simp) hv
    exact ⟨ws, rfl, hq.ended rfl hws⟩

/-! ### Loops -/

/-- The runs of a loop walk around its body. -/
theorem loop_walk (hq : Draws q (m + 1) (id = ·) r) {vs : List Id} {e : Ending} (h : Runs.Loop id r vs e) :
    ∃ ws, vs = id :: ws ∧ match e with
      | .completed => Walk (q.items ++ wire q.exits id) id ws id
      | .ended => Walk (q.items ++ wire q.exits id) id (ws ++ [.stop]) .stop := by
  induction h with
  | leave => exact ⟨[], rfl, .nil id⟩
  | last hr => exact ⟨_, rfl, (hq.ends rfl hr).left⟩
  | @again vs ws e hr _ ih =>
    obtain ⟨us, rfl, hus⟩ := ih
    obtain ⟨c, hc, hw⟩ := hq.completes rfl hr
    have around : Link (q.items ++ wire q.exits id) c id := link_append.2 (.inr (link_wire.2 ⟨hc, rfl⟩))
    cases e with
    | completed => exact ⟨_, rfl, hw.left.append (.cons around hus)⟩
    | ended =>
      refine ⟨_, rfl, ?_⟩
      rw [List.append_assoc]
      exact hw.left.append (.cons around hus)

/-- A walk from the head of a loop goes around its body until it stays in the body; the induction is on the number of
links that are left. -/
theorem walk_loop (hq : Draws q (m + 1) (id = ·) r) (hid : id ≠ .stop ∧ ¬ id.Between (m + 1) q.count) {vs : List Id}
    {c : Id} (hw : Walk (q.items ++ wire q.exits id) id vs c) :
    (c = id → Runs.Loop id r (id :: vs) .completed) ∧
      (c = .stop → ∃ ws, vs = ws ++ [.stop] ∧ Runs.Loop id r (id :: ws) .ended) := by
  induction hn : vs.length using Nat.strong_induction_on generalizing vs with
  | _ n ih =>
    rcases hw.split with hw | ⟨as, w, b, bs, rfl, has, hl, hbs⟩
    · constructor
      · rintro rfl
        rcases hq.walk_end hw with ⟨rfl, -⟩ | h | h
        · exact .leave
        · exact absurd h hid.1
        · exact absurd h hid.2
      · rintro rfl
        rcases List.eq_nil_or_concat vs with rfl | ⟨ws, d, rfl⟩
        · cases hw
          exact absurd rfl hid.1
        · rw [List.concat_eq_append] at hw
          obtain rfl := hw.last
          exact ⟨ws, List.concat_eq_append .., .last (hq.ended rfl hw)⟩
    · obtain ⟨hgate, rfl⟩ := link_wire.1 hl
      have hr := hq.completed rfl hgate has
      obtain ⟨hcomplete, hended⟩ := ih bs.length (by simp at hn; omega) hbs rfl
      refine ⟨fun hc => .again hr (hcomplete hc), fun hc => ?_⟩
      obtain ⟨ws, rfl, hloop⟩ := hended hc
      exact ⟨as ++ b :: ws, by simp, .again hr hloop⟩

theorem loop {mark : Mark} {exits : List Exit} (hexits : ∀ {a}, Opens exits a → a.Upto m)
    (hq : Draws q (m + 1) (.drawn mark (m + 1) = ·) r) (shape : Shape) (label leaving : String) :
    Draws ⟨entered exits (.drawn mark (m + 1)) shape label ++ (q.items ++ wire q.exits (.drawn mark (m + 1))),
      [⟨.drawn mark (m + 1), leaving⟩], q.count⟩ m (Opens exits) (.Loop (.drawn mark (m + 1)) r) := by
  have hid : (Id.drawn mark (m + 1)).Between m q.count := Id.between_new mark hq.le
  have hhead : Id.drawn mark (m + 1) ≠ .stop ∧ ¬ (Id.drawn mark (m + 1)).Between (m + 1) q.count :=
    ⟨by simp, fun h => lt_irrefl _ h.1⟩
  have around : ∀ {a b}, Link (q.items ++ wire q.exits (.drawn mark (m + 1))) a b →
      a.Between m q.count ∧ (b = .stop ∨ b.Between m q.count) := by
    intro a b hl
    rcases link_append.1 hl with hl | hl
    · exact hq.link_new hl
    · obtain ⟨ha, rfl⟩ := link_wire.1 hl
      exact ⟨hq.exit_new ha, .inr hid⟩
  have around_not_upto : ∀ {a b}, Link (q.items ++ wire q.exits (.drawn mark (m + 1))) a b → ¬ a.Upto m ∧ ¬ b.Upto m := by
    intro a b hl
    obtain ⟨ha, rfl | hb⟩ := around hl
    · exact ⟨ha.not_upto, Id.stop_not_upto m⟩
    · exact ⟨ha.not_upto, hb.not_upto⟩
  refine ⟨(Nat.le_succ m).trans hq.le, hexits, ?_, ?_, ?_, ?_, ?_, ?_, ?_⟩
  · intro a b hl
    rcases link_append.1 hl with hl | hl
    · exact .inl (link_entered.1 hl).1
    · exact .inr (around hl).1
  · intro a b hl
    rcases link_append.1 hl with hl | hl
    · obtain ⟨-, rfl⟩ := link_entered.1 hl
      exact .inr hid
    · exact (around hl).2
  · rintro a ha
    obtain rfl : _ = a := by simpa using ha
    exact .inr hid
  · intro a vs ha hr
    obtain ⟨ws, rfl, hw⟩ := hq.loop_walk hr
    exact ⟨_, by simp, .cons (link_append.2 (.inl (link_entered.2 ⟨ha, rfl⟩))) hw.right⟩
  · intro a vs ha hr
    obtain ⟨ws, rfl, hw⟩ := hq.loop_walk hr
    exact .cons (link_append.2 (.inl (link_entered.2 ⟨ha, rfl⟩))) hw.right
  · intro a vs c ha hc hw
    obtain rfl : _ = c := by simpa using hc
    obtain ⟨ws, rfl, hws⟩ := hw.of_entered hexits hid.not_upto around_not_upto (hexits ha) hid.not_upto
    exact (hq.walk_loop hhead hws).1 rfl
  · intro a vs ha hw
    obtain ⟨ws, hv, hws⟩ := hw.of_entered hexits hid.not_upto around_not_upto (hexits ha) (Id.stop_not_upto m)
    obtain ⟨us, rfl, hloop⟩ := (hq.walk_loop hhead hws).2 rfl
    obtain ⟨_, rfl, hu⟩ := cons_split hhead.1.symm hv
    rwa [List.append_cancel_right hu] at hloop

/-! ### Ends -/

theorem cut (hq : Draws q m gate r) :
    Draws ⟨q.items ++ wire q.exits .stop, [], q.count⟩ m gate r.cut where
  le := hq.le
  old := hq.old
  source := by
    intro a b hl
    rcases link_append.1 hl with hl | hl
    · exact hq.source hl
    · exact hq.exit (link_wire.1 hl).1
  target := by
    intro a b hl
    rcases link_append.1 hl with hl | hl
    · exact hq.target hl
    · exact .inl (link_wire.1 hl).2
  exit := by simp [Opens]
  completes := by
    rintro a vs - ⟨he, -⟩
    cases he
  ends := by
    rintro a vs ha ⟨-, e, hr⟩
    cases e with
    | completed =>
      obtain ⟨c, hc, hw⟩ := hq.completes ha hr
      exact hw.left.append (.single (link_append.2 (.inr (link_wire.2 ⟨hc, rfl⟩))))
    | ended => exact (hq.ends ha hr).left
  completed _ hc := by simp [Opens] at hc
  ended := by
    intro a vs ha hw
    rcases hw.split with hw | ⟨as, w, b, bs, hv, has, hl, hbs⟩
    · exact ⟨rfl, .ended, hq.ended ha hw⟩
    · obtain ⟨hgate, rfl⟩ := link_wire.1 hl
      have hstop : bs = [] := by
        cases hbs with
        | nil => rfl
        | cons hl _ =>
          rcases link_append.1 hl with hl | hl
          · exact absurd (hq.source_upto hl) (Id.stop_not_upto _)
          · exact absurd (hq.exit_upto (link_wire.1 hl).1) (Id.stop_not_upto _)
      subst hstop
      obtain rfl := List.append_cancel_right hv
      exact ⟨rfl, .completed, hq.completed ha hgate has⟩

end Draws
end FlowSketch.ChartDrawing

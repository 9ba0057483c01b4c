import Mathlib.Data.List.Basic

/-! A ledger of everything that entered a bounded buffer, in order of arrival. An
entry without a fate is still in the buffer; an entry with one left it, and the
fate says how. Operations only append entries and give fates to live ones. -/
namespace RyuLdn.FateLedger

variable {α φ : Type}

structure Entry (α φ : Type) where
  item : α
  fate : Option φ
  deriving DecidableEq

abbrev Ledger (α φ : Type) := List (Entry α φ)

def live (l : Ledger α φ) : List α := (l.filter (·.fate.isNone)).map (·.item)

def add (l : Ledger α φ) (x : α) : Ledger α φ := l ++ [⟨x, none⟩]

/-- Every live entry gets the fate `f` has for it, if it has one. -/
def settle (f : α → Option φ) (l : Ledger α φ) : Ledger α φ :=
  l.map fun e => if e.fate.isNone then { e with fate := f e.item } else e

def settleOldest (fate : φ) : Ledger α φ → Ledger α φ
  | [] => []
  | e :: l => if e.fate.isNone then { e with fate := some fate } :: l else e :: settleOldest fate l

def addBounded (capacity : Nat) (evicted : φ) (l : Ledger α φ) (x : α) : Ledger α φ :=
  add (if capacity ≤ (live l).length then settleOldest evicted l else l) x

theorem live_cons (e : Entry α φ) (l : Ledger α φ) :
    live (e :: l) = if e.fate.isNone then e.item :: live l else live l := by
  unfold live
  rw [List.filter_cons]
  split <;> rfl

theorem live_add (l : Ledger α φ) (x : α) : live (add l x) = live l ++ [x] := by
  simp [live, add]

theorem live_settle (f : α → Option φ) (l : Ledger α φ) :
    live (settle f l) = (live l).filter fun x => (f x).isNone := by
  induction l with
  | nil => rfl
  | cons e l ih =>
      have tail : settle f (e :: l) =
          (if e.fate.isNone then { e with fate := f e.item } else e) :: settle f l := rfl
      rw [tail, live_cons, live_cons, ih]
      cases open_ : e.fate.isNone with
      | true =>
          simp only [if_true, List.filter_cons]
      | false => simp only [Bool.false_eq_true, if_false, open_]

theorem live_settleOldest (fate : φ) (l : Ledger α φ) :
    live (settleOldest fate l) = (live l).tail := by
  induction l with
  | nil => rfl
  | cons e l ih =>
      rw [settleOldest, live_cons e l]
      cases open_ : e.fate.isNone with
      | true =>
          simp only [if_true, live_cons]
          rfl
      | false => simp only [Bool.false_eq_true, if_false, live_cons, open_, ih]

theorem live_addBounded (capacity : Nat) (evicted : φ) (l : Ledger α φ) (x : α) :
    live (addBounded capacity evicted l x) =
      (if capacity ≤ (live l).length then (live l).tail else live l) ++ [x] := by
  rw [addBounded, live_add]
  split
  · rw [live_settleOldest]
  · rfl

def items (l : Ledger α φ) : List α := l.map (·.item)

theorem items_settle (f : α → Option φ) (l : Ledger α φ) : items (settle f l) = items l := by
  rw [items, settle, List.map_map]
  apply List.map_congr_left
  intro e _
  simp only [Function.comp_apply]
  split <;> rfl

theorem items_settleOldest (fate : φ) (l : Ledger α φ) :
    items (settleOldest fate l) = items l := by
  induction l with
  | nil => rfl
  | cons e l ih =>
      rw [settleOldest]
      split
      · rfl
      · exact congrArg (e.item :: ·) ih

theorem items_add (l : Ledger α φ) (x : α) : items (add l x) = items l ++ [x] := by
  simp [items, add]

theorem items_addBounded (capacity : Nat) (evicted : φ) (l : Ledger α φ) (x : α) :
    items (addBounded capacity evicted l x) = items l ++ [x] := by
  rw [addBounded, items_add]
  split
  · rw [items_settleOldest]
  · rfl

def fateAt (l : Ledger α φ) (i : Nat) : Option φ := l[i]?.bind Entry.fate

/-- The later ledger has the entries of the earlier one in their places, with the
fates they had. -/
structure Extends (l later : Ledger α φ) : Prop where
  items : items l <+: items later
  fates : ∀ i fate, fateAt l i = some fate → fateAt later i = some fate

theorem Extends.refl (l : Ledger α φ) : Extends l l := ⟨List.prefix_rfl, fun _ _ h => h⟩

theorem Extends.trans {l m n : Ledger α φ} (first : Extends l m) (second : Extends m n) :
    Extends l n :=
  ⟨first.items.trans second.items, fun i fate h => second.fates i fate (first.fates i fate h)⟩

theorem extends_add (l : Ledger α φ) (x : α) : Extends l (add l x) := by
  constructor
  · rw [items_add]
    exact List.prefix_append _ _
  · intro i fate settled
    unfold fateAt at settled ⊢
    have inside : i < l.length := by
      by_contra outside
      rw [List.getElem?_eq_none (by omega)] at settled
      cases settled
    rw [add, List.getElem?_append_left inside]
    exact settled

theorem extends_settle (f : α → Option φ) (l : Ledger α φ) : Extends l (settle f l) := by
  constructor
  · simp only [items_settle, List.prefix_rfl]
  · intro i fate settled
    unfold fateAt at settled ⊢
    rw [settle, List.getElem?_map]
    cases found : l[i]? with
    | none => simp [found] at settled
    | some e =>
        rw [found, Option.bind_some] at settled
        simp [settled]

theorem extends_settleOldest (fate : φ) (l : Ledger α φ) : Extends l (settleOldest fate l) := by
  constructor
  · simp only [items_settleOldest, List.prefix_rfl]
  · induction l with
    | nil =>
        intro i given settled
        exact settled
    | cons e l ih =>
        intro i given settled
        rw [settleOldest]
        split
        · rename_i open_
          cases i with
          | zero =>
              rw [Option.isNone_iff_eq_none] at open_
              simp [fateAt, open_] at settled
          | succ i => exact settled
        · cases i with
          | zero => exact settled
          | succ i => exact ih i given settled

theorem extends_addBounded (capacity : Nat) (evicted : φ) (l : Ledger α φ) (x : α) :
    Extends l (addBounded capacity evicted l x) := by
  rw [addBounded]
  split
  · exact (extends_settleOldest evicted l).trans (extends_add _ x)
  · exact extends_add l x

def Ordered (l : Ledger α φ) : Prop :=
  ∃ settled waiting, l = settled ++ waiting ∧ (∀ e ∈ settled, e.fate.isNone = false) ∧
    ∀ e ∈ waiting, e.fate = none

theorem ordered_nil : Ordered ([] : Ledger α φ) := ⟨[], [], rfl, nofun, nofun⟩

theorem Ordered.add {l : Ledger α φ} (ordered : Ordered l) (x : α) : Ordered (add l x) := by
  obtain ⟨settled, waiting, rfl, left, still⟩ := ordered
  refine ⟨settled, waiting ++ [⟨x, none⟩], List.append_assoc _ _ _, left, ?_⟩
  intro e member
  rcases List.mem_append.mp member with old | new
  · exact still e old
  · rw [List.mem_singleton.mp new]

theorem settleOldest_append {settled : Ledger α φ} (left : ∀ e ∈ settled, e.fate.isNone = false)
    (fate : φ) (waiting : Ledger α φ) :
    settleOldest fate (settled ++ waiting) = settled ++ settleOldest fate waiting := by
  induction settled with
  | nil => rfl
  | cons e settled ih =>
      rw [List.cons_append, settleOldest, left e List.mem_cons_self,
        ih fun e' member => left e' (List.mem_cons_of_mem e member)]
      rfl

theorem live_append_of_settled {settled : Ledger α φ}
    (left : ∀ e ∈ settled, e.fate.isNone = false) (waiting : Ledger α φ) :
    live (settled ++ waiting) = live waiting := by
  induction settled with
  | nil => rfl
  | cons e settled ih =>
      rw [List.cons_append, live_cons, left e List.mem_cons_self,
        ih fun e' member => left e' (List.mem_cons_of_mem e member)]
      rfl

theorem Ordered.settleOldest {l : Ledger α φ} (ordered : Ordered l) (fate : φ) :
    Ordered (settleOldest fate l) := by
  obtain ⟨settled, waiting, rfl, left, still⟩ := ordered
  rw [settleOldest_append left]
  cases waiting with
  | nil => exact ⟨settled, [], rfl, left, nofun⟩
  | cons e waiting =>
      have here := still e List.mem_cons_self
      refine ⟨settled ++ [{ e with fate := some fate }], waiting, ?_, ?_, ?_⟩
      · rw [FateLedger.settleOldest, here]
        simp
      · intro e' member
        rcases List.mem_append.mp member with old | new
        · exact left e' old
        · rw [List.mem_singleton.mp new]
          rfl
      · exact fun e' member => still e' (List.mem_cons_of_mem e member)

theorem Ordered.addBounded {l : Ledger α φ} (ordered : Ordered l) (capacity : Nat) (evicted : φ)
    (x : α) : Ordered (addBounded capacity evicted l x) := by
  unfold FateLedger.addBounded
  split
  · exact (ordered.settleOldest evicted).add x
  · exact ordered.add x

section Outcomes

variable {β : Type}

def outcomes (f : α → φ → Option β) (l : Ledger α φ) : List β :=
  l.filterMap fun e => e.fate.bind (f e.item)

theorem outcomes_append (f : α → φ → Option β) (l m : Ledger α φ) :
    outcomes f (l ++ m) = outcomes f l ++ outcomes f m := List.filterMap_append

theorem outcomes_waiting (f : α → φ → Option β) {waiting : Ledger α φ}
    (still : ∀ e ∈ waiting, e.fate = none) : outcomes f waiting = [] := by
  rw [outcomes, List.filterMap_eq_nil_iff]
  intro e member
  rw [still e member, Option.bind_none]

theorem outcomes_add (f : α → φ → Option β) (l : Ledger α φ) (x : α) :
    outcomes f (add l x) = outcomes f l := by
  have new : outcomes f [(⟨x, none⟩ : Entry α φ)] = [] := rfl
  rw [add, outcomes_append, new, List.append_nil]

theorem outcomes_settleOldest (f : α → φ → Option β) {l : Ledger α φ} (ordered : Ordered l)
    {x : α} {rest : List α} (oldest : live l = x :: rest) (fate : φ) :
    outcomes f (settleOldest fate l) = outcomes f l ++ (f x fate).toList := by
  obtain ⟨settled, waiting, rfl, left, still⟩ := ordered
  rw [live_append_of_settled left] at oldest
  rw [settleOldest_append left, outcomes_append, outcomes_append, List.append_assoc,
    outcomes_waiting f still, List.nil_append]
  cases waiting with
  | nil => cases oldest
  | cons e waiting =>
      have here := still e List.mem_cons_self
      rw [live_cons, here] at oldest
      obtain ⟨rfl, -⟩ := List.cons.inj oldest
      have later : outcomes f waiting = [] :=
        outcomes_waiting f fun e' member => still e' (List.mem_cons_of_mem e member)
      rw [settleOldest, here, Option.isNone_none, if_pos rfl]
      have first : ({ e with fate := some fate } :: waiting : Ledger α φ) =
          [{ e with fate := some fate }] ++ waiting := rfl
      rw [first, outcomes_append, later, List.append_nil]
      cases outcome : f e.item fate with
      | none => simp [outcomes, outcome]
      | some y => simp [outcomes, outcome]

theorem outcomes_addBounded (f : α → φ → Option β) {l : Ledger α φ} (ordered : Ordered l)
    {evicted : φ} (lost : ∀ x, f x evicted = none) (capacity : Nat) (x : α) :
    outcomes f (addBounded capacity evicted l x) = outcomes f l := by
  unfold addBounded
  rw [outcomes_add]
  split
  · cases oldest : live l with
    | nil =>
        obtain ⟨settled, waiting, rfl, left, still⟩ := ordered
        rw [live_append_of_settled left] at oldest
        cases waiting with
        | nil => rw [settleOldest_append left]; rfl
        | cons e waiting =>
            rw [live_cons, still e List.mem_cons_self] at oldest
            cases oldest
    | cons y rest =>
        rw [outcomes_settleOldest f ordered oldest, lost, Option.toList_none, List.append_nil]
  · rfl

end Outcomes

end RyuLdn.FateLedger

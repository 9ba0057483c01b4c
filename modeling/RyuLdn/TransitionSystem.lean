import Mathlib.Data.List.Basic

/-! Runs of a partial step function. A step that answers `none` is one the system
cannot take. `guarded` restricts a system to the steps that meet a condition on
the state before them; both kinds of run share the one invariant rule. -/
namespace RyuLdn.TransitionSystem

variable {σ α : Type*}

def run (step : σ → α → Option σ) : σ → List α → Option σ
  | s, [] => some s
  | s, a :: actions => (step s a).bind (fun t => run step t actions)

def guarded (ok : σ → α → Bool) (step : σ → α → Option σ) : σ → α → Option σ :=
  fun s a => if ok s a then step s a else none

variable {step : σ → α → Option σ}

theorem run_cons_eq_some {s t : σ} {a : α} {actions : List α} :
    run step s (a :: actions) = some t ↔ ∃ m, step s a = some m ∧ run step m actions = some t := by
  rw [run, Option.bind_eq_some_iff]

theorem guarded_eq_some {ok : σ → α → Bool} {s t : σ} {a : α} :
    guarded ok step s a = some t ↔ ok s a = true ∧ step s a = some t := by
  rw [guarded]
  split <;> simp_all

theorem run_invariant (Inv : σ → Prop) (keep : ∀ {s a t}, step s a = some t → Inv s → Inv t)
    {s t : σ} {actions : List α} (steps : run step s actions = some t) (start : Inv s) : Inv t := by
  induction actions generalizing s with
  | nil =>
      cases steps
      exact start
  | cons a actions ih =>
      obtain ⟨m, one, rest⟩ := run_cons_eq_some.mp steps
      exact ih rest (keep one start)

theorem run_append_eq_some {s t : σ} {front back : List α} :
    run step s (front ++ back) = some t ↔
      ∃ m, run step s front = some m ∧ run step m back = some t := by
  induction front generalizing s with
  | nil => simp [run]
  | cons a front ih =>
      rw [List.cons_append, run_cons_eq_some]
      constructor
      · rintro ⟨m, one, rest⟩
        obtain ⟨n, middle, last⟩ := ih.mp rest
        exact ⟨n, run_cons_eq_some.mpr ⟨m, one, middle⟩, last⟩
      · rintro ⟨n, first, last⟩
        obtain ⟨m, one, middle⟩ := run_cons_eq_some.mp first
        exact ⟨m, one, ih.mpr ⟨n, middle, last⟩⟩

theorem run_of_guarded {ok : σ → α → Bool} {s t : σ} {actions : List α}
    (steps : run (guarded ok step) s actions = some t) : run step s actions = some t := by
  induction actions generalizing s with
  | nil => exact steps
  | cons a actions ih =>
      obtain ⟨m, one, rest⟩ := run_cons_eq_some.mp steps
      exact run_cons_eq_some.mpr ⟨m, (guarded_eq_some.mp one).2, ih rest⟩

theorem run_until {P Q : σ → Prop} (keep : ∀ {s a t}, step s a = some t → P s → P t ∨ Q t)
    {s t : σ} {actions : List α} (steps : run step s actions = some t) (start : P s) :
    P t ∨ ∃ front back m, actions = front ++ back ∧ run step s front = some m ∧ Q m := by
  induction actions generalizing s with
  | nil =>
      cases steps
      exact Or.inl start
  | cons a actions ih =>
      obtain ⟨m, one, rest⟩ := run_cons_eq_some.mp steps
      rcases keep one start with still | reached
      · rcases ih rest still with last | ⟨front, back, n, same, first, reached⟩
        · exact Or.inl last
        · refine Or.inr ⟨a :: front, back, n, by rw [same, List.cons_append], ?_, reached⟩
          exact run_cons_eq_some.mpr ⟨m, one, first⟩
      · exact Or.inr ⟨[a], actions, m, rfl, run_cons_eq_some.mpr ⟨m, one, rfl⟩, reached⟩

theorem run_guarded_iff {Inv Good : σ → Prop} {ok : σ → α → Bool}
    (keep : ∀ {s a t}, Inv s → Good s → step s a = some t → Good t → Inv t)
    (exact : ∀ {s a t}, Inv s → Good s → step s a = some t → (Good t ↔ ok s a = true)) {s t : σ}
    (inv : Inv s) (start : Good s) {actions : List α} (steps : run step s actions = some t) :
    (∀ front back m, actions = front ++ back → run step s front = some m → Good m) ↔
      run (guarded ok step) s actions = some t := by
  induction actions generalizing s with
  | nil =>
      refine iff_of_true ?_ steps
      intro front back m same first
      rw [(List.append_eq_nil_iff.mp same.symm).1] at first
      cases first
      exact start
  | cons a actions ih =>
      obtain ⟨m, one, rest⟩ := run_cons_eq_some.mp steps
      rw [run_cons_eq_some]
      constructor
      · intro all
        have good := all [a] actions m rfl (run_cons_eq_some.mpr ⟨m, one, rfl⟩)
        refine ⟨m, guarded_eq_some.mpr ⟨(exact inv start one).mp good, one⟩, ?_⟩
        refine (ih (keep inv start one good) good rest).mp ?_
        intro front back n same first
        exact all (a :: front) back n (by rw [same, List.cons_append])
          (run_cons_eq_some.mpr ⟨m, one, first⟩)
      · rintro ⟨m', one', rest'⟩ front back n same first
        obtain ⟨met, taken⟩ := guarded_eq_some.mp one'
        rw [one, Option.some.injEq] at taken
        subst taken
        have good := (exact inv start one).mpr met
        cases front with
        | nil =>
            cases first
            exact start
        | cons a' front =>
            obtain ⟨rfl, tail⟩ := List.cons.inj same
            obtain ⟨m', one', later⟩ := run_cons_eq_some.mp first
            rw [one, Option.some.injEq] at one'
            subst one'
            exact (ih (keep inv start one good) good rest).mpr rest' front back n tail later

section Total

variable (move : σ → α → σ)

def visited : σ → List α → List σ
  | s, [] => [s]
  | s, a :: actions => s :: visited (move s a) actions

def StepsMeet (ok : σ → α → Prop) : σ → List α → Prop
  | _, [] => True
  | s, a :: actions => ok s a ∧ StepsMeet ok (move s a) actions

instance (ok : σ → α → Prop) [∀ s a, Decidable (ok s a)] :
    ∀ s actions, Decidable (StepsMeet move ok s actions)
  | _, [] => inferInstanceAs (Decidable True)
  | s, a :: actions =>
      have := instDecidableStepsMeet ok (move s a) actions
      inferInstanceAs (Decidable (ok s a ∧ StepsMeet move ok (move s a) actions))

variable {move}

theorem visited_iff_stepsMeet_of {Inv Good : σ → Prop} {dom ok : σ → α → Prop}
    (keep : ∀ s a, Inv s → dom s a → Inv (move s a))
    (exact : ∀ s a, Inv s → dom s a → Good s → (Good (move s a) ↔ ok s a)) {s : σ} (inv : Inv s)
    (start : Good s) {actions : List α} (domain : StepsMeet move dom s actions) :
    (∀ t ∈ visited move s actions, Good t) ↔ StepsMeet move ok s actions := by
  induction actions generalizing s with
  | nil => simp [visited, StepsMeet, start]
  | cons a actions ih =>
      simp only [visited, StepsMeet, List.forall_mem_cons, start, true_and]
      by_cases met : ok s a
      · rw [ih (keep s a inv domain.1) ((exact s a inv domain.1 start).mpr met) domain.2]
        simp [met]
      · have left : ¬ Good (move s a) :=
          fun good => met ((exact s a inv domain.1 start).mp good)
        have seen : move s a ∈ visited move (move s a) actions := by
          cases actions <;> simp [visited]
        constructor
        · intro all
          exact absurd (all _ seen) left
        · intro steps
          exact absurd steps.1 met

theorem stepsMeet_true (s : σ) (actions : List α) : StepsMeet move (fun _ _ => True) s actions := by
  induction actions generalizing s with
  | nil => trivial
  | cons a actions ih => exact ⟨trivial, ih (move s a)⟩

theorem visited_iff_stepsMeet_inv {Inv Good : σ → Prop} {ok : σ → α → Prop}
    (keep : ∀ s a, Inv s → Inv (move s a))
    (exact : ∀ s a, Inv s → Good s → (Good (move s a) ↔ ok s a)) {s : σ} (inv : Inv s)
    (start : Good s) (actions : List α) :
    (∀ t ∈ visited move s actions, Good t) ↔ StepsMeet move ok s actions :=
  visited_iff_stepsMeet_of (fun s a inv _ => keep s a inv) (fun s a inv _ => exact s a inv) inv
    start (stepsMeet_true s actions)

theorem visited_iff_stepsMeet {Good : σ → Prop} {ok : σ → α → Prop}
    (exact : ∀ s a, Good s → (Good (move s a) ↔ ok s a)) {s : σ} (start : Good s)
    (actions : List α) :
    (∀ t ∈ visited move s actions, Good t) ↔ StepsMeet move ok s actions := by
  let everything : σ → Prop := fun _ => True
  have inv : everything s := trivial
  exact visited_iff_stepsMeet_inv (fun _ _ _ => trivial) (fun s a _ => exact s a) inv start actions

theorem visited_of_stepsMeet {Inv : σ → Prop} {ok : σ → α → Prop}
    (keep : ∀ s a, Inv s → ok s a → Inv (move s a)) {s : σ} (start : Inv s) {actions : List α}
    (steps : StepsMeet move ok s actions) : ∀ t ∈ visited move s actions, Inv t := by
  induction actions generalizing s with
  | nil => simpa [visited] using start
  | cons a actions ih =>
      intro t member
      rcases List.mem_cons.mp member with rfl | later
      · exact start
      · exact ih (keep s a start steps.1) steps.2 t later

theorem stepsMeet_iff {Inv : σ → Prop} {ok ok' : σ → α → Prop}
    (keep : ∀ s a, Inv s → Inv (move s a)) (same : ∀ s a, Inv s → (ok s a ↔ ok' s a)) {s : σ}
    (start : Inv s) (actions : List α) : StepsMeet move ok s actions ↔ StepsMeet move ok' s actions := by
  induction actions generalizing s with
  | nil => exact Iff.rfl
  | cons a actions ih =>
      rw [StepsMeet, StepsMeet, same s a start, ih (keep s a start)]

theorem foldl_mem_visited (s : σ) (actions : List α) :
    actions.foldl move s ∈ visited move s actions := by
  induction actions generalizing s with
  | nil => simp [visited]
  | cons a actions ih => exact List.mem_cons_of_mem _ (ih (move s a))

end Total

section Since

variable {ε : Type*} {on off : ε → Prop}

/-- An event of the kind `on` happened, and none of the kind `off` after it. -/
def Since (on off : ε → Prop) (events : List ε) : Prop :=
  ∃ before e after, events = before ++ e :: after ∧ on e ∧ ∀ later ∈ after, ¬ off later

theorem not_since_nil : ¬ Since on off [] := by
  rintro ⟨before, e, after, same, _⟩
  simp at same

theorem append_singleton_split {events before after : List ε} {e x : ε}
    (same : events ++ [e] = before ++ x :: after) :
    (after = [] ∧ before = events ∧ x = e) ∨
      ∃ front, after = front ++ [e] ∧ events = before ++ x :: front := by
  rcases List.eq_nil_or_concat after with rfl | ⟨front, last, rfl⟩
  · have ends := List.append_inj' same rfl
    simp only [List.cons.injEq, and_true] at ends
    exact Or.inl ⟨rfl, ends.1.symm, ends.2.symm⟩
  · have regroup : before ++ x :: front.concat last = (before ++ x :: front) ++ [last] := by simp
    rw [regroup] at same
    have ends := List.append_inj' same rfl
    simp only [List.cons.injEq, and_true] at ends
    exact Or.inr ⟨front, by rw [List.concat_eq_append, ends.2], ends.1⟩

theorem since_append_singleton (events : List ε) (e : ε) :
    Since on off (events ++ [e]) ↔ on e ∨ Since on off events ∧ ¬ off e := by
  constructor
  · rintro ⟨before, marked, after, same, mark, quiet⟩
    rcases append_singleton_split same with ⟨-, -, rfl⟩ | ⟨front, rfl, rfl⟩
    · exact Or.inl mark
    · refine Or.inr ⟨⟨before, marked, front, rfl, mark, ?_⟩, quiet e (by simp)⟩
      exact fun later member => quiet later (List.mem_append_left _ member)
  · rintro (mark | ⟨⟨before, marked, after, same, mark, quiet⟩, silent⟩)
    · exact ⟨events, e, [], rfl, mark, by simp⟩
    · refine ⟨before, marked, after ++ [e], by simp [same], mark, ?_⟩
      intro later member
      rcases List.mem_append.mp member with inside | last
      · exact quiet later inside
      · rw [List.mem_singleton.mp last]
        exact silent

end Since

end RyuLdn.TransitionSystem

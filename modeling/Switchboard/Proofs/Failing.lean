import Mathlib.Data.List.Forall2
import Switchboard.Settings.Validity

/-!
# Computations that may fail

When a computation succeeds and with what it fails, from what its steps do. Steps that are taken one
after another fail with the error of the first that fails (`FirstFailure`), be it that each computes
something (`mapM_eq_error_iff`) or that each only checks something (`firstError_eq_error_iff`).
-/

namespace Switchboard

variable {α β ε ι : Type}

/-! ## One step -/

theorem map_eq_ok_iff {result : Except ε α} {g : α → β} {y : β} :
    result.map g = .ok y ↔ ∃ x, result = .ok x ∧ g x = y := by
  cases result <;> simp [Except.map]

theorem map_eq_error_iff {result : Except ε α} {g : α → β} {e : ε} :
    result.map g = .error e ↔ result = .error e := by
  cases result <;> simp [Except.map]

theorem exists_map_ok_iff {result : Except ε α} {g : α → β} :
    (∃ y, result.map g = .ok y) ↔ ∃ x, result = .ok x := by
  cases result <;> simp [Except.map]

theorem bind_eq_ok_iff {result : Except ε α} {next : α → Except ε β} {y : β} :
    (result >>= next) = .ok y ↔ ∃ x, result = .ok x ∧ next x = .ok y := by
  cases result <;> simp [bind, Except.bind]

theorem bind_eq_error_iff {result : Except ε α} {next : α → Except ε β} {e : ε} :
    (result >>= next) = .error e ↔
      result = .error e ∨ ∃ x, result = .ok x ∧ next x = .error e := by
  cases result <;> simp [bind, Except.bind]

theorem exists_ok_iff {result : Except ε α} :
    (∃ x, result = .ok x) ↔ ∀ e, result ≠ .error e := by
  cases result <;> simp

/-! ## The first failure -/

/-- Of steps in order the first that can fail at all fails with this error. -/
def FirstFailure (Fails : ι → ε → Prop) (steps : List ι) (e : ε) : Prop :=
  ∃ before step after, steps = before ++ step :: after ∧
    (∀ earlier ∈ before, ∀ e', ¬ Fails earlier e') ∧ Fails step e

section FirstFailure

variable {Fails : ι → ε → Prop} {step : ι} {steps : List ι} {e : ε}

theorem not_firstFailure_nil : ¬ FirstFailure Fails [] e := by
  rintro ⟨before, step, after, h, -⟩
  simp at h

theorem firstFailure_cons : FirstFailure Fails (step :: steps) e ↔
    Fails step e ∨ (∀ e', ¬ Fails step e') ∧ FirstFailure Fails steps e := by
  constructor
  · rintro ⟨before, failing, after, hsteps, hbefore, hfails⟩
    cases before with
    | nil =>
      obtain ⟨rfl, rfl⟩ := List.cons.inj hsteps
      exact .inl hfails
    | cons first before =>
      obtain ⟨rfl, rfl⟩ := List.cons.inj hsteps
      obtain ⟨hfirst, hbefore⟩ := List.forall_mem_cons.1 hbefore
      exact .inr ⟨hfirst, before, failing, after, rfl, hbefore, hfails⟩
  · rintro (hfails | ⟨hfirst, before, failing, after, rfl, hbefore, hfails⟩)
    · exact ⟨[], step, steps, rfl, List.forall_mem_nil _, hfails⟩
    · exact ⟨step :: before, failing, after, rfl, List.forall_mem_cons.2 ⟨hfirst, hbefore⟩, hfails⟩

theorem firstFailure_append {more : List ι} : FirstFailure Fails (steps ++ more) e ↔
    FirstFailure Fails steps e ∨ (∀ step ∈ steps, ∀ e', ¬ Fails step e') ∧
      FirstFailure Fails more e := by
  induction steps with
  | nil => simp [not_firstFailure_nil]
  | cons step steps ih =>
    rw [List.cons_append, firstFailure_cons, firstFailure_cons, ih, List.forall_mem_cons]
    tauto

/-- There is no failure if no step can fail. -/
theorem forall_not_firstFailure_iff :
    (∀ e, ¬ FirstFailure Fails steps e) ↔ ∀ step ∈ steps, ∀ e, ¬ Fails step e := by
  induction steps with
  | nil => exact iff_of_true (fun _ => not_firstFailure_nil) (List.forall_mem_nil _)
  | cons step steps ih =>
    rw [List.forall_mem_cons, ← ih]
    simp only [firstFailure_cons, not_or, not_and]
    constructor
    · intro h
      have hstep : ∀ e, ¬ Fails step e := fun e => (h e).1
      exact ⟨hstep, fun e => (h e).2 hstep⟩
    · intro h e
      exact ⟨h.1 e, fun _ => h.2 e⟩

end FirstFailure

/-! ## Steps that compute something -/

/-- What is in the one of two related lists has a partner in the other. -/
theorem exists_of_forall₂ {R : α → β → Prop} {xs : List α} {ys : List β} {y : β}
    (h : List.Forall₂ R xs ys) (hy : y ∈ ys) : ∃ x ∈ xs, R x y := by
  induction h with
  | nil => cases hy
  | cons hhead _ ih =>
    rcases List.mem_cons.1 hy with rfl | hy
    · exact ⟨_, List.mem_cons_self, hhead⟩
    · obtain ⟨x, hx, hxy⟩ := ih hy
      exact ⟨x, List.mem_cons_of_mem _ hx, hxy⟩

section MapM

variable {f : α → Except ε β} {xs : List α}

theorem mapM_eq_ok_iff {ys : List β} :
    xs.mapM f = .ok ys ↔ List.Forall₂ (fun x y => f x = .ok y) xs ys := by
  induction xs generalizing ys with
  | nil =>
    rw [List.mapM_nil, List.forall₂_nil_left_iff]
    exact ⟨fun h => by cases h; rfl, fun h => by rw [h]; rfl⟩
  | cons x xs ih =>
    simp only [List.mapM_cons, bind_eq_ok_iff, ih, List.forall₂_cons_left_iff]
    constructor
    · rintro ⟨y, hy, ys', hys', h⟩
      cases h
      exact ⟨y, ys', hy, hys', rfl⟩
    · rintro ⟨y, ys', hy, hys', rfl⟩
      exact ⟨y, hy, ys', hys', rfl⟩

/-- The items are looked at in order, and the first that fails has the last word. -/
theorem mapM_eq_error_iff {e : ε} :
    xs.mapM f = .error e ↔ FirstFailure (fun x e => f x = .error e) xs e := by
  induction xs with
  | nil => exact iff_of_false nofun not_firstFailure_nil
  | cons x xs ih =>
    have hlast : ∀ y ys, (pure (y :: ys) : Except ε (List β)) ≠ .error e := nofun
    simp only [List.mapM_cons, bind_eq_error_iff, firstFailure_cons, ih, hlast, and_false,
      exists_false, or_false, exists_and_right, exists_ok_iff, ne_eq]

theorem exists_mem_of_mapM_error {e : ε} (h : xs.mapM f = .error e) : ∃ x ∈ xs, f x = .error e := by
  obtain ⟨before, x, after, rfl, -, hx⟩ := mapM_eq_error_iff.1 h
  exact ⟨x, by simp, hx⟩

theorem exists_mapM_ok_iff : (∃ ys, xs.mapM f = .ok ys) ↔ ∀ x ∈ xs, ∃ y, f x = .ok y := by
  constructor
  · rintro ⟨ys, h⟩ x hx
    have hflip : List.Forall₂ (fun y x => f x = .ok y) ys xs := (mapM_eq_ok_iff.1 h).flip
    obtain ⟨y, -, hy⟩ := exists_of_forall₂ hflip hx
    exact ⟨y, hy⟩
  · intro h
    cases hxs : xs.mapM f with
    | ok ys => exact ⟨ys, rfl⟩
    | error e =>
      obtain ⟨x, hmem, hx⟩ := exists_mem_of_mapM_error hxs
      obtain ⟨y, hy⟩ := h x hmem
      rw [hx] at hy
      cases hy

end MapM

/-! ## Steps that check something -/

theorem firstError_eq_error_iff {checks : List (Option ε)} {e : ε} :
    firstError checks = .error e ↔ FirstFailure (fun check e => check = some e) checks e := by
  induction checks with
  | nil => exact iff_of_false nofun not_firstFailure_nil
  | cons check checks ih =>
    rw [firstFailure_cons]
    cases check with
    | none => simp [firstError, ih]
    | some e' => simp [firstError]

end Switchboard

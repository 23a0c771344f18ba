/-!
# Computations that may fail

How a computation in steps ends: with a value when every step has one, else with the fault of the first step
that fails.
-/

namespace SciCalc

section

variable {ε α β : Type}

@[simp] theorem ok_bind (a : α) (f : α → Except ε β) : (Except.ok a >>= f) = f a := rfl

@[simp] theorem error_bind (e : ε) (f : α → Except ε β) : (Except.error e >>= f) = .error e := rfl

@[simp] theorem pure_eq_ok (a : α) : (pure a : Except ε α) = .ok a := rfl

theorem bind_eq_ok {x : Except ε α} {f : α → Except ε β} {b : β} (h : x >>= f = .ok b) :
    ∃ a, x = .ok a ∧ f a = .ok b := by
  cases x with
  | ok a => exact ⟨a, rfl, h⟩
  | error e => contradiction

theorem bind_eq_error {x : Except ε α} {f : α → Except ε β} {e : ε} (h : x >>= f = .error e) :
    x = .error e ∨ ∃ a, x = .ok a ∧ f a = .error e := by
  cases x with
  | ok a => exact Or.inr ⟨a, rfl, h⟩
  | error e' => exact Or.inl (congrArg Except.error (Except.error.inj h))

theorem map_map {γ : Type} (x : Except ε α) (f : α → β) (g : β → γ) :
    (x.map f).map g = x.map fun a => g (f a) := by
  cases x <;> rfl

theorem map_eq_ok {x : Except ε α} {f : α → β} {b : β} (h : x.map f = .ok b) : ∃ a, x = .ok a ∧ f a = b := by
  cases x with
  | ok a => exact ⟨a, rfl, Except.ok.inj h⟩
  | error e => contradiction

theorem map_eq_error {x : Except ε α} {f : α → β} {e : ε} (h : x.map f = .error e) : x = .error e := by
  cases x with
  | ok a => contradiction
  | error e' => exact congrArg Except.error (Except.error.inj h)

/-- A run fails at the first element whose step fails. -/
theorem foldlM_eq_error {f : β → α → Except ε β} {start : β} {xs : List α} {e : ε}
    (h : xs.foldlM f start = .error e) :
    ∃ before x after state, xs = before ++ x :: after ∧ before.foldlM f start = .ok state ∧
      f state x = .error e := by
  induction xs generalizing start with
  | nil => contradiction
  | cons x xs ih =>
    rw [List.foldlM_cons] at h
    rcases bind_eq_error h with hx | ⟨next, hx, hxs⟩
    · exact ⟨[], x, xs, start, rfl, rfl, hx⟩
    · obtain ⟨before, y, after, state, rfl, hb, hy⟩ := ih hxs
      refine ⟨x :: before, y, after, state, rfl, ?_, hy⟩
      rw [List.foldlM_cons, hx, ok_bind, hb]

theorem foldlM_append_ok {f : β → α → Except ε β} {start middle : β} {xs ys : List α}
    (h : xs.foldlM f start = .ok middle) : (xs ++ ys).foldlM f start = ys.foldlM f middle := by
  rw [List.foldlM_append, h, ok_bind]

/-- All elements have results if each has one. -/
theorem mapM_eq_ok_iff {f : α → Except ε β} {xs : List α} {ys : List β} :
    xs.mapM f = .ok ys ↔ xs.map f = ys.map .ok := by
  induction xs generalizing ys with
  | nil =>
    rw [List.mapM_nil, List.map_nil, pure_eq_ok, Except.ok.injEq, @eq_comm _ [], @eq_comm _ [],
      List.map_eq_nil_iff]
  | cons x xs ih =>
    rw [List.mapM_cons, List.map_cons]
    constructor
    · intro h
      obtain ⟨y, hy, h⟩ := bind_eq_ok h
      obtain ⟨rest, hrest, h⟩ := bind_eq_ok h
      cases h
      rw [List.map_cons, hy, ih.mp hrest]
    · intro h
      obtain ⟨y, rest, rfl, hy, hrest⟩ := List.map_eq_cons_iff.mp h.symm
      rw [← hy, ok_bind, ih.mpr hrest.symm, ok_bind, pure_eq_ok]

theorem mapM_eq_error {f : α → Except ε β} {xs : List α} {e : ε} (h : xs.mapM f = .error e) :
    ∃ before x behind, xs = before ++ x :: behind ∧ (∀ y ∈ before, ∃ b, f y = .ok b) ∧ f x = .error e := by
  induction xs with
  | nil => contradiction
  | cons x xs ih =>
    rw [List.mapM_cons] at h
    rcases bind_eq_error h with hx | ⟨y, hy, h⟩
    · exact ⟨[], x, xs, rfl, by simp, hx⟩
    · rcases bind_eq_error h with hxs | ⟨rest, -, h⟩
      · obtain ⟨before, z, behind, rfl, hbefore, hz⟩ := ih hxs
        refine ⟨x :: before, z, behind, rfl, ?_, hz⟩
        intro w hw
        rcases List.mem_cons.mp hw with rfl | hw
        · exact ⟨y, hy⟩
        · exact hbefore w hw
      · contradiction

theorem exists_mapM_iff {f : α → Except ε β} {xs : List α} :
    (∃ ys, xs.mapM f = .ok ys) ↔ ∀ x ∈ xs, ∃ y, f x = .ok y := by
  constructor
  · rintro ⟨ys, hys⟩ x hx
    have hmem : f x ∈ ys.map .ok := mapM_eq_ok_iff.mp hys ▸ List.mem_map_of_mem hx
    obtain ⟨y, -, hy⟩ := List.mem_map.mp hmem
    exact ⟨y, hy.symm⟩
  · intro h
    cases hxs : xs.mapM f with
    | ok ys => exact ⟨ys, rfl⟩
    | error e =>
      obtain ⟨before, x, behind, rfl, -, hx⟩ := mapM_eq_error hxs
      obtain ⟨y, hy⟩ := h x (by simp)
      cases hx.symm.trans hy

/-- In another order the elements have the same results. -/
theorem mapM_of_perm {f : α → Except ε β} {xs xs' : List α} (h : xs'.Perm xs) {ys : List β}
    (hys : xs.mapM f = .ok ys) : ∃ ys', xs'.mapM f = .ok ys' ∧ (xs'.zip ys').Perm (xs.zip ys) := by
  simp only [mapM_eq_ok_iff] at hys ⊢
  induction h generalizing ys with
  | nil => exact ⟨ys, hys, .rfl⟩
  | cons x h ih =>
    obtain ⟨y, rest, rfl, hy, hrest⟩ := List.map_eq_cons_iff.mp hys.symm
    obtain ⟨rest', hrest', hperm⟩ := ih hrest.symm
    exact ⟨y :: rest', by rw [List.map_cons, List.map_cons, hrest', hy], hperm.cons (x, y)⟩
  | swap x x' xs =>
    obtain ⟨y, rest, rfl, hy, hrest⟩ := List.map_eq_cons_iff.mp hys.symm
    obtain ⟨y', rest, rfl, hy', hrest⟩ := List.map_eq_cons_iff.mp hrest
    refine ⟨y' :: y :: rest, ?_, .swap _ _ _⟩
    simp only [List.map_cons, hy, hy', hrest]
  | trans _ _ ih ih' =>
    obtain ⟨middle, hmiddle, hperm⟩ := ih' hys
    obtain ⟨ys', hys', hperm'⟩ := ih hmiddle
    exact ⟨ys', hys', hperm'.trans hperm⟩

end

end SciCalc

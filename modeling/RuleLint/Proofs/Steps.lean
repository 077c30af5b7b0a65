import Mathlib.Data.List.Forall2

namespace RuleLint

variable {ε α β : Type} {e : ε} {b : β}

theorem bind_of_ok {x : Except ε α} {a : α} (h : x = .ok a) (f : α → Except ε β) :
    x >>= f = f a := by
  rw [h]
  rfl

theorem bind_eq_ok_iff {x : Except ε α} {f : α → Except ε β} :
    x >>= f = .ok b ↔ ∃ a, x = .ok a ∧ f a = .ok b := by
  cases x with
  | error e' => simp [bind, Except.bind]
  | ok a => simp [bind, Except.bind]

theorem bind_return_eq_ok_iff {x : Except ε α} {f : α → β} :
    (do return f (← x)) = Except.ok b ↔ ∃ a, x = .ok a ∧ f a = b := by
  refine bind_eq_ok_iff.trans (exists_congr fun a => and_congr_right fun _ => ?_)
  simp [pure, Except.pure]

theorem bind_eq_error_iff {x : Except ε α} {f : α → Except ε β} :
    x >>= f = .error e ↔ x = .error e ∨ ∃ a, x = .ok a ∧ f a = .error e := by
  cases x with
  | error e' => simp [bind, Except.bind]
  | ok a => simp [bind, Except.bind]

theorem bind_return_eq_error_iff {x : Except ε α} {f : α → β} :
    (do return f (← x)) = Except.error e ↔ x = .error e := by
  simp [bind_eq_error_iff, pure, Except.pure]

theorem mapM_eq_ok_iff {f : α → Except ε β} {xs : List α} {ys : List β} :
    xs.mapM f = .ok ys ↔ List.Forall₂ (fun x y => f x = .ok y) xs ys := by
  induction xs generalizing ys with
  | nil =>
    rw [List.mapM_nil, List.forall₂_nil_left_iff]
    exact ⟨fun h => (Except.ok.inj h).symm, fun h => by rw [h]; rfl⟩
  | cons x xs ih =>
    rw [List.mapM_cons, List.forall₂_cons_left_iff]
    simp only [bind_eq_ok_iff, ih, exists_and_left, pure, Except.pure, Except.ok.injEq,
      @eq_comm _ ys]

/-- A list of steps fails with the first step that does. -/
theorem mapM_eq_error_iff {f : α → Except ε β} {xs : List α} :
    xs.mapM f = .error e ↔
      ∃ front x back, xs = front ++ x :: back ∧ (∀ y ∈ front, ∃ z, f y = .ok z) ∧
      f x = .error e := by
  induction xs with
  | nil => simp [pure, Except.pure]
  | cons x xs ih =>
    rw [List.mapM_cons, bind_eq_error_iff]
    simp only [bind_return_eq_error_iff, ih]
    constructor
    · rintro (hx | ⟨y, hy, front, x', back, rfl, hfront, hx'⟩)
      · exact ⟨[], x, xs, rfl, nofun, hx⟩
      · exact ⟨x :: front, x', back, rfl, List.forall_mem_cons.mpr ⟨⟨y, hy⟩, hfront⟩, hx'⟩
    · rintro ⟨front, x', back, h, hfront, hx'⟩
      cases front with
      | nil =>
        obtain ⟨rfl, -⟩ := List.cons.inj h
        exact .inl hx'
      | cons x front =>
        obtain ⟨rfl, rfl⟩ := List.cons.inj h
        obtain ⟨⟨y, hy⟩, hrest⟩ := List.forall_mem_cons.mp hfront
        exact .inr ⟨y, hy, front, x', back, rfl, hrest, hx'⟩

theorem exists_mem_of_forall₂ {r : α → β → Prop} {xs : List α} {ys : List β}
    (h : List.Forall₂ r xs ys) {x : α} (hx : x ∈ xs) : ∃ y ∈ ys, r x y := by
  induction h with
  | nil => contradiction
  | @cons x' y' _ _ hr _ ih =>
    rcases List.mem_cons.mp hx with rfl | hx
    · exact ⟨y', List.mem_cons_self, hr⟩
    · obtain ⟨y, hy, hr'⟩ := ih hx
      exact ⟨y, List.mem_cons_of_mem _ hy, hr'⟩

end RuleLint

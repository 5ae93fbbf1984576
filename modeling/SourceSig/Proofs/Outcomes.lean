import Mathlib.Data.List.Forall2

/-!
# Outcomes

What a computation in several steps comes to: it succeeds if each of its steps does, and over a list
if it does so for each element; if it fails, the error is that of a step (`OnError`). Results that
belong to the elements of a list one by one are related to them by `List.Forall₂`.
-/

namespace SourceSig

/-! ## Steps -/

/-- What is done in two steps succeeds if each step does. -/
theorem bind_eq_ok_iff {ε α β : Type} {x : Except ε α} {f : α → Except ε β} {b : β} :
    x >>= f = .ok b ↔ ∃ a, x = .ok a ∧ f a = .ok b := by
  cases x <;> simp [bind, Except.bind]

theorem pure_eq_ok_iff {ε α : Type} {a b : α} : (pure a : Except ε α) = .ok b ↔ a = b := by
  simp [pure, Except.pure]

theorem map_eq_ok_iff {ε α β : Type} {x : Except ε α} {f : α → β} {b : β} :
    f <$> x = .ok b ↔ ∃ a, x = .ok a ∧ f a = b := by
  cases x <;> simp [Functor.map, Except.map]

theorem exists_map_eq_ok_iff {ε α β : Type} {x : Except ε α} {f : α → β} :
    (∃ b, f <$> x = .ok b) ↔ ∃ a, x = .ok a := by
  cases x <;> simp [Functor.map, Except.map]

/-! ## Errors -/

section OnError

variable {ε δ α β : Type} {p : ε → Prop}

/-- The result satisfies `p` if it is an error. -/
def OnError (p : ε → Prop) (r : Except ε α) : Prop :=
  ∀ e, r = .error e → p e

theorem onError_ok (a : α) : OnError p (.ok a) :=
  nofun

theorem onError_error {e : ε} (h : p e) : OnError p (.error e : Except ε α) := by
  rintro _ ⟨⟩
  exact h

theorem OnError.mono {q : ε → Prop} {r : Except ε α} (hpq : ∀ e, p e → q e) (h : OnError p r) :
    OnError q r :=
  fun e he => hpq e (h e he)

theorem OnError.bind {r : Except ε α} {f : α → Except ε β} (h : OnError p r)
    (hf : ∀ a, OnError p (f a)) : OnError p (r >>= f) := by
  cases r with
  | ok a => exact hf a
  | error e => exact onError_error (h e rfl)

theorem OnError.mapError {q : δ → Prop} {g : ε → δ} {r : Except ε α}
    (h : OnError (fun e => q (g e)) r) : OnError q (r.mapError g) := by
  cases r with
  | ok a => exact onError_ok a
  | error e => exact onError_error (h e rfl)

theorem OnError.map {f : α → β} {r : Except ε α} (h : OnError p r) : OnError p (f <$> r) := by
  cases r with
  | ok a => exact onError_ok (f a)
  | error e => exact onError_error (h e rfl)

/-- The error of a run over a list is that of one of the elements. -/
theorem OnError.mapM {f : α → Except ε β} {xs : List α} (h : ∀ x ∈ xs, OnError p (f x)) :
    OnError p (xs.mapM f) := by
  induction xs with
  | nil => exact onError_ok []
  | cons x xs ih =>
    obtain ⟨hx, hxs⟩ := List.forall_mem_cons.mp h
    rw [List.mapM_cons]
    exact hx.bind fun _ => (ih hxs).bind fun _ => onError_ok _

end OnError

/-! ## Lists -/

section Related

variable {α β : Type} {R : α → β → Prop}

theorem exists_forall₂_iff {xs : List α} :
    (∃ ys, List.Forall₂ R xs ys) ↔ ∀ x ∈ xs, ∃ y, R x y := by
  induction xs with
  | nil => simp
  | cons x xs ih =>
    simp only [List.forall₂_cons_left_iff, List.forall_mem_cons, ← ih]
    grind

theorem exists_mem_of_forall₂ {xs : List α} {ys : List β} (h : List.Forall₂ R xs ys) :
    ∀ y ∈ ys, ∃ x ∈ xs, R x y := by
  induction h with
  | nil => simp
  | cons hxy _ ih => grind

theorem map_eq_map_of_forall₂ {γ : Type} {f : α → γ} {g : β → γ} {xs : List α} {ys : List β}
    (h : List.Forall₂ R xs ys) (hfg : ∀ x ∈ xs, ∀ y, R x y → g y = f x) : ys.map g = xs.map f := by
  induction h with
  | nil => rfl
  | cons hxy _ ih => grind

end Related

/-- A run over a list succeeds with one result for each element. -/
theorem mapM_eq_ok_iff {ε α β : Type} {f : α → Except ε β} {xs : List α} {ys : List β} :
    xs.mapM f = .ok ys ↔ List.Forall₂ (fun x y => f x = .ok y) xs ys := by
  induction xs generalizing ys with
  | nil =>
    rw [List.mapM_nil, pure_eq_ok_iff, List.forall₂_nil_left_iff]
    exact eq_comm
  | cons x xs ih =>
    simp only [List.mapM_cons, bind_eq_ok_iff, pure_eq_ok_iff, List.forall₂_cons_left_iff, ih]
    grind

/-- What tells the elements of two lists apart tells the lists apart. -/
theorem eq_of_map_eq {α β : Type} {f : α → β} : ∀ {xs ys : List α},
    (∀ x ∈ xs, ∀ y ∈ ys, f x = f y → x = y) → xs.map f = ys.map f → xs = ys
  | [], [], _, _ => rfl
  | [], _ :: _, _, h => by simp at h
  | _ :: _, [], _, h => by simp at h
  | x :: xs, y :: ys, hf, h => by
    obtain ⟨hxy, hrest⟩ := List.cons.inj h
    rw [hf x List.mem_cons_self y List.mem_cons_self hxy,
      eq_of_map_eq (fun a ha b hb => hf a (.tail x ha) b (.tail y hb)) hrest]

end SourceSig

/-
Calls one after the other, and results with notices. Of calls in a row that may fail, the first failure counts; the lemmas
here say when there is one, and what the results are when there is none.
-/
import Mathlib.Tactic
import TableGraph.Catalog.Notice

namespace TableGraph

variable {α β ε : Type}

/-! ## Calls in a row -/

theorem mapM_congr {m : Type → Type} [Monad m] [LawfulMonad m] {f g : α → m β} {xs : List α}
    (h : ∀ x ∈ xs, f x = g x) : xs.mapM f = xs.mapM g := by
  induction xs with
  | nil => rfl
  | cons x xs ih =>
    rw [List.mapM_cons, List.mapM_cons, h x List.mem_cons_self, ih fun y hy => h y (List.mem_cons_of_mem x hy)]

/-- calls that all succeed give the list of their results -/
theorem mapM_eq_pure {m : Type → Type} [Monad m] [LawfulMonad m] {f : α → m β} {g : α → β} {xs : List α}
    (h : ∀ x ∈ xs, f x = pure (g x)) : xs.mapM f = pure (xs.map g) :=
  (mapM_congr h).trans List.mapM_pure

/-- what can be read back one by one can be read back in a row -/
theorem mapM_map_eq_some {f : α → β} {g : β → Option α} (h : ∀ x, g (f x) = some x) (xs : List α) :
    (xs.map f).mapM g = some xs := by
  have hread : xs.mapM (g ∘ f) = pure (xs.map id) := mapM_eq_pure fun x _ => h x
  rw [List.mapM_map, hread, List.map_id]
  rfl

/-- the results of calls do not depend on the reasons for which they fail -/
theorem toOption_mapM (f : α → Except ε β) (xs : List α) : (xs.mapM f).toOption = xs.mapM fun x => (f x).toOption := by
  induction xs with
  | nil => rfl
  | cons x xs ih =>
    rw [List.mapM_cons, List.mapM_cons, ← ih]
    cases f x with
    | error cause => rfl
    | ok y => cases xs.mapM f <;> rfl

/-- one failure is enough -/
theorem isNone_mapM (f : α → Option β) (xs : List α) : (xs.mapM f).isNone = xs.any fun x => (f x).isNone := by
  induction xs with
  | nil => rfl
  | cons x xs ih =>
    rw [List.mapM_cons, List.any_cons, ← ih]
    cases f x with
    | none => rfl
    | some y => cases xs.mapM f <;> rfl

/-- calls in a row succeed with some results exactly if each of them does, with the result in its place -/
theorem mapM_eq_ok_iff {f : α → Except ε β} {xs : List α} {ys : List β} :
    xs.mapM f = .ok ys ↔ List.Forall₂ (fun x y => f x = .ok y) xs ys := by
  induction xs generalizing ys with
  | nil => cases ys <;> simp [pure, Except.pure]
  | cons x xs ih =>
    rw [List.mapM_cons]
    cases hx : f x with
    | error cause => cases ys <;> simp [bind, Except.bind, hx]
    | ok y =>
      cases hxs : xs.mapM f with
      | error cause => cases ys <;> simp [bind, Except.bind, hx, hxs, ← ih]
      | ok rest => cases ys <;> simp [bind, Except.bind, pure, Except.pure, hx, hxs, ← ih]

/-- calls in a row fail exactly if one of them does after calls that all succeed, and for its reason -/
theorem mapM_eq_error_iff {f : α → Except ε β} {xs : List α} {cause : ε} :
    xs.mapM f = .error cause ↔
      ∃ before x after, xs = before ++ x :: after ∧ (∀ y ∈ before, ∃ b, f y = .ok b) ∧ f x = .error cause := by
  induction xs with
  | nil => simp [pure, Except.pure]
  | cons x xs ih =>
    rw [List.mapM_cons]
    cases hx : f x with
    | error reason =>
      constructor
      · intro h
        obtain rfl : reason = cause := Except.error.inj h
        exact ⟨[], x, xs, rfl, by simp, hx⟩
      · rintro ⟨before, y, after, heq, hbefore, hy⟩
        rcases before with - | ⟨first, before⟩
        · obtain ⟨rfl, -⟩ := List.cons.inj heq
          cases hx.symm.trans hy
          rfl
        · obtain ⟨rfl, -⟩ := List.cons.inj heq
          obtain ⟨b, hb⟩ := hbefore x List.mem_cons_self
          exact nomatch hx.symm.trans hb
    | ok b =>
      have hrest : (do let bs ← xs.mapM f; pure (b :: bs)) = Except.error cause ↔ xs.mapM f = .error cause := by
        cases xs.mapM f <;> simp [bind, Except.bind, pure, Except.pure]
      refine hrest.trans (ih.trans ?_)
      constructor
      · rintro ⟨before, y, after, rfl, hbefore, hy⟩
        exact ⟨x :: before, y, after, rfl, List.forall_mem_cons.mpr ⟨⟨b, hx⟩, hbefore⟩, hy⟩
      · rintro ⟨before, y, after, heq, hbefore, hy⟩
        rcases before with - | ⟨first, before⟩
        · obtain ⟨rfl, -⟩ := List.cons.inj heq
          exact nomatch hx.symm.trans hy
        · obtain ⟨-, rfl⟩ := List.cons.inj heq
          exact ⟨before, y, after, rfl, fun z hz => hbefore z (List.mem_cons_of_mem first hz), hy⟩

/-- what is done to the result of every call is done to the results of all -/
theorem mapM_map_eq {γ : Type} (f : α → Except ε β) (g : β → γ) (xs : List α) :
    (xs.mapM fun x => (f x).map g) = (xs.mapM f).map (List.map g) := by
  induction xs with
  | nil => rfl
  | cons x xs ih =>
    rw [List.mapM_cons, List.mapM_cons, ih]
    cases f x with
    | error cause => rfl
    | ok y => cases xs.mapM f <;> rfl

/-- two calls in a row succeed exactly if the second one does with the result of the first -/
theorem bind_eq_ok_iff {x : Except ε α} {f : α → Except ε β} {y : β} :
    (x >>= f) = .ok y ↔ ∃ a, x = .ok a ∧ f a = .ok y := by
  cases x <;> simp [bind, Except.bind]

theorem mapError_eq_ok_iff {δ : Type} {f : ε → δ} {x : Except ε α} {y : α} : x.mapError f = .ok y ↔ x = .ok y := by
  cases x <;> simp [Except.mapError]

theorem map_eq_ok_iff {f : α → β} {x : Except ε α} {y : β} : x.map f = .ok y ↔ ∃ a, x = .ok a ∧ f a = y := by
  cases x <;> simp [Except.map]

/-! ## Results with notices -/

namespace Noted

@[simp] theorem value_pure (a : α) : (pure a : Noted α).value = a := rfl

@[simp] theorem value_bind (x : Noted α) (f : α → Noted β) : (x >>= f).value = (f x.value).value := rfl

@[simp] theorem value_tell (notices : List Notice) : (tell notices).value = () := rfl

@[simp] theorem notices_pure (a : α) : (pure a : Noted α).notices = [] := rfl

@[simp] theorem notices_bind (x : Noted α) (f : α → Noted β) :
    (x >>= f).notices = x.notices ++ (f x.value).notices := rfl

@[simp] theorem notices_tell (notices : List Notice) : (tell notices).notices = notices := rfl

end Noted

end TableGraph

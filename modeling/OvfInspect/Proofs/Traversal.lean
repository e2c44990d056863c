import Mathlib.Data.List.Forall2
import OvfInspect.Narrated

/-!
# Results of computations in sequence

A sequence of computations succeeds with the values of its parts, or fails with the fault of the
first part that fails. The events that are told on the way have no influence on results.
-/

namespace OvfInspect

variable {ε ε' α β : Type}

/-! ### Results that are values or faults -/

theorem ok_of_bind {x : Except ε α} {f : α → Except ε β} {b : β} (h : x.bind f = .ok b) :
    ∃ a, x = .ok a ∧ f a = .ok b := by
  cases x with
  | ok a => exact ⟨a, rfl, h⟩
  | error e => cases h

theorem bind_ok_iff {x : Except ε α} {f : α → Except ε β} {b : β} :
    x.bind f = .ok b ↔ ∃ a, x = .ok a ∧ f a = .ok b := by
  refine ⟨ok_of_bind, ?_⟩
  rintro ⟨a, rfl, h⟩
  exact h

theorem bind_error_iff {x : Except ε α} {f : α → Except ε β} {e : ε} :
    x.bind f = .error e ↔ x = .error e ∨ ∃ a, x = .ok a ∧ f a = .error e := by
  cases x <;> simp [Except.bind]

theorem toOption_eq_some_iff {x : Except ε α} {a : α} : x.toOption = some a ↔ x = .ok a := by
  cases x <;> simp [Except.toOption]

theorem map_ok_iff {x : Except ε α} {f : α → β} {b : β} : x.map f = .ok b ↔ ∃ a, x = .ok a ∧ f a = b := by
  cases x <;> simp [Except.map]

theorem map_error_iff {x : Except ε α} {f : α → β} {e : ε} : x.map f = .error e ↔ x = .error e := by
  cases x <;> simp [Except.map]

theorem mapError_error_iff {x : Except ε α} {f : ε → ε'} {e : ε'} :
    x.mapError f = .error e ↔ ∃ e', x = .error e' ∧ f e' = e := by
  cases x <;> simp [Except.mapError]

theorem mapError_ok_iff {x : Except ε α} {f : ε → ε'} {a : α} :
    x.mapError f = .ok a ↔ x = .ok a := by
  cases x <;> simp [Except.mapError]

theorem mapM_ok_iff {f : α → Except ε β} {xs : List α} {ys : List β} :
    xs.mapM f = .ok ys ↔ List.Forall₂ (fun x y => f x = .ok y) xs ys := by
  induction xs generalizing ys with
  | nil => cases ys <;> simp [pure, Except.pure]
  | cons x xs ih =>
    rw [List.mapM_cons]
    constructor
    · intro h
      obtain ⟨y, hy, h⟩ := ok_of_bind h
      obtain ⟨rest, hrest, h⟩ := ok_of_bind h
      cases h
      exact .cons hy (ih.1 hrest)
    · rintro (_ | ⟨hy, hrest⟩)
      simp only [bind, Except.bind, hy, ih.2 hrest]
      rfl

theorem forall₂_self {R : α → α → Prop} (refl : ∀ a, R a a) (as : List α) : List.Forall₂ R as as :=
  List.forall₂_same.2 fun a _ => refl a

theorem map_eq_map_of_forall₂ {γ : Type} {R : α → β → Prop} {f : α → γ} {g : β → γ} {xs : List α}
    {ys : List β} (related : List.Forall₂ R xs ys) (same : ∀ {x y}, R x y → f x = g y) :
    xs.map f = ys.map g := by
  rw [← List.forall₂_eq_eq_eq, List.forall₂_map_left_iff, List.forall₂_map_right_iff]
  exact related.imp fun _ _ => same

theorem exists_forall₂_iff {R : α → β → Prop} {xs : List α} :
    (∃ ys, List.Forall₂ R xs ys) ↔ ∀ x ∈ xs, ∃ y, R x y := by
  induction xs with
  | nil => simp
  | cons x xs ih =>
    simp only [List.forall_mem_cons, ← ih, List.forall₂_cons_left_iff]
    constructor
    · rintro ⟨_, y, ys, hy, hys, -⟩
      exact ⟨⟨y, hy⟩, ys, hys⟩
    · rintro ⟨⟨y, hy⟩, ys, hys⟩
      exact ⟨y :: ys, y, ys, hy, hys, rfl⟩

theorem exists_of_forall₂ {R : α → β → Prop} {xs : List α} {ys : List β} (related : List.Forall₂ R xs ys)
    {y : β} (member : y ∈ ys) : ∃ x ∈ xs, R x y := by
  induction related with
  | nil => cases member
  | cons first _ ih =>
    rcases List.mem_cons.1 member with rfl | member
    · exact ⟨_, List.mem_cons_self, first⟩
    · obtain ⟨x, inside, related⟩ := ih member
      exact ⟨x, List.mem_cons_of_mem _ inside, related⟩

theorem mapM_error_iff {f : α → Except ε β} {xs : List α} {e : ε} :
    xs.mapM f = .error e ↔
      ∃ before x after, xs = before ++ x :: after ∧ (∀ y ∈ before, ∃ b, f y = .ok b) ∧
        f x = .error e := by
  induction xs with
  | nil => simp [pure, Except.pure]
  | cons x xs ih =>
    rw [List.mapM_cons]
    constructor
    · intro h
      cases hx : f x with
      | error e' =>
        rw [hx] at h
        cases h
        exact ⟨[], x, xs, rfl, by simp, hx⟩
      | ok b =>
        have rest : xs.mapM f = .error e := by
          rw [hx] at h
          cases hxs : xs.mapM f with
          | error e' => rw [hxs] at h; cases h; rfl
          | ok ys => rw [hxs] at h; cases h
        obtain ⟨before, y, after, rfl, hbefore, hy⟩ := ih.1 rest
        exact ⟨x :: before, y, after, rfl, List.forall_mem_cons.2 ⟨⟨b, hx⟩, hbefore⟩, hy⟩
    · rintro ⟨before, y, after, hxs, hbefore, hy⟩
      cases before with
      | nil =>
        obtain ⟨rfl, rfl⟩ := List.cons.inj hxs
        rw [hy]
        rfl
      | cons z before =>
        obtain ⟨rfl, rest⟩ := List.cons.inj hxs
        obtain ⟨⟨b, hb⟩, hbefore⟩ := List.forall_mem_cons.1 hbefore
        rw [hb, ih.2 ⟨before, y, after, rest, hbefore, hy⟩]
        rfl

/-- Of several parts all succeed, or there is a first that does not. -/
theorem first_failure (f : α → Except ε β) (xs : List α) :
    (∀ x ∈ xs, ∃ b, f x = .ok b) ∨ ∃ before x after e, xs = before ++ x :: after ∧
      (∀ y ∈ before, ∃ b, f y = .ok b) ∧ f x = .error e := by
  cases result : xs.mapM f with
  | ok ys => exact .inl (exists_forall₂_iff.1 ⟨ys, mapM_ok_iff.1 result⟩)
  | error e =>
    obtain ⟨before, x, after, shape⟩ := mapM_error_iff.1 result
    exact .inr ⟨before, x, after, e, shape⟩

theorem mapM_congr {f g : α → Except ε β} {xs : List α} (h : ∀ x ∈ xs, f x = g x) :
    xs.mapM f = xs.mapM g := by
  induction xs with
  | nil => rfl
  | cons x xs ih =>
    obtain ⟨head, tail⟩ := List.forall_mem_cons.1 h
    rw [List.mapM_cons, List.mapM_cons, head, ih tail]

/-! ### Results that agree -/

/-- Both results are values that are related, or both are faults that are. -/
inductive Agree (faults : ε → ε' → Prop) (values : α → β → Prop) :
    Except ε α → Except ε' β → Prop
  | ok {a : α} {b : β} : values a b → Agree faults values (.ok a) (.ok b)
  | error {e : ε} {e' : ε'} : faults e e' → Agree faults values (.error e) (.error e')

namespace Agree

variable {α' β' : Type} {faults : ε → ε' → Prop} {values : α → α' → Prop} {values' : β → β' → Prop}

theorem bind {x : Except ε α} {y : Except ε' α'} {f : α → Except ε β} {g : α' → Except ε' β'}
    (h : Agree faults values x y) (next : ∀ a b, values a b → Agree faults values' (f a) (g b)) :
    Agree faults values' (x.bind f) (y.bind g) := by
  cases h with
  | ok related => exact next _ _ related
  | error related => exact .error related

theorem refl {same : ε → ε → Prop} (refl : ∀ e, same e e) (x : Except ε α) :
    Agree same (· = ·) x x := by
  cases x with
  | ok a => exact .ok rfl
  | error e => exact .error (refl e)

theorem mapM {R : α → α' → Prop} {f : α → Except ε β} {g : α' → Except ε' β'} {xs : List α} {ys : List α'}
    (related : List.Forall₂ R xs ys) (h : ∀ x y, R x y → Agree faults values' (f x) (g y)) :
    Agree faults (List.Forall₂ values') (xs.mapM f) (ys.mapM g) := by
  induction related with
  | nil => exact .ok .nil
  | cons first _ ih =>
    rw [List.mapM_cons, List.mapM_cons]
    exact (h _ _ first).bind fun _ _ head => ih.bind fun _ _ rest => .ok (.cons head rest)

end Agree

/-! ### Results of narrated computations -/

namespace Narrated

@[simp] theorem result_ofExcept (x : Except ε α) : (ofExcept x).result = x := rfl

@[simp] theorem result_fail (e : ε) : (fail e : Narrated ε α).result = .error e := rfl

@[simp] theorem result_log (entry : Log.Entry) : (log entry : Narrated ε Unit).result = .ok () := rfl

theorem bind_ok_iff {x : Narrated ε α} {f : α → Narrated ε β} {b : β} :
    (x >>= f).result = .ok b ↔ ∃ a, x.result = .ok a ∧ (f a).result = .ok b := by
  rw [result_bind, OvfInspect.bind_ok_iff]

theorem pure_ok_iff {a b : α} : (pure a : Narrated ε α).result = .ok b ↔ a = b := by
  rw [result_pure, Except.ok.injEq]

@[simp] theorem result_log_bind (entry : Log.Entry) (f : Unit → Narrated ε β) :
    (log entry >>= f).result = (f ()).result := rfl

/-- The events of the parts of a traversal have no influence on its result. -/
theorem result_mapM (f : α → Narrated ε β) (xs : List α) :
    (xs.mapM f).result = xs.mapM fun x => (f x).result := by
  induction xs with
  | nil => rfl
  | cons x xs ih =>
    simp only [List.mapM_cons, result_bind, ih, result_pure]
    rfl

theorem mapM_zipIdx (f : α → Narrated ε β) (xs : List α) (n : Nat) :
    (xs.zipIdx n).mapM (fun entry => f entry.1) = xs.mapM f := by
  induction xs generalizing n with
  | nil => rfl
  | cons x xs ih => rw [List.zipIdx_cons, List.mapM_cons, List.mapM_cons, ih]

theorem forM_eq_mapM (f : α → Narrated ε Unit) (xs : List α) :
    xs.forM f = xs.mapM f >>= fun _ => pure () := by
  induction xs with
  | nil => rfl
  | cons x xs ih =>
    have head : (x :: xs).forM f = f x >>= fun _ => xs.forM f := rfl
    rw [head, List.mapM_cons]
    simp only [ih, bind_assoc, pure_bind]

theorem result_forM_cons (f : α → Narrated ε Unit) (x : α) (xs : List α) :
    ((x :: xs).forM f).result = (f x).result.bind fun _ => (xs.forM f).result :=
  result_bind (f x) fun _ => xs.forM f

theorem forM_ok_iff {f : α → Narrated ε Unit} {xs : List α} :
    (xs.forM f).result = .ok () ↔ ∀ x ∈ xs, (f x).result = .ok () := by
  induction xs with
  | nil => simp
  | cons x xs ih =>
    rw [List.forall_mem_cons, ← ih]
    refine bind_ok_iff.trans ?_
    exact ⟨fun ⟨_, first, rest⟩ => ⟨first, rest⟩, fun ⟨first, rest⟩ => ⟨(), first, rest⟩⟩

end Narrated

end OvfInspect

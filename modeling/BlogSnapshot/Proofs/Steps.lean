import Mathlib.Data.List.Perm.Basic

/-! Steps that may fail, one after another: what success of the whole says of each step, how the
first failure becomes that of the whole, and which failures the whole can have.
-/

namespace BlogSnapshot

variable {α β γ δ ε φ : Type}

/-- Two steps succeed when the first one does and the second one does with its result. -/
theorem bind_eq_ok_iff (x : Except ε α) (f : α → Except ε β) (b : β)
    : (x >>= f) = .ok b ↔ ∃ a, x = .ok a ∧ f a = .ok b := by
  cases x <;> simp [bind, Except.bind]

/-- Another wording of a failure changes no success. -/
theorem mapError_eq_ok_iff (g : ε → φ) (x : Except ε α) (a : α)
    : x.mapError g = .ok a ↔ x = .ok a := by
  cases x <;> simp [Except.mapError]

/-- Wording the failure of two steps anew is wording that of each anew. -/
theorem mapError_bind (g : ε → φ) (x : Except ε α) (f : α → Except ε β)
    : (x >>= f).mapError g = x.mapError g >>= fun a => (f a).mapError g := by
  cases x <;> rfl

/-- Going on from the image of a result is going on from the result. -/
theorem bind_map_left (h : α → β) (x : Except ε α) (f : β → Except ε γ)
    : x.map h >>= f = x >>= fun a => f (h a) := by
  cases x <;> rfl

/-- The image of the last result is taken in the last step. -/
theorem map_bind (h : β → γ) (x : Except ε α) (f : α → Except ε β)
    : (x >>= f).map h = x >>= fun a => (f a).map h := by
  cases x <;> rfl

/-- Another wording of a failure changes no image of a result. -/
theorem mapError_map (g : ε → φ) (h : α → β) (x : Except ε α)
    : (x.map h).mapError g = (x.mapError g).map h := by
  cases x <;> rfl

/-- A result comes of a mapped step when it is the image of the step's own. -/
theorem map_eq_ok_iff (g : α → β) (x : Except ε α) (b : β)
    : x.map g = .ok b ↔ ∃ a, x = .ok a ∧ g a = b := by
  cases x <;> simp [Except.map]

/-- The result of a step whose failure is not told apart. -/
theorem toOption_eq_some_iff {x : Except ε α} {a : α} : x.toOption = some a ↔ x = .ok a := by
  cases x <;> simp [Except.toOption]

/-- Going on alike from one result, or from a failure each, has one result or a failure each. -/
theorem toOption_bind {x y : Except ε α} (same : x.toOption = y.toOption) (f : α → Except ε β)
    : (x >>= f).toOption = (y >>= f).toOption := by
  cases x with
  | error e =>
      cases y with
      | error _ => rfl
      | ok b => cases same
  | ok a =>
      cases y with
      | error _ => cases same
      | ok b => rw [Option.some.inj same]

/-- A step on every item succeeds when it does on each, by induction on the items. -/
theorem mapM_eq_ok_iff (f : α → Except ε β) (xs : List α) (ys : List β)
    : xs.mapM f = .ok ys ↔ xs.map f = ys.map .ok := by
  induction xs generalizing ys with
  | nil => cases ys <;> simp [pure, Except.pure]
  | cons x rest ih =>
      rw [List.mapM_cons, bind_eq_ok_iff]
      simp only [bind_eq_ok_iff, ih, pure, Except.pure]
      cases ys with
      | nil => simp
      | cons y others =>
          constructor
          · rintro ⟨a, first, bs, more, eq⟩
            obtain ⟨rfl, rfl⟩ := List.cons.inj (Except.ok.inj eq)
            rw [List.map_cons, List.map_cons, first, more]
          · intro eq
            obtain ⟨first, more⟩ := List.cons.inj eq
            exact ⟨y, first, others, more, rfl⟩

/-- The first item on which a step fails decides the failure, by induction on those before it. -/
theorem mapM_eq_error {f : α → Except ε β} {before after : List α} {x : α} {e : ε}
    (succeeds : ∀ y ∈ before, ∃ z, f y = .ok z) (fails : f x = .error e)
    : (before ++ x :: after).mapM f = .error e := by
  induction before with
  | nil => simp [fails, bind, Except.bind]
  | cons y rest ih =>
      obtain ⟨z, first⟩ := succeeds y (by simp)
      have later := ih fun w member => succeeds w (by simp [member])
      rw [List.cons_append, List.mapM_cons, first, later]
      rfl

/-- A step that succeeds has a result. -/
theorem exists_result {x : Except ε α} (succeeds : x.isOk = true) : ∃ a, x = .ok a := by
  cases x with
  | error e => cases succeeds
  | ok a => exact ⟨a, rfl⟩

/-- Steps that all succeed have results, by induction on them. -/
theorem exists_results {steps : List (Except ε α)} (succeeds : ∀ x ∈ steps, ∃ a, x = .ok a)
    : ∃ results : List α, steps = results.map .ok := by
  induction steps with
  | nil => exact ⟨[], rfl⟩
  | cons x rest ih =>
      obtain ⟨a, rfl⟩ := succeeds x (by simp)
      obtain ⟨more, rfl⟩ := ih fun y member => succeeds y (by simp [member])
      exact ⟨a :: more, rfl⟩

/-- Steps that all succeed, whatever their order, have their own results in their own order. -/
theorem exists_results_of_perm {steps : List (Except ε α)} {results : List α}
    (perm : steps.Perm (results.map .ok))
    : ∃ own : List α, steps = own.map .ok ∧ own.Perm results := by
  have succeeds : ∀ x ∈ steps, ∃ a, x = .ok a := by
    intro x member
    obtain ⟨a, _, eq⟩ := List.mem_map.mp (perm.mem_iff.mp member)
    exact ⟨a, eq.symm⟩
  obtain ⟨own, rfl⟩ := exists_results succeeds
  exact ⟨own, rfl, (List.map_perm_map_iff (fun _ _ => Except.ok.inj)).mp perm⟩

/-- Two steps fail alike, or have results that are related. -/
inductive Alike (R : α → β → Prop) : Except ε α → Except ε β → Prop
  | ok {a : α} {b : β} (related : R a b) : Alike R (.ok a) (.ok b)
  | error (e : ε) : Alike R (.error e) (.error e)

/-- Going on alike from related results fails alike or has related results. -/
theorem Alike.bind {R : α → β → Prop} {S : γ → δ → Prop} {x : Except ε α} {y : Except ε β}
    {f : α → Except ε γ} {g : β → Except ε δ} (alike : Alike R x y)
    (next : ∀ a b, R a b → Alike S (f a) (g b))
    : Alike S (x >>= f) (y >>= g) := by
  cases alike with
  | ok related => exact next _ _ related
  | error e => exact .error e

/-- Going on alike from related results is the same. -/
theorem Alike.bind_eq {R : α → β → Prop} {x : Except ε α} {y : Except ε β} {f : α → Except ε γ}
    {g : β → Except ε γ} (alike : Alike R x y) (next : ∀ a b, R a b → f a = g b)
    : x >>= f = y >>= g := by
  cases alike with
  | ok related => exact next _ _ related
  | error e => rfl

/-- Going on in the same way from the same step is the same. -/
theorem bind_eq_bind {x y : Except ε α} {f g : α → Except ε β} (same : x = y)
    (next : ∀ a, f a = g a)
    : x >>= f = y >>= g := by
  rw [same, funext next]

/-- A step that is the same on related items is the same on lists of them, by induction on these. -/
theorem mapM_congr_of_forall₂ {R : α → β → Prop} {f : α → Except ε γ} {g : β → Except ε γ}
    {xs : List α} {ys : List β} (each : ∀ x y, R x y → f x = g y)
    (paired : List.Forall₂ R xs ys)
    : xs.mapM f = ys.mapM g := by
  induction paired with
  | nil => rfl
  | cons related _ ih => rw [List.mapM_cons, List.mapM_cons, each _ _ related, ih]

/-- All items have a property, or there is a first one that does not. -/
theorem forall_or_first (P : α → Prop) (items : List α)
    : (∀ a ∈ items, P a)
      ∨ ∃ before a after, items = before ++ a :: after ∧ (∀ b ∈ before, P b) ∧ ¬ P a := by
  classical
  cases found : items.find? fun a => ¬ P a with
  | none => exact .inl fun a member => by simpa using List.find?_eq_none.mp found a member
  | some a =>
      obtain ⟨fails, before, after, split, holds⟩ := List.find?_eq_some_iff_append.mp found
      exact .inr ⟨before, a, after, split, by simpa using holds, by simpa using fails⟩

-----------------------------------------------------------------------------------------
-- The failures of steps
-----------------------------------------------------------------------------------------

/-- A step fails only in ways that have a property. -/
def FailsOnly (P : ε → Prop) (x : Except ε α) : Prop :=
  ∀ e, x = .error e → P e

namespace FailsOnly

variable {P Q : ε → Prop}

theorem ok (P : ε → Prop) (a : α) : FailsOnly P (.ok a : Except ε α) :=
  fun _ failed => by cases failed

theorem error {e : ε} (holds : P e) : FailsOnly P (.error e : Except ε α) :=
  fun _ failed => Except.error.inj failed ▸ holds

theorem mono {x : Except ε α} (h : FailsOnly P x) (weaker : ∀ e, P e → Q e) : FailsOnly Q x :=
  fun e failed => weaker e (h e failed)

theorem ite {c : Prop} [Decidable c] {x y : Except ε α} (hx : FailsOnly P x)
    (hy : FailsOnly P y)
    : FailsOnly P (if c then x else y) := by
  split
  · exact hx
  · exact hy

/-- Two steps fail as the first one does, or as the second one does with its result. -/
theorem bind {x : Except ε α} {f : α → Except ε β} (first : FailsOnly P x)
    (second : ∀ a, x = .ok a → FailsOnly P (f a))
    : FailsOnly P (x >>= f) := by
  intro e failed
  cases x with
  | error _ => exact first e (congrArg Except.error (Except.error.inj failed))
  | ok a => exact second a rfl e failed

/-- The image of a result changes no failure. -/
theorem map {x : Except ε α} (h : FailsOnly P x) (g : α → β) : FailsOnly P (x.map g) := by
  intro e failed
  cases x with
  | error _ => exact h e (congrArg Except.error (Except.error.inj failed))
  | ok _ => cases failed

/-- A failure in other words has a property that the words carry over. -/
theorem mapError {R : φ → Prop} {g : ε → φ} {x : Except ε α} (h : FailsOnly (fun e => R (g e)) x)
    : FailsOnly R (x.mapError g) := by
  intro e failed
  cases x with
  | error e' => exact Except.error.inj failed ▸ h e' rfl
  | ok _ => cases failed

/-- A step on every item fails as it does on one of them, by induction on the items. -/
theorem mapM {f : α → Except ε β} {xs : List α} (each : ∀ x ∈ xs, FailsOnly P (f x))
    : FailsOnly P (xs.mapM f) := by
  induction xs with
  | nil => exact .ok P []
  | cons x rest ih =>
      rw [List.mapM_cons]
      refine .bind (each x (by simp)) fun y _ => .bind ?_ fun ys _ => .ok P _
      exact ih fun z member => each z (List.mem_cons_of_mem x member)

end FailsOnly

-----------------------------------------------------------------------------------------
-- The results of steps
-----------------------------------------------------------------------------------------

/-- A step that succeeds has a result with a property. -/
def Yields (P : α → Prop) (x : Except ε α) : Prop :=
  ∀ a, x = .ok a → P a

namespace Yields

variable {P Q : α → Prop} {R : β → Prop}

theorem ok {a : α} (holds : P a) : Yields P (.ok a : Except ε α) :=
  fun _ ran => Except.ok.inj ran ▸ holds

theorem error (e : ε) : Yields P (.error e : Except ε α) :=
  fun _ ran => by cases ran

theorem mono {x : Except ε α} (h : Yields P x) (weaker : ∀ a, P a → Q a) : Yields Q x :=
  fun a ran => weaker a (h a ran)

theorem ite {c : Prop} [Decidable c] {x y : Except ε α} (hx : c → Yields P x)
    (hy : ¬ c → Yields P y)
    : Yields P (if c then x else y) := by
  split
  case isTrue holds => exact hx holds
  case isFalse fails => exact hy fails

/-- Two steps have the result of the second one, which goes on with a result of the first. -/
theorem bind {x : Except ε α} {f : α → Except ε β} (first : Yields P x)
    (second : ∀ a, P a → Yields R (f a))
    : Yields R (x >>= f) := by
  intro b ran
  obtain ⟨a, ran₁, ran₂⟩ := (bind_eq_ok_iff _ _ _).mp ran
  exact second a (first a ran₁) b ran₂

/-- A step whose own result does not matter. -/
theorem after {x : Except ε α} {f : α → Except ε β} (second : ∀ a, Yields R (f a))
    : Yields R (x >>= f) :=
  bind (P := fun _ => True) (fun _ _ => trivial) fun a _ => second a

theorem map {x : Except ε α} {g : α → β} (h : Yields (fun a => R (g a)) x)
    : Yields R (x.map g) := by
  intro b mapped
  obtain ⟨a, ran, rfl⟩ := (map_eq_ok_iff _ _ _).mp mapped
  exact h a ran

theorem mapError {g : ε → φ} {x : Except ε α} (h : Yields P x) : Yields P (x.mapError g) :=
  fun a ran => h a ((mapError_eq_ok_iff _ _ _).mp ran)

end Yields

/-- A step succeeds with a result that has a property. -/
def Succeeds (P : α → Prop) (x : Except ε α) : Prop :=
  ∃ a, x = .ok a ∧ P a

namespace Succeeds

variable {P : α → Prop} {R : β → Prop}

theorem ok {a : α} (holds : P a) : Succeeds P (.ok a : Except ε α) :=
  ⟨a, rfl, holds⟩

/-- Two steps succeed when the first one does and the second one does with its result. -/
theorem bind {x : Except ε α} {f : α → Except ε β} (first : Succeeds P x)
    (second : ∀ a, P a → Succeeds R (f a))
    : Succeeds R (x >>= f) := by
  obtain ⟨a, rfl, holds⟩ := first
  exact second a holds

theorem mapError {g : ε → φ} {x : Except ε α} (h : Succeeds P x) : Succeeds P (x.mapError g) := by
  obtain ⟨a, rfl, holds⟩ := h
  exact ⟨a, rfl, holds⟩

end Succeeds

end BlogSnapshot

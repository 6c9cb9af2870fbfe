import Formula.Failure

/-
  Laws of outcomes.

  An outcome in which another one is used succeeds just when
  every part of it does.

  Key definitions include:
    * `Outcome.FailsOnly`

  Main statements:
    * `Outcome.bind_eq_ok_iff`
    * `Outcome.mapError_eq_ok_iff`
    * `Outcome.failsOnly_bind`
-/

namespace Formula

namespace Outcome

variable {ε ε' α β : Type}

------------------------------------------------------------
-- Evaluation
------------------------------------------------------------

@[simp] theorem ok_bind
    (a : α)
    (k : α → Except ε β) :
    (Except.ok a >>= k) = k a := rfl

@[simp] theorem error_bind
    (f : ε)
    (k : α → Except ε β) :
    ((Except.error f : Except ε α) >>= k) = .error f := rfl

@[simp] theorem ok_map
    (g : α → β)
    (a : α) :
    (Except.ok a : Except ε α).map g = .ok (g a) := rfl

@[simp] theorem error_map
    (g : α → β)
    (f : ε) :
    (Except.error f : Except ε α).map g = .error f := rfl

@[simp] theorem ok_mapError
    (g : ε → ε')
    (a : α) :
    (Except.ok a : Except ε α).mapError g = .ok a := rfl

@[simp] theorem error_mapError
    (g : ε → ε')
    (f : ε) :
    (Except.error f : Except ε α).mapError g =
      .error (g f) := rfl

/- Mapping a result is a last step that cannot fail. -/
theorem map_eq_bind
    (g : α → β)
    (r : Except ε α) :
    r.map g = r >>= fun a => .ok (g a) := by
  cases r <;> rfl

/- Results and failures are mapped independently. -/
theorem mapError_map
    (g : α → β)
    (h : ε → ε')
    (r : Except ε α) :
    (r.map g).mapError h = (r.mapError h).map g := by
  cases r <;> rfl

/- Results and failures of a list are mapped one by one. -/
theorem mapM_map_mapError
    {γ : Type}
    (f : γ → Except ε α)
    (g : α → β)
    (h : ε → ε')
    (as : List γ) :
    ((as.mapM f).map (List.map g)).mapError h =
      as.mapM fun a => ((f a).map g).mapError h := by
  induction as with
  | nil => rfl
  | cons a as ih =>
      rw [List.mapM_cons, List.mapM_cons, ← ih]
      cases f a with
      | error e => rfl
      | ok b =>
          cases as.mapM f with
          | error e => rfl
          | ok bs => rfl

------------------------------------------------------------
-- Lists
------------------------------------------------------------

/- A list succeeds if all of it does. -/
theorem exists_mapM_eq_ok
    {f : α → Except ε β}
    {as : List α}
    (hAll : ∀ a ∈ as, ∃ b, f a = .ok b) :
    ∃ bs, as.mapM f = .ok bs := by
  induction as with
  | nil => exact ⟨[], rfl⟩
  | cons a as ih =>
      rcases hAll a List.mem_cons_self with ⟨b, hFirst⟩
      rcases ih fun c hMem =>
        hAll c (List.mem_cons_of_mem _ hMem) with ⟨bs, hRest⟩
      rw [List.mapM_cons, hFirst, ok_bind, hRest]
      exact ⟨b :: bs, rfl⟩

/- There are as many results as there are arguments. -/
theorem length_of_mapM_eq_ok
    {f : α → Except ε β}
    {as : List α}
    {bs : List β}
    (hAll : as.mapM f = .ok bs) :
    bs.length = as.length := by
  induction as generalizing bs with
  | nil =>
      cases hAll
      rfl
  | cons a as ih =>
      rw [List.mapM_cons] at hAll
      cases hFirst : f a with
      | error e =>
          rw [hFirst] at hAll
          cases hAll
      | ok b =>
          rw [hFirst, ok_bind] at hAll
          cases hRest : as.mapM f with
          | error e =>
              rw [hRest] at hAll
              cases hAll
          | ok cs =>
              rw [hRest] at hAll
              cases hAll
              exact congrArg Nat.succ (ih hRest)

/- A list fails as the first of it does that fails. -/
theorem mapM_eq_error
    {f : α → Except ε β}
    {before : List α}
    {a : α}
    {e : ε}
    (hBefore : ∀ b ∈ before, ∃ c, f b = .ok c)
    (hFailed : f a = .error e)
    (after : List α) :
    (before ++ a :: after).mapM f = .error e := by
  rcases exists_mapM_eq_ok hBefore with ⟨bs, hRead⟩
  rw [List.mapM_append, hRead, ok_bind, List.mapM_cons, hFailed]
  rfl

------------------------------------------------------------
-- Success
------------------------------------------------------------

theorem bind_eq_ok_iff
    {r : Except ε α}
    {k : α → Except ε β}
    {b : β} :
    r >>= k = .ok b ↔ ∃ a, r = .ok a ∧ k a = .ok b := by
  cases r <;> simp

theorem mapError_eq_ok_iff
    {g : ε → ε'}
    {r : Except ε α}
    {a : α} :
    r.mapError g = .ok a ↔ r = .ok a := by
  cases r <;> simp

theorem map_eq_ok_iff
    {g : α → β}
    {r : Except ε α}
    {b : β} :
    r.map g = .ok b ↔ ∃ a, r = .ok a ∧ g a = b := by
  cases r <;> simp

------------------------------------------------------------
-- Failure
------------------------------------------------------------

theorem mapError_eq_error_iff
    {g : ε → ε'}
    {r : Except ε α}
    {f : ε'} :
    r.mapError g = .error f ↔
      ∃ f₀, r = .error f₀ ∧ g f₀ = f := by
  cases r <;> simp

theorem map_eq_error_iff
    {g : α → β}
    {r : Except ε α}
    {f : ε} :
    r.map g = .error f ↔ r = .error f := by
  cases r <;> simp

/- What goes wrong, if anything does, is of some kind. -/
def FailsOnly
    (P : ε → Prop)
    (r : Except ε α) : Prop :=
  ∀ f, r = .error f → P f

variable {P : ε → Prop}

theorem failsOnly_ok
    (a : α) :
    FailsOnly P (.ok a) := by
  intro f hFailed
  cases hFailed

theorem failsOnly_error
    {f : ε}
    (hFailure : P f) :
    FailsOnly P (.error f : Except ε α) := by
  intro g hFailed
  cases hFailed
  exact hFailure

theorem failsOnly_bind
    {r : Except ε α}
    {k : α → Except ε β}
    (hFirst : FailsOnly P r)
    (hRest : ∀ a, FailsOnly P (k a)) :
    FailsOnly P (r >>= k) := by
  cases r with
  | error f => exact failsOnly_error (hFirst f rfl)
  | ok a => exact hRest a

end Outcome

end Formula

import Formula.Proofs.Directory
import Formula.Proofs.Function.Correspondence
import Formula.Proofs.Policy.Refinement

/-
  Standard functions refine when the policy does.

  A function gives under a policy that converts more whatever
  it gives under the one that converts less.

  Key definitions include:
    * `Function.IsMonotone`
    * `Moment.timeless`

  Main statements:
    * `Moment.isMonotone_of_mem_library`
    * `Moment.timeless_eq`
    * `Moment.isMonotone_timeless`
-/

namespace Formula

/- A function gives no less under a policy that refines. -/
def Function.IsMonotone
    (f : Function) : Prop :=
  ∀ p q, Policy.Refines p q →
    ∀ args, Outcome.Refines (f args p) (f args q)

/- What depends on conversions alone is monotone. -/
theorem Function.IsParametric.isMonotone
    {f : Function}
    (hFunction : f.IsParametric) :
    f.IsMonotone := by
  intro p q hPolicy args v hResult
  have hCall :=
    hFunction Correspondence.refinement p q hPolicy args v
      (Outcome.mapError_eq_ok_iff.mpr hResult)
  exact Outcome.mapError_eq_ok_iff.mp hCall

------------------------------------------------------------
-- The Library
------------------------------------------------------------

/- Nothing is added when an entry is removed. -/
theorem Directory.mem_of_mem_remove
    {d : Directory α}
    {name : String}
    {e : Entry α}
    (hEntry : e ∈ (d.remove name).entries) :
    e ∈ d.entries :=
  List.mem_of_mem_eraseP hEntry

namespace Moment

/- Every function of the standard library is monotone. -/
theorem isMonotone_of_mem_library
    (m : Moment)
    {e : Entry Function}
    (hEntry : e ∈ m.library.entries) :
    e.content.IsMonotone :=
  (m.isParametric_of_mem_library hEntry).isMonotone

/-
  The standard library without the functions that tell the
  time or a random number.
-/
def timeless
    (m : Moment) : Directory Function :=
  (((m.library.remove "Now").remove "Ticks").remove
    "Rnd").remove "Random"

/- What is left of the library is the same at any moment. -/
theorem timeless_eq
    (m n : Moment) :
    m.timeless = n.timeless := by
  simp +decide [timeless, Directory.remove, library, functions]

theorem isMonotone_timeless
    (m : Moment)
    {name : String}
    {f : Function}
    (hName : m.timeless.get? name = some f) :
    f.IsMonotone := by
  rcases Directory.exists_mem_of_get? hName with
    ⟨e, hMember, rfl⟩
  apply m.isMonotone_of_mem_library
  unfold timeless at hMember
  iterate 4 replace hMember :=
    Directory.mem_of_mem_remove hMember
  exact hMember

end Moment

end Formula

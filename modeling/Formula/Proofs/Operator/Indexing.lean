import Mathlib
import Formula.Policy.Permissive
import Formula.Policy.Strict
import Formula.Proofs.Directory.History
import Formula.Proofs.Operator.Result

/-
  Indices and what they find.

  An index of 32 bits is checked against the number of elements
  there are.  The strict policy refuses one of 64 bits.  The
  permissive policy cuts it to 32 bits, and it is the rest that
  is checked: an index outside of 32 bits may find an element
  that it does not count.

  Key definitions include:
    * `Value.elements?`
    * `Locates`
    * `Moment.chooser`

  Main statements:
    * `itemAt_locates`
    * `Conversion.element_of_convert`
    * `Function.choose_of_convert`
    * `indexing_locates`
    * `indexing_of_wideIndex`
-/

namespace Formula

/- The items of an array, or the characters of a text. -/
def Value.elements? : Value → Option (List Value)
  | .array items => some items
  | .string s =>
      some ((Grapheme.clusters s.toList).map fun cluster =>
        .string (String.ofList cluster))
  | _ => none

------------------------------------------------------------
-- Lookups
------------------------------------------------------------

variable {ε α β : Type}
variable {items : List α}

/-
  What is looked up is the item that an index counts from zero
  on, or there is none and the failure is a given one.
-/
inductive Locates
    (items : List α)
    (i : Int)
    (failure : ε) : Except ε α → Prop where
  | found
      {n : Nat}
      (hInside : n < items.length)
      (hIndex : i = n) :
      Locates items i failure (.ok items[n])
  | missing
      (hOutside : ¬ (0 ≤ i ∧ i < items.length)) :
      Locates items i failure (.error failure)

namespace Locates

variable {i : Int}
variable {failure : ε}
variable {r : Except ε α}

theorem eq_ok
    (hLocates : Locates items i failure r)
    {n : Nat}
    (hInside : n < items.length)
    (hIndex : i = n) :
    r = .ok items[n] := by
  cases hLocates with
  | found hOther hSame =>
      cases Int.ofNat_inj.mp (hSame.symm.trans hIndex)
      rfl
  | missing hOutside => omega

theorem eq_error
    (hLocates : Locates items i failure r)
    (hOutside : ¬ (0 ≤ i ∧ i < items.length)) :
    r = .error failure := by
  cases hLocates with
  | found hInside hIndex => omega
  | missing _ => rfl

end Locates

/- A lookup may be settled by the item there is, or is not. -/
theorem locates_of_getElem?
    {i : Int}
    {failure : ε}
    {r : Except ε α}
    (hSign : 0 ≤ i)
    (hFound : ∀ a, items[i.toNat]? = some a → r = .ok a)
    (hMissing : items[i.toNat]? = none → r = .error failure) :
    Locates items i failure r := by
  have hIndex : i = i.toNat := (Int.toNat_of_nonneg hSign).symm
  by_cases hInside : i.toNat < items.length
  · rw [hFound _ (List.getElem?_eq_getElem hInside)]
    exact .found hInside hIndex
  · have hNone := List.getElem?_eq_none (Nat.not_lt.mp hInside)
    rw [hMissing hNone]
    apply Locates.missing
    omega

/- An index is looked up among items. -/
theorem itemAt_locates
    (items : List α)
    (i : Int) :
    Locates items i
      (Cause.indexOutOfBounds i items.length).unplaced
      (itemAt items i) := by
  unfold itemAt itemAt?
  by_cases hSign : i < 0
  · rw [if_pos hSign]
    apply Locates.missing
    omega
  · rw [if_neg hSign]
    apply locates_of_getElem? (Int.not_lt.mp hSign)
    · intro a hItem
      rw [hItem]
    · intro hNone
      rw [hNone]

/- Items may be changed before they are looked up. -/
theorem itemAt_map
    (f : α → β)
    (i : Int) :
    itemAt (items.map f) i = (itemAt items i).map f := by
  have hItem :
      itemAt? (items.map f) i = (itemAt? items i).map f := by
    unfold itemAt?
    split
    · rfl
    · exact List.getElem?_map
  rw [itemAt, itemAt, hItem, List.length_map]
  cases itemAt? items i with
  | none => rfl
  | some a => rfl

------------------------------------------------------------
-- Converted Indices
------------------------------------------------------------

variable {p : Policy}
variable {index : Value}
variable {k : Int32}

/- Once an index is converted, an element is looked up. -/
theorem Conversion.element_of_convert
    {c : Conversion}
    {collection : Value}
    {items : List Value}
    (hItems : collection.elements? = some items)
    (hIndex : index.isNull = false)
    (hConvert :
      c.convert index .integer = .ok (.integer k)) :
    c.policy.element collection index =
      itemAt items k.toInt := by
  change c.element collection index = _
  unfold element
  cases collection with
  | array items' =>
      cases hItems
      rw [hIndex, hConvert]
      rfl
  | string s =>
      cases hItems
      rw [hIndex, hConvert, itemAt_map]
      rfl
  | _ => cases hItems

/- The function of the library that picks an argument. -/
def Moment.chooser : StandardFunction :=
  ⟨"Choose", .atLeast 3, .choose⟩

theorem Moment.get?_chooser
    (m : Moment) :
    m.library.get? "Choose" = some chooser.function := by
  apply Directory.get?_library _ (SameName.refl "Choose")
  simp only [functions, chooser, List.mem_cons, true_or,
    or_true]

/- An argument is picked, or there is none with the number. -/
theorem Function.choose_of_toInteger
    {args : List Value}
    {chosen : Option Value}
    (hInteger : p.toInteger index = .ok k)
    (hChosen :
      (if 1 ≤ k.toInt then (index :: args)[k.toInt.toNat]?
        else none) = chosen) :
    choose (index :: args) p =
      chosen.elim
        (.error (.failed (Cause.wrongParameterCount
          ("at least " ++ toString (k.toInt + 1))
          (args.length + 1)).unplaced)) .ok := by
  have hArgument : argument (index :: args) 0 = .ok index := rfl
  have hCall : (p.toInteger index).toCall = .ok k := by
    rw [hInteger]
    rfl
  rw [choose, hArgument, Outcome.ok_bind, hCall,
    Outcome.ok_bind]
  dsimp only
  rw [hChosen]
  cases chosen with
  | none => rfl
  | some v => rfl

/- Once an index is converted, an argument is looked up. -/
theorem Function.choose_of_convert
    {args : List Value}
    (hEnough : 2 ≤ args.length)
    (hConvert :
      p.convert index .integer = .ok (.integer k)) :
    Locates args (k.toInt - 1)
      (.failed (Cause.wrongParameterCount
        ("at least " ++ toString (k.toInt + 1))
        (args.length + 1)).unplaced)
      (Moment.chooser.function (index :: args) p) := by
  have hAllowed :
      (Arity.atLeast 3).allows (index :: args).length = true :=
    decide_eq_true (Nat.succ_le_succ hEnough)
  have hCall :
      Moment.chooser.function (index :: args) p =
        Function.choose (index :: args) p :=
    if_pos hAllowed
  have hInteger : p.toInteger index = .ok k := by
    rw [Conversion.toInteger, Conversion.extract, hConvert]
    rfl
  by_cases hFirst : 1 ≤ k.toInt
  · have hNumber :
        k.toInt.toNat = (k.toInt - 1).toNat + 1 := by
      omega
    rw [hCall, choose_of_toInteger hInteger (if_pos hFirst),
      hNumber, List.getElem?_cons_succ]
    apply locates_of_getElem? (Int.sub_nonneg.mpr hFirst)
    · intro v hItem
      rw [hItem]
      rfl
    · intro hNone
      rw [hNone]
      rfl
  · rw [hCall, choose_of_toInteger hInteger (if_neg hFirst)]
    apply Locates.missing
    omega

------------------------------------------------------------
-- Indices of Both Widths
------------------------------------------------------------

/- The policies that calculators offer. -/
def Policy.IsOffered
    (p : Policy) : Prop :=
  p = .strict ∨ p = .permissive

/- Both of them have the shared operators. -/
theorem Policy.IsOffered.exists_eq_policy
    (hOffered : p.IsOffered) :
    ∃ c : Conversion, p = c.policy := by
  rcases hOffered with rfl | rfl
  · exact ⟨_, rfl⟩
  · exact ⟨_, rfl⟩

/- Every value is of its own type already. -/
theorem Policy.IsOffered.convert_self
    (hOffered : p.IsOffered)
    (v : Value) :
    p.convert v v.type = .ok v := by
  by_cases hNull : v.type = .null
  · rw [Value.type_eq_null_iff.mp hNull]
    rcases hOffered with rfl | rfl
    · rfl
    · rfl
  · rcases hOffered with rfl | rfl
    · exact (if_neg hNull).trans (if_pos (.inl rfl))
    · exact (if_neg hNull).trans (if_pos (.inl rfl))

/- Operands of one type are not converted. -/
theorem Policy.IsOffered.aligned_eq
    (hOffered : p.IsOffered)
    {lhs rhs : Value}
    {apply : Value → Value → Option (Outcome Value)}
    {r : Outcome Value}
    (hLeft : lhs.isNull = false)
    (hType : rhs.type = lhs.type)
    (hApply : apply lhs rhs = some r)
    (symbol : String) :
    p.aligned symbol lhs rhs apply = r := by
  have hRight : rhs.isNull = false := by
    rw [← Bool.not_eq_true, Value.isNull_iff,
      ← Value.type_eq_null_iff, hType, Value.type_eq_null_iff,
      ← Value.isNull_iff, hLeft]
    exact Bool.false_ne_true
  have hConvert : p.convert rhs lhs.type = .ok rhs := by
    rw [← hType]
    exact hOffered.convert_self rhs
  rw [Conversion.aligned, Conversion.align, hLeft, hRight,
    hConvert]
  simp only [Bool.or_self, Bool.false_eq_true, if_false,
    Outcome.ok_map, Outcome.ok_bind, hApply]

/- A number of 32 bits is an index as it is. -/
theorem Policy.IsOffered.convert_integer
    (hOffered : p.IsOffered)
    (k : Int32) :
    p.convert (.integer k) .integer = .ok (.integer k) :=
  hOffered.convert_self (.integer k)

/- What fits into 32 bits is not changed when it is cut. -/
theorem toInt_toInt32_of_fits
    {n : Int64}
    (hLow : -2 ^ 31 ≤ n.toInt)
    (hHigh : n.toInt < 2 ^ 31) :
    n.toInt32.toInt = n.toInt := by
  rw [Int64.toInt_toInt32]
  apply Int.bmod_eq_of_le
  · omega
  · omega

/-
  An index of 32 bits finds the element that it counts, under
  either policy, and nothing if there is none.  One of 64 bits
  finds nothing under the strict policy, and under the
  permissive one what the lower half of it counts, which is the
  same index if it fits into 32 bits.  The same holds of the
  arguments that are picked, which are counted from one on.
-/
theorem indexing_locates
    (moment : Moment) :
    (∀ p collection items,
      Policy.IsOffered p →
      Value.elements? collection = some items →
        ∀ k : Int32,
          Locates items k.toInt
            (Cause.indexOutOfBounds k.toInt
              items.length).unplaced
            (p.element collection (.integer k))) ∧
    (∀ collection items,
      Value.elements? collection = some items →
        ∀ n : Int64,
          Locates items n.toInt32.toInt
            (Cause.indexOutOfBounds n.toInt32.toInt
              items.length).unplaced
            (Policy.permissive.element collection (.long n)) ∧
          Policy.strict.element collection (.long n) =
            .error (noConversion .long .integer)) ∧
    (∀ n : Int64,
      -2 ^ 31 ≤ n.toInt → n.toInt < 2 ^ 31 →
        n.toInt32.toInt = n.toInt) ∧
    ∃ choose,
      moment.library.get? "Choose" = some choose ∧
      (∀ p args,
        Policy.IsOffered p → 2 ≤ args.length →
          ∀ k : Int32,
            Locates args (k.toInt - 1)
              (.failed (Cause.wrongParameterCount
                ("at least " ++ toString (k.toInt + 1))
                (args.length + 1)).unplaced)
              (choose (.integer k :: args) p)) ∧
      (∀ args : List Value,
        2 ≤ args.length →
          ∀ n : Int64,
            Locates args (n.toInt32.toInt - 1)
              (.failed (Cause.wrongParameterCount
                ("at least " ++
                  toString (n.toInt32.toInt + 1))
                (args.length + 1)).unplaced)
              (choose (.long n :: args) .permissive) ∧
            choose (.long n :: args) .strict =
              .error (.failed
                (noConversion .long .integer))) ∧
      ∀ p index args,
        args.length < 2 →
          choose (index :: args) p =
            .error (.failed (Cause.wrongParameterCount
              "3 or more" (args.length + 1)).unplaced) := by
  have hCut (n : Int64) :
      Policy.permissive.convert (.long n) .integer =
        .ok (.integer n.toInt32) := rfl
  refine ⟨?_, ?_, ?_, Moment.chooser.function,
    moment.get?_chooser, ?_, ?_, ?_⟩
  · intro p collection items hOffered hItems k
    have hIndex := hOffered.convert_integer k
    rcases hOffered.exists_eq_policy with ⟨c, rfl⟩
    rw [Conversion.element_of_convert (c := c) hItems rfl
      hIndex]
    exact itemAt_locates items k.toInt
  · intro collection items hItems n
    refine ⟨?_, ?_⟩
    · have hElement :=
        Conversion.element_of_convert hItems rfl (hCut n)
      exact hElement ▸ itemAt_locates items n.toInt32.toInt
    · cases collection with
      | array | string => rfl
      | _ => cases hItems
  · intro n hLow hHigh
    exact toInt_toInt32_of_fits hLow hHigh
  · intro p args hOffered hEnough k
    exact Function.choose_of_convert hEnough
      (hOffered.convert_integer k)
  · intro args hEnough n
    refine ⟨Function.choose_of_convert hEnough (hCut n), ?_⟩
    have hAllowed :
        (Arity.atLeast 3).allows (args.length + 1) = true :=
      decide_eq_true (Nat.succ_le_succ hEnough)
    exact if_pos hAllowed
  · intro p index args hFew
    have hRefused :
        ¬ (Arity.atLeast 3).allows (args.length + 1) = true := by
      intro hAllowed
      have hEnough := of_decide_eq_true hAllowed
      omega
    exact if_neg hRefused

/-
  An accent belongs to the character in front of it, and the
  argument that is picked is counted from one on.
-/
theorem indexing_locates_accent :
    Value.elements? (.string "ae\u0301") =
      some [.string "a", .string "e\u0301"] ∧
    Policy.strict.element (.string "ae\u0301") (.integer 1) =
      .ok (.string "e\u0301") ∧
    Policy.permissive.element (.string "ae\u0301")
        (.long (-1)) =
      .error (Cause.indexOutOfBounds (-1) 2).unplaced ∧
    (-2 ^ 31 ≤ (-1 : Int64).toInt ∧
      (-1 : Int64).toInt < 2 ^ 31 ∧
      (-1 : Int64).toInt32.toInt = (-1 : Int64).toInt) ∧
    2 ≤ [Value.null, .boolean true].length ∧
    [Value.null].length < 2 ∧
    ∃ choose,
      (Moment.mk .epoch 0).library.get? "Choose" =
        some choose ∧
      choose [.integer 2, .null, .boolean true] .strict =
        .ok (.boolean true) ∧
      choose [.long 3, .null, .boolean true] .permissive =
        .error (.failed
          (Cause.wrongParameterCount "at least 4" 3).unplaced) ∧
      choose [.integer 1, .null] .permissive =
        .error (.failed
          (Cause.wrongParameterCount "3 or more" 2).unplaced) :=
    by
  have hItems :
      Value.elements? (.string "ae\u0301") =
        some [.string "a", .string "e\u0301"] := rfl
  rcases indexing_locates (Moment.mk .epoch 0) with
    ⟨hNarrow, hWide, hFits, choose, hChoose, hPick, hPickWide,
      hFew⟩
  have hEnough : 2 ≤ [Value.null, .boolean true].length :=
    Nat.le_refl 2
  have hTooFew : [Value.null].length < 2 := Nat.lt_succ_self 1
  refine ⟨hItems, ?_, ?_, ⟨by decide, by decide, ?_⟩, hEnough,
    hTooFew, choose, hChoose, ?_, ?_, ?_⟩
  · exact (hNarrow _ _ _ (.inl rfl) hItems 1).eq_ok
      (n := 1) (by decide) rfl
  · exact (hWide _ _ hItems (-1)).1.eq_error (by decide)
  · exact hFits (-1) (by decide) (by decide)
  · exact (hPick _ _ (.inl rfl) hEnough 2).eq_ok
      (n := 1) (by decide) rfl
  · exact (hPickWide _ hEnough 3).1.eq_error (by decide)
  · exact hFew _ _ _ hTooFew

/-
  An index that is larger than any array may find an item: the
  permissive policy takes `2 ^ 32` for nothing, both when an
  element is looked up and when an argument is picked.
-/
theorem indexing_of_wideIndex :
    Policy.permissive.element
        (.array [.integer 1, .integer 2]) (.long 4294967296) =
      .ok (.integer 1) ∧
    (¬ ∀ (items : List Value) (n : Int64) (v : Value),
      items.length < 2 ^ 31 →
        Policy.permissive.element (.array items) (.long n) =
          .ok v →
        0 ≤ n.toInt ∧ n.toInt < items.length) ∧
    Moment.chooser.function
        [.long 4294967297, .integer 1, .integer 2]
        .permissive =
      .ok (.integer 1) := by
  have hElement :
      Policy.permissive.element
          (.array [.integer 1, .integer 2])
          (.long 4294967296) =
        .ok (.integer 1) := rfl
  refine ⟨hElement, ?_, rfl⟩
  intro hChecked
  have hBounds := hChecked _ _ _ (by decide) hElement
  exact absurd hBounds.2 (by decide)

end Formula

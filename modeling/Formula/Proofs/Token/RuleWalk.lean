import Formula.Proofs.Token.Comment
import Formula.Proofs.Token.NumberWalk
import Formula.Proofs.Token.Piece
import Formula.Proofs.Token.Quoting
import Formula.Token.RuleWalk

/-
  Every rule reads exactly its token.

  A cursor that reads by a rule, on a text that may not be
  meant for it, reads what the text begins with.  What was read
  in vain has gone back to the text by then.  So the cursor is
  behind the characters of the token, and nowhere else.

  Key definitions include:
    * `Cursor.readOn`
    * `Token.Spans`

  Main statements:
    * `Cursor.readRun_eq`
    * `Cursor.readQuoted_eq`
    * `Cursor.readDoubled_eq`
    * `Rules.next_eq_take`
    * `Cursor.spans_take`
    * `Rules.next_spans`
-/

namespace Formula

------------------------------------------------------------
-- Runs and Quotations
------------------------------------------------------------

namespace Cursor

variable {k : Cursor}
variable {value : String}
variable {c : Char}
variable {rest : List Char}

/- A text read on behind another one, and what comes next. -/
def readOn
    (k : Cursor)
    (value : String)
    (text : List Char) : String × Cursor :=
  (value ++ String.ofList text, k.skip text.length)

theorem readOn_nil :
    k.readOn value [] = (value, k) :=
  Prod.ext String.append_empty rfl

/- A character is read, and then the rest. -/
theorem readOn_cons :
    k.readOn value (c :: rest) =
      k.read.readOn (value.push c) rest :=
  Prod.ext (push_append_ofList value c rest).symm rfl

/- A cursor reads the run that its text begins with. -/
theorem readRun_eq
    (k : Cursor)
    (s : CharSet)
    (value : String) :
    k.readRun s value = k.readOn value (runOf s k.after) := by
  fun_induction readRun k s value with
  | case1 k value hAfter =>
      rw [hAfter]
      exact readOn_nil.symm
  | case2 k value c rest hAfter hMember ih =>
      have hRun : runOf s (c :: rest) = c :: runOf s rest :=
        List.takeWhile_cons_of_pos hMember
      rw [ih, after_read_of_more hAfter, hAfter, hRun,
        readOn_cons]
  | case3 k value c rest hAfter hOther =>
      have hRun : runOf s (c :: rest) = [] :=
        List.takeWhile_cons_of_neg hOther
      rw [hAfter, hRun, readOn_nil]

theorem nextRun_eq_take
    (k : Cursor)
    (s : CharSet)
    (kind : TokenKind) :
    k.nextRun s kind = k.take ⟨kind, runOf s k.after⟩ := by
  rw [nextRun, readRun_eq, peekLine_eq, peekColumn_eq, readOn,
    String.empty_append]
  rfl

/- A cursor reads through the quote character. -/
theorem readQuoted_eq
    (k : Cursor)
    (q : Char)
    (value : String) :
    k.readQuoted q value =
      k.readOn value (throughQuote q k.after) := by
  fun_induction readQuoted k q value with
  | case1 k value hAfter =>
      rw [hAfter]
      exact readOn_nil.symm
  | case2 k value rest hAfter =>
      rw [hAfter, throughQuote, if_pos rfl, readOn_cons,
        readOn_nil]
  | case3 k value c rest hAfter hOther ih =>
      rw [ih, after_read_of_more hAfter, hAfter, throughQuote,
        if_neg hOther, readOn_cons]

/- A cursor passes over quote characters that are doubled. -/
theorem readDoubled_eq
    (k : Cursor)
    (q : Char)
    (value : String) :
    k.readDoubled q value =
      k.readOn value (throughLoneQuote q k.after) := by
  fun_induction readDoubled k q value with
  | case1 k value hAfter =>
      rw [hAfter]
      exact readOn_nil.symm
  | case2 k value rest behind hPair hAfter longer ih =>
      have hRest : behind.after = rest :=
        after_read_of_more hAfter
      rcases peek_eq_some_iff.mp hPair with ⟨more, hMore⟩
      have hQuote : rest = q :: more := hRest.symm.trans hMore
      rw [ih, after_read_of_more hMore, hAfter, hQuote,
        throughLoneQuote, if_pos rfl, if_pos rfl, readOn_cons,
        readOn_cons]
  | case3 k value rest behind hLone hAfter =>
      have hRest : behind.after = rest :=
        after_read_of_more hAfter
      have hLast : rest.head? ≠ some q := hRest ▸ hLone
      rw [hAfter, throughLoneQuote_cons_self hLast,
        readOn_cons, readOn_nil]
  | case4 k value c rest hAfter longer behind hOther ih =>
      have hRest : behind.after = rest :=
        after_read_of_more hAfter
      rw [ih, hRest, hAfter,
        throughLoneQuote_cons_of_ne hOther, readOn_cons]

end Cursor

------------------------------------------------------------
-- Rules
------------------------------------------------------------

/- A cursor reads the word that its text begins with. -/
theorem WordRule.next_eq_take
    (r : WordRule)
    (members : CharSet)
    (k : Cursor) :
    r.next members k = k.take (r.read members k.after) := by
  rw [next, Cursor.nextRun_eq_take]
  cases r with
  | plain => rfl
  | keywords =>
      unfold read
      dsimp only [Cursor.take]
      split <;> rfl

/- A cursor reads a quotation, whatever opens it. -/
theorem QuoteRule.next_eq_take
    (r : QuoteRule)
    (k : Cursor) :
    r.next k = k.take (readQuoted r k.after) := by
  unfold next
  rw [Cursor.next_eq]
  cases hAfter : k.after with
  | nil =>
      have hPeek : k.peek = none := by
        rw [Cursor.peek, hAfter]
        rfl
      have hRead : readQuoted r [] = ⟨.quoted, []⟩ := by
        cases r <;> rfl
      have hAhead : k.ahead = k.place := by
        rw [Cursor.ahead, hAfter]
      rw [hPeek, Cursor.read_of_end hAfter, hRead,
        Cursor.take, hAhead]
      rfl
  | cons q rest =>
      have hPeek : k.peek = some q :=
        Cursor.peek_eq_some_iff.mpr ⟨rest, hAfter⟩
      have hRest : k.read.after = rest :=
        Cursor.after_read_of_more hAfter
      rw [hPeek]
      dsimp only
      rw [Cursor.place_read]
      cases r with
      | plain =>
          dsimp only
          rw [Cursor.readQuoted_eq, hRest, Cursor.readOn,
            ← String.ofList_cons]
          rfl
      | doubled =>
          dsimp only
          rw [Cursor.readDoubled_eq, hRest, readQuoted_doubled,
            Cursor.readOn, ← String.ofList_cons]
          rfl

namespace Rules

/-
  Whatever a cursor is in front of, it reads by a rule what
  the rule reads from the front of the text.
-/
theorem next_eq_take
    {r : Rules}
    {k : Cursor}
    (hFirsts : r.symbols.MarksFirsts)
    (hSettled : k.IsSettled)
    (role : Role) :
    r.next role k = k.take (r.read role k.after) := by
  cases role with
  | whitespace => exact k.nextRun_eq_take r.blanks .whitespace
  | word => exact r.word.next_eq_take r.wordChars k
  | number => exact r.number.next_eq_take hFirsts hSettled
  | quote => exact r.quote.next_eq_take k
  | comment => exact r.comment.next_eq_take hFirsts hSettled
  | symbol => exact SymbolTree.next_eq_take hFirsts hSettled

end Rules

------------------------------------------------------------
-- What a Token Takes
------------------------------------------------------------

/-
  A token is the text between two cursors, the second of which
  tells all that it would had it come from the start.  Its
  place is that of the first character behind the first cursor.
-/
structure Token.Spans
    (t : Token)
    (k last : Cursor) : Prop where
  forth : k.offset ≤ last.offset
  settled : last = .past k.text last.offset
  value :
    t.value =
      String.ofList
        ((k.text.drop k.offset).take (last.offset - k.offset))
  position : t.position = Cursor.placeAt k.text k.offset

namespace Cursor

variable {k : Cursor}

/- The text to come is what is left behind the offset. -/
theorem drop_offset
    (k : Cursor) :
    k.text.drop k.offset = k.after := by
  rw [text, offset]
  exact List.drop_left' List.length_reverse

/- A settled cursor counts on from its offset. -/
theorem IsSettled.skip_eq
    (hSettled : k.IsSettled)
    (m : Nat) :
    k.skip m = past k.text (k.offset + m) :=
  calc k.skip m
    _ = (past k.text k.offset).skip m :=
        congrArg (fun c : Cursor => c.skip m) hSettled
    _ = past k.text (k.offset + m) := skip_skip _ _ _

/- A cursor counts the characters that it passes. -/
theorem IsSettled.offset_skip
    (hSettled : k.IsSettled)
    {m : Nat}
    (hInside : m ≤ k.after.length) :
    (k.skip m).offset = k.offset + m := by
  have hLength : k.text.length = k.offset + k.after.length := by
    rw [text, offset, List.length_append, List.length_reverse]
  rw [hSettled.skip_eq, offset_past, hLength]
  exact Nat.min_eq_left (Nat.add_le_add_left hInside _)

/- A piece in front of a cursor is taken as it stands. -/
theorem spans_take
    {p : Piece}
    (hSettled : k.IsSettled)
    (hFront : p.text <+: k.after) :
    (k.take p).1.Spans k (k.take p).2 := by
  have hOffset :
      (k.take p).2.offset = k.offset + p.text.length :=
    hSettled.offset_skip hFront.length_le
  refine ⟨?_, ?_, ?_, ?_⟩
  · rw [hOffset]
    exact Nat.le_add_right _ _
  · rw [hOffset]
    exact hSettled.skip_eq _
  · rw [hOffset, Nat.add_sub_cancel_left, drop_offset,
      ← List.prefix_iff_eq_take.mp hFront]
    rfl
  · exact (congrArg ahead hSettled).trans (ahead_past _ _)

end Cursor

/-
  Wherever a cursor stands in a text, and whatever comes next,
  it reads by a rule what the rule finds in front of the text
  to come.  This is exactly the text between the cursor and the
  one that it leaves; the two are the same if the token is
  empty.  It holds for any symbols and any sets of characters
  that the rule may turn to.
-/
theorem Rules.next_spans
    (r : Rules)
    (entries : List (List Char × TokenKind))
    (role : Role)
    (text : List Char)
    (n : Nat) :
    let rules := { r with symbols := .ofEntries entries }
    let k : Cursor := .past text n
    rules.next role k =
        k.take (rules.read role (text.drop n)) ∧
      (rules.next role k).1.Spans k (rules.next role k).2 := by
  intro rules k
  have hSettled := Cursor.isSettled_past text n
  have hFirsts := SymbolTree.marksFirsts_ofEntries entries
  have hNext := rules.next_eq_take hFirsts hSettled role
  constructor
  · rw [hNext, Cursor.after_past]
  · rw [hNext]
    exact Cursor.spans_take hSettled
      (rules.read_isPrefix role k.after)

end Formula

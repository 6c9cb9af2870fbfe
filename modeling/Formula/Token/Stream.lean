import Formula.Text.Cursor
import Formula.Token.Tokenizer

/-
  The tokens of a text, one after the other.

  After the last character comes one token that marks the end
  of the text, and then nothing.

  Key definitions include:
    * `TokenStream`
    * `TokenStream.next`
    * `TokenStream.rest`
    * `Tokenizer.tokens`
-/

namespace Formula

------------------------------------------------------------
-- Reading with a Cursor
------------------------------------------------------------

namespace Cursor

/- Read a piece as a token, and move past it. -/
def take
    (k : Cursor)
    (p : Piece) : Token × Cursor :=
  (⟨p.kind, String.ofList p.text, k.ahead⟩,
    k.skip p.text.length)

end Cursor

------------------------------------------------------------
-- Streams
------------------------------------------------------------

/-
  A tokenizer at work: the cursor in its text, and whether
  the end of the text was announced last.
-/
structure TokenStream where
  tokenizer : Tokenizer
  cursor : Cursor
  ended : Bool

namespace TokenStream

/- The stream of the tokens of a text. -/
def ofText
    (t : Tokenizer)
    (text : List Char) : TokenStream :=
  ⟨t, .ofList text, false⟩

/- Return to the start of the text. -/
def reset
    (s : TokenStream) : TokenStream :=
  ⟨s.tokenizer, s.cursor.reset, false⟩

/- The stream past some characters. -/
def past
    (s : TokenStream)
    (n : Nat) : TokenStream :=
  ⟨s.tokenizer, s.cursor.skip n, false⟩

/- The token that marks the end of the text. -/
def eofToken
    (s : TokenStream) : Token :=
  ⟨.eof, "", s.cursor.ahead⟩

/-
  The next token that the options keep, if any is left, and
  the stream behind it.
-/
def next
    (s : TokenStream) : Option Token × TokenStream :=
  match _h : s.cursor.after with
  | [] =>
      let last : TokenStream := ⟨s.tokenizer, s.cursor, true⟩
      if s.ended || s.tokenizer.options.skipEof then
        (none, last)
      else (some s.eofToken, last)
  | c :: rest =>
      let p := s.tokenizer.first c rest
      let behind := s.past p.text.length
      if s.tokenizer.options.skips p.kind then behind.next
      else
        let value := s.tokenizer.valueOf c p
        let token : Token :=
          ⟨p.kind, String.ofList value, s.cursor.ahead⟩
        (some (s.tokenizer.options.adjust token),
          ⟨s.tokenizer, behind.cursor, p.kind == .eof⟩)
termination_by s.cursor.after.length
decreasing_by
  have hPos := s.tokenizer.first_text_length_pos c rest
  simp only [past, Cursor.after_skip, _h, List.length_drop,
    List.length_cons]
  omega

/-
  A measure that every token lowers: twice the characters to
  come, and one while the end has not been announced.
-/
def bound
    (s : TokenStream) : Nat :=
  2 * s.cursor.after.length + if s.ended then 0 else 1

/- Characters that are passed lower the bound. -/
theorem bound_past_first_lt
    (s : TokenStream)
    (c : Char)
    (rest : List Char)
    (hAfter : s.cursor.after = c :: rest) :
    (s.past (s.tokenizer.first c rest).text.length).bound <
      s.bound := by
  have hPos := s.tokenizer.first_text_length_pos c rest
  simp only [bound, past, Cursor.after_skip, hAfter,
    List.length_drop, List.length_cons]
  simp only [Bool.false_eq_true, if_false]
  split <;> omega

/- Every token brings the stream closer to its end. -/
theorem bound_next_lt
    (s : TokenStream)
    (token : Token)
    (h : s.next.1 = some token) :
    s.next.2.bound < s.bound := by
  fun_induction next s with
  | case1 s hAfter last hEnded => simp at h
  | case2 s hAfter last hEnded =>
      simp only [Bool.or_eq_true, not_or] at hEnded
      simp [bound, last, hAfter, hEnded.1]
  | case3 s c rest hAfter p behind hSkip ih =>
      exact Nat.lt_trans (ih h)
        (s.bound_past_first_lt c rest hAfter)
  | case4 s c rest hAfter p behind hSkip value token' =>
      refine Nat.lt_of_le_of_lt ?_
        (s.bound_past_first_lt c rest hAfter)
      simp only [bound, behind, past, p]
      split <;> simp

/- The tokens that are left, and the stream behind them. -/
def drain
    (s : TokenStream) : List Token × TokenStream :=
  match _h : s.next with
  | (none, behind) => ([], behind)
  | (some token, behind) =>
      let (tokens, last) := behind.drain
      (token :: tokens, last)
termination_by s.bound
decreasing_by
  have hLess := s.bound_next_lt token (by rw [_h])
  rw [_h] at hLess
  exact hLess

/- The tokens that are left. -/
def rest
    (s : TokenStream) : List Token :=
  s.drain.1

end TokenStream

------------------------------------------------------------
-- Whole Texts
------------------------------------------------------------

/- The tokens of a text. -/
def Tokenizer.tokens
    (t : Tokenizer)
    (text : String) : List Token :=
  (TokenStream.ofText t text.toList).rest

end Formula

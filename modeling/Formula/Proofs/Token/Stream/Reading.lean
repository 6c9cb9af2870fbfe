import Formula.Proofs.Token.Stream
import Formula.Token.Preset

/-
  Streams that are read and reset.

  What a stream has given and what is left of it always make up
  the tokens of its text.  A token moves from the one to the
  other, and a reset puts all of them back.

  Key definitions include:
    * `TokenStream.Call`
    * `TokenStream.Reading`
    * `TokenStream.Reading.performAll`
    * `TokenStream.Reading.Covers`

  Main statements:
    * `TokenStream.toList_next_append_rest`
    * `TokenStream.Reading.Covers.performAll`
    * `TokenStream.Reading.restarts_and_ends`
-/

namespace Formula

namespace TokenStream

variable {t : Tokenizer}
variable {text : List Char}

------------------------------------------------------------
-- One Token
------------------------------------------------------------

/- A stream keeps its tokenizer. -/
theorem tokenizer_next
    (s : TokenStream) :
    s.next.2.tokenizer = s.tokenizer := by
  fun_induction next s with
  | case1 s hAfter last hEnded => rfl
  | case2 s hAfter last hEnded => rfl
  | case3 s c rest hAfter p behind hSkip ih => exact ih
  | case4 s c rest hAfter p behind hSkip value token => rfl

/- A stream keeps its text. -/
theorem text_next
    (s : TokenStream) :
    s.next.2.cursor.text = s.cursor.text := by
  fun_induction next s with
  | case1 s hAfter last hEnded => rfl
  | case2 s hAfter last hEnded => rfl
  | case3 s c rest hAfter p behind hSkip ih =>
      exact ih.trans (Cursor.text_skip _ _)
  | case4 s c rest hAfter p behind hSkip value token =>
      exact Cursor.text_skip _ _

/- The next token, if there is one, is the first that is left. -/
theorem toList_next_append_rest
    (s : TokenStream) :
    s.next.1.toList ++ s.next.2.rest = s.rest := by
  cases hGiven : s.next with
  | mk given behind =>
      cases given with
      | none =>
          rw [drain_of_none hGiven,
            drain_of_none (next_of_next_none hGiven)]
          rfl
      | some token =>
          rw [drain_of_some hGiven]
          rfl

theorem head?_rest
    (s : TokenStream) :
    s.rest.head? = s.next.1 := by
  cases hGiven : s.next with
  | mk given behind =>
      cases given with
      | none =>
          rw [drain_of_none hGiven]
          rfl
      | some token =>
          rw [drain_of_some hGiven]
          rfl

/- A stream that is reset is at the start of its text. -/
theorem reset_eq
    (s : TokenStream) :
    s.reset = ofText s.tokenizer s.cursor.text := rfl

------------------------------------------------------------
-- Calls
------------------------------------------------------------

/- What is asked of a stream. -/
inductive Call where
  | next
  | reset
deriving DecidableEq

/-
  A stream with the tokens that it gave since it was started,
  or reset for the last time.
-/
structure Reading where
  stream : TokenStream
  given : List Token

namespace Reading

/- Begin to read a text. -/
def ofText
    (t : Tokenizer)
    (text : List Char) : Reading :=
  ⟨.ofText t text, []⟩

/- The stream after a call, and what it has given. -/
def perform
    (r : Reading) : Call → Reading
  | .next =>
      ⟨r.stream.next.2, r.given ++ r.stream.next.1.toList⟩
  | .reset => ⟨r.stream.reset, []⟩

/- The stream after some calls, one after the other. -/
def performAll
    (r : Reading)
    (calls : List Call) : Reading :=
  calls.foldl perform r

/-
  The stream reads a text, whose tokens are those that it gave
  and those that are left.
-/
structure Covers
    (r : Reading)
    (t : Tokenizer)
    (text : List Char) : Prop where
  tokenizer_eq : r.stream.tokenizer = t
  text_eq : r.stream.cursor.text = text
  tokens_eq :
    r.given ++ r.stream.rest = (TokenStream.ofText t text).rest

variable {r : Reading}

theorem covers_ofText
    (t : Tokenizer)
    (text : List Char) :
    (ofText t text).Covers t text where
  tokenizer_eq := rfl
  text_eq := rfl
  tokens_eq := rfl

/- A stream that is reset reads its text anew. -/
theorem Covers.perform_reset
    (hCovers : r.Covers t text) :
    r.perform .reset = ofText t text := by
  rw [perform, reset_eq, hCovers.tokenizer_eq, hCovers.text_eq]
  rfl

theorem Covers.perform
    (hCovers : r.Covers t text)
    (call : Call) :
    (r.perform call).Covers t text := by
  cases call with
  | next =>
      constructor
      · exact (tokenizer_next _).trans hCovers.tokenizer_eq
      · exact (text_next _).trans hCovers.text_eq
      · rw [← hCovers.tokens_eq, Reading.perform,
          List.append_assoc, toList_next_append_rest]
  | reset =>
      rw [hCovers.perform_reset]
      exact covers_ofText t text

theorem Covers.performAll
    (hCovers : r.Covers t text)
    (calls : List Call) :
    (r.performAll calls).Covers t text := by
  induction calls generalizing r with
  | nil => exact hCovers
  | cons call calls ih => exact ih (hCovers.perform call)

/- The next token is the one behind those that were given. -/
theorem Covers.next_eq
    (hCovers : r.Covers t text) :
    r.stream.next.1 =
      (TokenStream.ofText t text).rest[r.given.length]? := by
  rw [← hCovers.tokens_eq,
    List.getElem?_append_right (Nat.le_refl _), Nat.sub_self,
    ← head?_rest, List.head?_eq_getElem?]

/- A stream that is at its end stays there until it is reset. -/
theorem next_performAll_of_none
    (hEnd : r.stream.next.1 = none)
    {calls : List Call}
    (hCalls : Call.reset ∉ calls) :
    (r.performAll calls).stream.next.1 = none := by
  induction calls generalizing r with
  | nil => exact hEnd
  | cons call calls ih =>
      rcases not_or.mp (mt List.mem_cons.mpr hCalls) with
        ⟨hFirst, hRest⟩
      cases call with
      | next =>
          have hNext : r.stream.next = (none, r.stream.next.2) :=
            Prod.ext hEnd rfl
          have hStill := next_of_next_none hNext
          apply ih _ hRest
          exact congrArg Prod.fst hStill
      | reset => exact absurd rfl hFirst

/-
  However a stream is read and reset, the tokens it gave since
  its last reset are the first ones of its text, with their
  places, and the next one is the one behind these.  Once there
  is none, there is none until the stream is reset; then it
  starts over.
-/
theorem restarts_and_ends
    (t : Tokenizer)
    (text : String)
    (calls : List Call) :
    let r := (ofText t text.toList).performAll calls
    r.given <+: t.tokens text ∧
    r.stream.next.1 = (t.tokens text)[r.given.length]? ∧
    (r.stream.next.1 = none →
      ∀ later, Call.reset ∉ later →
        ((r.perform .next).performAll later).stream.next.1 =
          none) ∧
    r.perform .reset = ofText t text.toList := by
  intro r
  have hCovers : r.Covers t text.toList :=
    (covers_ofText t text.toList).performAll calls
  refine ⟨⟨_, hCovers.tokens_eq⟩, hCovers.next_eq, ?_,
    hCovers.perform_reset⟩
  intro hEnd later hLater
  have hCalls : Call.reset ∉ Call.next :: later := by
    intro hMem
    cases hMem with
    | tail _ hMem => exact hLater hMem
  exact next_performAll_of_none hEnd hCalls

/- A tokenizer with a symbol that marks an end. -/
def marking : Tokenizer :=
  { Tokenizer.generic with
    rules :=
      { Tokenizer.generic.rules with
        symbols := .ofEntries [(['!'], .eof)] }
    options := { Options.none with skipWhitespace := true } }

/-
  A symbol of the kind that marks the end takes the place of
  the mark when it comes last, and not before.
-/
theorem restarts_and_ends_marked :
    let r := (ofText marking "a! !".toList).performAll
      [.next, .reset, .next, .next, .next]
    (r.given.map Token.value = ["a", "!", "!"]) ∧
    r.stream.next.1 = none ∧
    Call.reset ∉ [Call.next, .next] ∧
    ((r.perform .next).performAll
      [.next, .next]).stream.next.1 = none := by
  intro r
  have hEnd : r.stream.next.1 = none := by
    decide +kernel
  refine ⟨by decide +kernel, hEnd, by decide, ?_⟩
  exact (restarts_and_ends marking "a! !"
    [.next, .reset, .next, .next, .next]).2.2.1 hEnd
      [.next, .next] (by decide)

end Reading

end TokenStream

end Formula

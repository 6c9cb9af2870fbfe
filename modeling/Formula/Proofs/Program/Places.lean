import Formula.Proofs.Grammar.Localisation
import Formula.Proofs.Program.EndPosition
import Formula.Proofs.Program.StackSafety
import Formula.Proofs.Token.Order
import Mathlib.Logic.ExistsUnique

/-
  The places that programs and errors refer to.

  The tokens of a source stand at later and later places, so
  that a position which is that of a token is that of no other
  one.  Every instruction has such a position.  So has every
  error, unless it is found behind all of the tokens or tells
  its position itself.

  Key definitions include:
    * `Position.NamesPlace`

  Main statements:
    * `Derivation.position_mem_of_mem_code`
    * `Program.namesPlace_of_mem`
    * `Program.positions_identify`
-/

namespace Formula

/-
  A position is that of one token of a source only, and of one
  character only that has a column of its own.
-/
structure Position.NamesPlace
    (source : String)
    (p : Position) : Prop where
  token :
    ∃! n : Nat, ((Tokenizer.parsing.tokens source).map
      Token.position)[n]? = some p
  character :
    ∃! n, Cursor.HasColumn source.toList n ∧
      Cursor.placeAt source.toList n = p

------------------------------------------------------------
-- Positions of Lexemes
------------------------------------------------------------

namespace Lexeme

variable {tokens : List Token}
variable {ls : List Lexeme}
variable {f : SyntaxError}

/- A token without a meaning is an error where it stands. -/
theorem position_of_ofToken?_error
    {token : Token}
    (hError : ofToken? token = .error f) :
    f.position = token.position := by
  unfold ofToken? at hError
  split at hError
  · cases hError
  · cases hError
    rfl

/- Lexemes stand where their tokens do. -/
theorem map_position_of_mapM
    (hLexemes : tokens.mapM ofToken? = .ok ls) :
    ls.map Lexeme.position = tokens.map Token.position := by
  induction tokens generalizing ls with
  | nil =>
      cases hLexemes
      rfl
  | cons token tokens ih =>
      rw [List.mapM_cons] at hLexemes
      rcases Outcome.bind_eq_ok_iff.mp hLexemes with
        ⟨l, hFirst, hOthers⟩
      rcases Outcome.bind_eq_ok_iff.mp hOthers with
        ⟨rest, hRest, hResult⟩
      rcases exists_content_of_ofToken? hFirst with ⟨_, rfl⟩
      cases hResult
      rw [List.map_cons, List.map_cons, ih hRest]

/- Of several tokens the error is that of one. -/
theorem exists_token_of_mapM_error
    (hError : tokens.mapM ofToken? = .error f) :
    ∃ token ∈ tokens, token.position = f.position := by
  induction tokens with
  | nil => cases hError
  | cons token tokens ih =>
      rw [List.mapM_cons] at hError
      cases hFirst : ofToken? token with
      | error g =>
          rw [hFirst] at hError
          cases hError
          exact ⟨token, List.mem_cons_self,
            (position_of_ofToken?_error hFirst).symm⟩
      | ok l =>
          rw [hFirst, Outcome.ok_bind] at hError
          cases hRest : tokens.mapM ofToken? with
          | error g =>
              rw [hRest] at hError
              cases hError
              rcases ih hRest with ⟨other, hMem, hPosition⟩
              exact ⟨other, List.mem_cons_of_mem _ hMem,
                hPosition⟩
          | ok rest =>
              rw [hRest] at hError
              cases hError

/- A lexeme stands at a token. -/
theorem exists_token_of_mem
    (hLexemes : ofTokens? tokens = .ok ls)
    {l : Lexeme}
    (hMem : l ∈ ls) :
    ∃ token ∈ tokens, token.position = l.position := by
  have hPositions := map_position_of_mapM hLexemes
  have hPosition : l.position ∈ ls.map Lexeme.position :=
    List.mem_map_of_mem hMem
  rw [hPositions] at hPosition
  rcases List.mem_map.mp hPosition with ⟨token, hToken, hSame⟩
  exact ⟨token, (List.mem_filter.mp hToken).1, hSame⟩

/- Lexemes stand at later and later places. -/
theorem pairwise_of_ofTokens?
    (hTokens :
      tokens.Pairwise fun a b =>
        a.position.Precedes b.position)
    (hLexemes : ofTokens? tokens = .ok ls) :
    ls.Pairwise fun a b => a.position.Precedes b.position := by
  have hPositions := map_position_of_mapM hLexemes
  have hMeaningful :=
    List.pairwise_map.mpr (hTokens.filter fun token =>
      !isIgnored token.kind)
  rw [← hPositions] at hMeaningful
  exact List.pairwise_map.mp hMeaningful

end Lexeme

------------------------------------------------------------
-- Positions of Instructions
------------------------------------------------------------

namespace Derivation

/-
  An instruction has the position of a lexeme.  Which one it
  is depends on the rule, but it is always one of the phrase.
-/
theorem position_mem_of_mem_code
    {s : Phrase}
    (d : Derivation s)
    {p : Position}
    (hMem : p ∈ d.code.map Instruction.position) :
    p ∈ d.yield.map Lexeme.position := by
  induction d with
  | constant | null | reference => exact hMem
  | noArgument | noAccess | noLink => cases hMem
  | _ =>
      -- The other rules only put phrases and lexemes together.
      simp only [code, yield, Instruction.constant,
        Instruction.call, Instruction.unary, Instruction.binary,
        List.map_append, List.map_cons, List.map_nil,
        List.mem_append, List.mem_cons] at hMem ⊢
      grind

end Derivation

------------------------------------------------------------
-- Positions of Programs and Errors
------------------------------------------------------------

namespace Program

open Tokenizer

variable {source : String}
variable {p : Program}
variable {ls : List Lexeme}
variable {l : Lexeme}

/- The position of a token names one place. -/
theorem namesPlace_of_mem
    {token : Token}
    (hMem : token ∈ parsing.tokens source) :
    token.position.NamesPlace source := by
  constructor
  · have hPositions :
        ((parsing.tokens source).map Token.position).Nodup :=
      List.pairwise_map.mpr
        ((pairwise_parsing_tokens source).imp
          Position.Precedes.ne)
    have hPosition :
        token.position ∈
          (parsing.tokens source).map Token.position :=
      List.mem_map_of_mem hMem
    rcases List.getElem?_of_mem hPosition with ⟨n, hIndex⟩
    refine ⟨n, hIndex, ?_⟩
    intro m hSame
    have hInside := (List.getElem?_eq_some_iff.mp hSame).1
    exact (List.getElem?_inj hInside hPositions).mp
      (hSame.trans hIndex.symm)
  · rcases exists_place_of_mem_parsing hMem with
      ⟨n, hColumn, hPlace⟩
    refine ⟨n, ⟨hColumn, hPlace⟩, ?_⟩
    rintro m ⟨hColumn', hPlace'⟩
    exact Cursor.eq_of_placeAt_eq hColumn' hColumn
      (hPlace'.trans hPlace.symm)

/- The position of a lexeme names one place. -/
theorem namesPlace_of_lexeme
    (hLexemes :
      Lexeme.ofTokens? (parsing.tokens source) = .ok ls)
    (hMem : l ∈ ls) :
    l.position.NamesPlace source := by
  rcases Lexeme.exists_token_of_mem hLexemes hMem with
    ⟨token, hToken, hPosition⟩
  rw [← hPosition]
  exact namesPlace_of_mem hToken

/- The position of an instruction names one place. -/
theorem namesPlace_of_instruction
    (hParse : parse source = .ok p)
    {i : Instruction}
    (hMem : i ∈ p.instructions) :
    i.position.NamesPlace source := by
  rcases Outcome.bind_eq_ok_iff.mp hParse with
    ⟨ls, hLexemes, hProgram⟩
  rcases exists_ofLexemes?_iff.mp ⟨p, hProgram⟩ with ⟨d, rfl⟩
  have hInstruction : i ∈ d.code := by
    rw [← instructions_eq_code hProgram]
    exact hMem
  have hPosition := d.position_mem_of_mem_code
    (List.mem_map_of_mem hInstruction)
  rcases List.mem_map.mp hPosition with ⟨l, hLexeme, hSame⟩
  rw [← hSame]
  exact namesPlace_of_lexeme hLexemes hLexeme

/-
  An evaluation that fails tells the place of an instruction,
  unless what this instruction uses tells another one.  Only
  values that are left over tell none.
-/
theorem exists_position_of_failure
    (hParse : parse source = .ok p)
    {env : Environment}
    {f : Failure}
    (hFailed : evaluate p.instructions env = .error f) :
    (∃ q, f.position = some q ∧
      (q.NamesPlace source ∨
        ∃ i ∈ p.instructions, ∃ s g,
          i.step env s = .error g ∧ g.position = some q)) ∨
    f.position = none ∧ ¬ HasCountableCalls source := by
  rcases exists_expr_of_parse hParse with
    ⟨e, hCode, hCountable⟩
  cases hRun : Machine.run env p.instructions [] with
  | ok s =>
      rw [evaluate, hRun] at hFailed
      rcases Machine.exists_message_of_finish hFailed with
        ⟨message, rfl⟩
      refine .inr ⟨rfl, fun hCalls => ?_⟩
      -- One value would be left, so that nothing had failed.
      rw [hCode] at hRun
      rcases e.exists_value_of_run env (hCountable hCalls) hRun
        with ⟨v, rfl⟩
      cases hFailed
  | error g =>
      rw [evaluate, hRun] at hFailed
      cases hFailed
      rcases Machine.exists_failing_step env _ _ _ hRun with
        ⟨before, i, after, s, g, hSplit, _, hStep, rfl⟩
      have hMem : i ∈ p.instructions := by
        rw [hSplit]
        exact List.mem_append_right _ List.mem_cons_self
      left
      cases hOwn : g.position with
      | none =>
          refine ⟨i.position, ?_, .inl ?_⟩
          · rw [Failure.locate, hOwn]
            rfl
          · exact namesPlace_of_instruction hParse hMem
      | some q =>
          refine ⟨q, ?_, .inr ⟨i, hMem, s, g, hStep, hOwn⟩⟩
          rw [Failure.locate, hOwn]
          rfl

/-
  A syntax error is reported at the place of a token, unless
  it is found behind all lexemes.
-/
theorem namesPlace_or_eq_endOf
    {f : SyntaxError}
    (hParse : parse source = .error f) :
    f.position.NamesPlace source ∨
      ∃ ls,
        Lexeme.ofTokens? (parsing.tokens source) = .ok ls ∧
        stop? ls = some ls.length ∧
        f.position = endOf ls := by
  cases hLexemes :
      Lexeme.ofTokens? (parsing.tokens source) with
  | error g =>
      rw [parse, ofTokens?, hLexemes] at hParse
      cases hParse
      rcases Lexeme.exists_token_of_mapM_error hLexemes with
        ⟨token, hToken, hPosition⟩
      rw [← hPosition]
      exact .inl
        (namesPlace_of_mem (List.mem_filter.mp hToken).1)
  | ok ls =>
      have hError := ofLexemes?_of_parse_error hLexemes hParse
      rcases stop?_of_error hError with
        ⟨before, after, hSplit, hStop, hStands, _⟩
      have hPosition := hStands.position_eq
      cases hAfter : ls.drop before.length with
      | nil =>
          have hLength := congrArg List.length hSplit
          rw [Lexeme.length_numbered, List.length_append]
            at hLength
          have hEnd : before.length = ls.length :=
            Nat.le_antisymm
              (hLength ▸ Nat.le_add_right _ _)
              (List.drop_eq_nil_iff.mp hAfter)
          rw [hAfter] at hPosition
          rw [hEnd] at hStop
          exact .inr ⟨ls, rfl, hStop, hPosition⟩
      | cons l rest =>
          rw [hAfter] at hPosition
          have hMem : l ∈ ls.drop before.length := by
            rw [hAfter]
            exact List.mem_cons_self
          rw [hPosition]
          exact .inl (namesPlace_of_lexeme hLexemes
            (List.mem_of_mem_drop hMem))

/-
  The tokens of a source stand at later and later places, and
  so do its lexemes.  Hence the position of a token, of a
  lexeme, of an instruction and of an error that is reported
  at one of them names one place only.

  A syntax error may also be reported behind all lexemes, and
  a failure where the step that fails says, or nowhere when a
  call has too many arguments.
-/
theorem positions_identify
    (source : String) :
    ((parsing.tokens source).Pairwise fun a b =>
      a.position.Precedes b.position) ∧
    (∀ token ∈ parsing.tokens source,
      token.position.NamesPlace source) ∧
    (∀ ls,
      Lexeme.ofTokens? (parsing.tokens source) = .ok ls →
        (ls.Pairwise fun a b =>
          a.position.Precedes b.position) ∧
        ∀ l ∈ ls, l.position.NamesPlace source) ∧
    (∀ p, parse source = .ok p →
      (∀ i ∈ p.instructions, i.position.NamesPlace source) ∧
      ∀ env f, evaluate p.instructions env = .error f →
        (∃ q, f.position = some q ∧
          (q.NamesPlace source ∨
            ∃ i ∈ p.instructions, ∃ s g,
              i.step env s = .error g ∧
                g.position = some q)) ∨
        f.position = none ∧ ¬ HasCountableCalls source) ∧
    ∀ f, parse source = .error f →
      f.position.NamesPlace source ∨
        ∃ ls,
          Lexeme.ofTokens? (parsing.tokens source) = .ok ls ∧
          stop? ls = some ls.length ∧
          f.position = endOf ls := by
  have hOrder := pairwise_parsing_tokens source
  refine ⟨hOrder, ?_, ?_, ?_, ?_⟩
  · intro token hMem
    exact namesPlace_of_mem hMem
  · intro ls hLexemes
    refine ⟨Lexeme.pairwise_of_ofTokens? hOrder hLexemes, ?_⟩
    intro l hMem
    exact namesPlace_of_lexeme hLexemes hMem
  · intro p hParse
    refine ⟨?_, ?_⟩
    · intro i hMem
      exact namesPlace_of_instruction hParse hMem
    · intro env f hFailed
      exact exists_position_of_failure hParse hFailed
  · intro f hParse
    exact namesPlace_or_eq_endOf hParse

/- The lexemes of `a` and `)` on two lines. -/
def closedNameLexemes : List Lexeme :=
  [ ⟨.name "a", "a", ⟨1, 1⟩, ⟨1, 2⟩⟩,
    ⟨.mark .rightParen, ")", ⟨2, 1⟩, ⟨2, 2⟩⟩ ]

theorem lexemes_closedName :
    Lexeme.ofTokens? (parsing.tokens "a\n\r)") =
      .ok closedNameLexemes := by
  have hTokens :
      parsing.tokens "a\n\r)" =
        [ ⟨.word, "a", ⟨1, 1⟩⟩, ⟨.symbol, ")", ⟨2, 1⟩⟩ ] := by
    decide +kernel
  rw [hTokens]
  rfl

/- A sum on three lines, with a line break in quotes. -/
def brokenSum : String :=
  "a\n\r+\r'b\n'"

def brokenSumProgram : Program :=
  ⟨[ .reference "a" ⟨1, 1⟩,
      .constant (.string "b\n") ⟨3, 1⟩,
      .binary .add ⟨2, 1⟩ ], ["a"]⟩

theorem parse_brokenSum :
    parse brokenSum = .ok brokenSumProgram := by
  have hTokens :
      parsing.tokens brokenSum =
        [ ⟨.word, "a", ⟨1, 1⟩⟩, ⟨.symbol, "+", ⟨2, 1⟩⟩,
          ⟨.quoted, "b\n", ⟨3, 1⟩⟩ ] := by
    decide +kernel
  rw [parse, hTokens]
  rfl

/-
  Pairs of a line feed and a carriage return do not confuse
  the places of what is computed, nor that of an error.
-/
theorem positions_identify_brokenSum :
    parse brokenSum = .ok brokenSumProgram ∧
    (∀ i ∈ brokenSumProgram.instructions,
      i.position.NamesPlace brokenSum) ∧
    (∀ policy, ∃ q,
      evaluate brokenSumProgram.instructions
          ⟨fun _ => none, fun _ => none, policy⟩ =
        .error ⟨.variableNotFound "a", some q⟩ ∧
      (q.NamesPlace brokenSum ∨
        ∃ i ∈ brokenSumProgram.instructions, ∃ s g,
          i.step ⟨fun _ => none, fun _ => none, policy⟩ s =
            .error g ∧ g.position = some q)) ∧
    parse "a\n\r)" = .error ⟨.leftOver ")", ⟨2, 1⟩⟩ ∧
    Position.NamesPlace "a\n\r)" ⟨2, 1⟩ ∧
    ∀ l ∈ closedNameLexemes,
      l.position.NamesPlace "a\n\r)" := by
  have hParse :
      parse "a\n\r)" = .error ⟨.leftOver ")", ⟨2, 1⟩⟩ := by
    rw [parse, ofTokens?, lexemes_closedName]
    rfl
  rcases positions_identify brokenSum with ⟨_, _, _, hSum, _⟩
  rcases hSum _ parse_brokenSum with ⟨hPlaces, hFailures⟩
  rcases positions_identify "a\n\r)" with
    ⟨_, _, hLexemes, _, hClosed⟩
  refine ⟨parse_brokenSum, hPlaces, ?_, hParse, ?_,
    (hLexemes _ lexemes_closedName).2⟩
  · intro policy
    rcases hFailures ⟨fun _ => none, fun _ => none, policy⟩ _
      rfl with ⟨q, hPosition, hPlace⟩ | ⟨hNowhere, _⟩
    · cases hPosition
      exact ⟨⟨1, 1⟩, rfl, hPlace⟩
    · cases hNowhere
  · rcases hClosed _ hParse with hNames | hEnd
    · exact hNames
    · rcases hEnd with ⟨ls, hRead, hStop, _⟩
      rw [lexemes_closedName] at hRead
      cases hRead
      exact absurd hStop (by decide)

end Program

end Formula

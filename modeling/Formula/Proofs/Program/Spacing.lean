import Formula.Proofs.Grammar.Reposition
import Formula.Proofs.Program.Emission
import Formula.Proofs.Program.Source
import Formula.Proofs.Token.Spacing

/-
  Blanks between the tokens of a source change no program.

  What a source compiles to, or why it does not compile, is
  read from its meaningful tokens.  Their places only become
  the places of instructions and of errors.

  Key definitions include:
    * `Program.reposition`
    * `Program.unplaced`
    * `Token.substance`
    * `Token.spaced`

  Main statements:
    * `Expr.postfixForm_reposition`
    * `Program.unplaced_parse`
    * `Program.parse_spaced`
-/

namespace Formula

------------------------------------------------------------
-- Programs Elsewhere
------------------------------------------------------------

/- An instruction that comes from another place. -/
def Instruction.reposition
    (g : Position → Position)
    (i : Instruction) : Instruction :=
  ⟨i.opcode, i.payload, g i.position⟩

/- A program that comes from other places. -/
def Program.reposition
    (g : Position → Position)
    (p : Program) : Program :=
  ⟨p.instructions.map (Instruction.reposition g), p.names⟩

namespace Expr

variable (g : Position → Position)

theorem length_repositionAll
    (es : List Expr) :
    (repositionAll g es).length = es.length := by
  induction es with
  | nil => rfl
  | cons e es ih => exact congrArg (· + 1) ih

mutual

/- An expression elsewhere has the same instructions there. -/
theorem postfixForm_reposition
    (e : Expr) :
    (reposition g e).postfixForm =
      e.postfixForm.map (Instruction.reposition g) := by
  cases e with
  | constant v p => rfl
  | reference name p => rfl
  | call name arguments p =>
      rw [reposition, postfixForm, postfixForm,
        postfixForms_reposition arguments,
        length_repositionAll, List.map_append]
      rfl
  | unary op operand p =>
      rw [reposition, postfixForm, postfixForm,
        postfixForm_reposition operand, List.map_append]
      rfl
  | binary op lhs rhs p =>
      rw [reposition, postfixForm, postfixForm,
        postfixForm_reposition lhs, postfixForm_reposition rhs,
        List.map_append, List.map_append]
      rfl

theorem postfixForms_reposition
    (es : List Expr) :
    postfixForms (repositionAll g es) =
      (postfixForms es).map (Instruction.reposition g) := by
  cases es with
  | nil => rfl
  | cons e es =>
      rw [repositionAll, postfixForms, postfixForms,
        postfixForm_reposition e, postfixForms_reposition es,
        List.map_append]

end

mutual

/- An expression elsewhere has the same variables. -/
theorem names_reposition
    (e : Expr) :
    (reposition g e).names = e.names := by
  cases e with
  | constant v p => rfl
  | reference name p => rfl
  | call name arguments p =>
      exact namesOfAll_reposition arguments
  | unary op operand p => exact names_reposition operand
  | binary op lhs rhs p =>
      rw [reposition, names, names, names_reposition lhs,
        names_reposition rhs]

theorem namesOfAll_reposition
    (es : List Expr) :
    namesOfAll (repositionAll g es) = namesOfAll es := by
  cases es with
  | nil => rfl
  | cons e es =>
      rw [repositionAll, namesOfAll, namesOfAll,
        names_reposition e, namesOfAll_reposition es]

end

end Expr

namespace Program

/- An expression elsewhere compiles to a program from there. -/
theorem ofExpr_reposition
    (g : Position → Position)
    (e : Expr) :
    ofExpr (e.reposition g) = (ofExpr e).reposition g := by
  rw [ofExpr, e.postfixForm_reposition, e.names_reposition]
  rfl

end Program

------------------------------------------------------------
-- Programs without Places
------------------------------------------------------------

/- All places are one. -/
def Position.forget
    (_ : Position) : Position :=
  .start

/-
  What a compilation gives, up to places: a program that comes
  from no place in particular, or the cause of an error.
-/
def Program.unplaced
    (r : Except SyntaxError Program) :
    Except SyntaxCause Program :=
  (r.map (reposition .forget)).mapError SyntaxError.cause

/- What is wrong with some lexemes, or they without places. -/
def Lexeme.unplaced
    (r : Except SyntaxError Lexeme) :
    Except SyntaxCause Lexeme :=
  (r.map (reposition .forget)).mapError SyntaxError.cause

/- Where lexemes are does not matter up to places. -/
theorem Program.unplaced_ofLexemes?
    (g : Position → Position)
    (ls : List Lexeme) :
    unplaced (ofLexemes? (ls.map (Lexeme.reposition g))) =
      unplaced (ofLexemes? ls) := by
  by_cases hEmpty : ls = []
  · rw [hEmpty]
    rfl
  rw [ofLexemes?_eq, ofLexemes?_eq,
    Expr.ofLexemes?_reposition hEmpty]
  cases Expr.ofLexemes? ls with
  | error f => rfl
  | ok e =>
      have hTwice :
          ((ofExpr e).reposition g).reposition .forget =
            (ofExpr e).reposition .forget := by
        rw [reposition, reposition, reposition, List.map_map]
        rfl
      simp only [unplaced, Outcome.ok_map, Outcome.ok_mapError,
        ofExpr_reposition, hTwice]

------------------------------------------------------------
-- Meaningful Tokens
------------------------------------------------------------

namespace Token

/- The kinds and texts of the tokens that are no spacing. -/
def substance
    (tokens : List Token) : List Piece :=
  Piece.substance (tokens.map piece)

/- A text with a character between two parts of its tokens. -/
def spaced
    (before : List Token)
    (blank : Char)
    (after : List Token) : String :=
  String.ofList (joined before ++ blank :: joined after)

/- Without the end, tokens with a meaning are no spacing. -/
theorem map_piece_meaningful
    {tokens : List Token}
    (hOpen : ∀ token ∈ tokens, token.kind ≠ .eof) :
    (Lexeme.meaningful tokens).map piece =
      substance tokens := by
  have hSolid (token : Token) (hMem : token ∈ tokens) :
      (!Lexeme.isIgnored token.kind) = token.piece.isSolid := by
    have hKind := hOpen token hMem
    unfold Lexeme.isIgnored Piece.isSolid piece
    cases hToken : token.kind with
    | eof => exact absurd hToken hKind
    | _ => rfl
  rw [Lexeme.meaningful, List.filter_congr hSolid, substance,
    Piece.substance, List.filter_map]
  rfl

end Token

/- What a piece of a formula denotes, up to places. -/
def Piece.lexeme?
    (p : Piece) : Except SyntaxCause Lexeme :=
  Lexeme.unplaced
    (Lexeme.ofToken?
      (Tokenizer.parsing.decoded
        ⟨p.kind, String.ofList p.text, .start⟩))

/- What a token denotes does not depend on its place. -/
theorem Lexeme.unplaced_ofToken?
    (kind : TokenKind)
    (value : String)
    (p q : Position) :
    unplaced (ofToken? ⟨kind, value, p⟩) =
      unplaced (ofToken? ⟨kind, value, q⟩) := by
  have hContent :
      LexemeContent.ofToken? ⟨kind, value, p⟩ =
        LexemeContent.ofToken? ⟨kind, value, q⟩ := rfl
  rw [ofToken?, ofToken?, hContent]
  cases LexemeContent.ofToken? ⟨kind, value, q⟩ with
  | none => rfl
  | some content => rfl

/- What a token denotes is told by its kind and text. -/
theorem Token.lexeme?_piece
    (token : Token) :
    token.piece.lexeme? =
      Lexeme.unplaced
        (Lexeme.ofToken?
          (Tokenizer.parsing.decoded token)) := by
  rcases token with ⟨kind, value, position⟩
  rw [Piece.lexeme?, piece, String.ofList_toList,
    Tokenizer.decoded, Tokenizer.decoded]
  dsimp only
  split
  · exact Lexeme.unplaced_ofToken? _ _ _ _
  · exact Lexeme.unplaced_ofToken? _ _ _ _

namespace Program

/- Only lexemes without places count, up to places. -/
theorem unplaced_bind_ofLexemes?
    (r : Except SyntaxError (List Lexeme)) :
    unplaced (r >>= ofLexemes?) =
      (r.map (List.map (Lexeme.reposition .forget))).mapError
          SyntaxError.cause >>=
        fun ls => unplaced (ofLexemes? ls) := by
  cases r with
  | error f => rfl
  | ok ls => exact (unplaced_ofLexemes? .forget ls).symm

/-
  What a source compiles to, up to places, is told by its
  pieces that are neither white space nor comments.
-/
theorem unplaced_parse
    (source : String) :
    unplaced (parse source) =
      (Piece.substance
        (Tokenizer.expression.pieces source.toList)).mapM
          Piece.lexeme? >>=
        fun ls => unplaced (ofLexemes? ls) := by
  have hLexemes :
      Lexeme.ofTokens? (Tokenizer.parsing.tokens source) = _ :=
    Lexeme.ofTokens?_expressionWith rfl source
  have hEach :
      (fun token =>
        ((Lexeme.ofToken?
          (Tokenizer.parsing.decoded token)).map
            (Lexeme.reposition .forget)).mapError
              SyntaxError.cause) =
        Piece.lexeme? ∘ Token.piece :=
    funext fun token => token.lexeme?_piece.symm
  have hOpen :
      ∀ token ∈ Tokenizer.expression.rawTokens
        (.ofList source.toList), token.kind ≠ .eof :=
    fun _ hMem =>
      Tokenizer.kind_ne_eof_of_mem_rawTokens
        Tokenizer.isEofFree_expression hMem
  rw [parse, ofTokens?, hLexemes, unplaced_bind_ofLexemes?,
    Outcome.mapM_map_mapError, hEach, ← List.mapM_map,
    Token.map_piece_meaningful hOpen, Token.substance,
    Tokenizer.map_piece_rawTokens]
  rfl

end Program

------------------------------------------------------------
-- Spacing
------------------------------------------------------------

/- The tokens of a source are its pieces and its end. -/
theorem Token.substance_tokens
    (source : String) :
    substance (Tokenizer.expression.tokens source) =
      Piece.substance
          (Tokenizer.expression.pieces source.toList) ++
        [⟨.eof, []⟩] := by
  rw [Tokenizer.tokens_of_plain Tokenizer.isEofFree_expression
      rfl, substance, List.map_append,
    Tokenizer.map_piece_rawTokens, Piece.substance,
    List.filter_append]
  rfl

/-
  A blank between two tokens of a source changes no token that
  is neither white space nor a comment.  The source compiles to
  the same program, or fails for the same cause, up to places.
-/
theorem Program.parse_spaced
    (source : String)
    (before after : List Token)
    (mark : Token)
    (blank : Char)
    (hTokens :
      Tokenizer.expression.tokens source =
        before ++ after ++ [mark])
    (hMore : after ≠ [])
    (hBlank : blank ≤ ' ') :
    source.toList = Token.joined before ++ Token.joined after ∧
    Token.substance
        (Tokenizer.expression.tokens
          (Token.spaced before blank after)) =
      Token.substance (Tokenizer.expression.tokens source) ∧
    unplaced (parse (Token.spaced before blank after)) =
      unplaced (parse source) := by
  have hRaw :
      Tokenizer.expression.rawTokens (.ofList source.toList) =
        before ++ after := by
    rw [Tokenizer.tokens_of_plain Tokenizer.isEofFree_expression
      rfl] at hTokens
    exact List.append_inj_left' hTokens rfl
  have hPieces :
      Tokenizer.expression.pieces source.toList =
        before.map Token.piece ++ after.map Token.piece := by
    have hMap := Tokenizer.expression.map_piece_rawTokens
      (.ofList source.toList)
    rw [hRaw, List.map_append] at hMap
    exact hMap.symm
  have hText :
      source.toList =
        Piece.joined
          (before.map Token.piece ++ after.map Token.piece) := by
    rw [← hPieces, Tokenizer.joined_pieces]
  have hSame :
      Piece.substance
          (Tokenizer.expression.pieces
            (Token.spaced before blank after).toList) =
        Piece.substance
          (Tokenizer.expression.pieces source.toList) := by
    rw [hText] at hPieces ⊢
    rw [Token.spaced, String.toList_ofList, Token.joined_eq,
      Token.joined_eq]
    exact Tokenizer.substance_pieces_spaced hBlank hPieces
      (mt List.map_eq_nil_iff.mp hMore)
  refine ⟨?_, ?_, ?_⟩
  · rw [hText, Piece.joined_append, Token.joined_eq,
      Token.joined_eq]
  · rw [Token.substance_tokens, Token.substance_tokens, hSame]
  · rw [unplaced_parse, unplaced_parse, hSame]

/- The tokens of the line `1e5/x//a`. -/
def commentedLine : List Token :=
  [ ⟨.float, "1e5", ⟨1, 1⟩⟩, ⟨.symbol, "/", ⟨1, 4⟩⟩,
    ⟨.word, "x", ⟨1, 5⟩⟩, ⟨.comment, "//a", ⟨1, 6⟩⟩ ]

/- The tokens of the line `<'a''b'` behind it. -/
def quotedLine : List Token :=
  [ ⟨.whitespace, "\n", ⟨2, 0⟩⟩, ⟨.symbol, "<", ⟨2, 1⟩⟩,
    ⟨.quoted, "'a''b'", ⟨2, 2⟩⟩ ]

/-
  A tab goes to the comment in front of it, and none of the
  other tokens changes.
-/
theorem Program.parse_spaced_comment :
    Tokenizer.expression.tokens "1e5/x//a\n<'a''b'" =
      commentedLine ++ quotedLine ++ [⟨.eof, "", ⟨2, 7⟩⟩] ∧
    quotedLine ≠ [] ∧ '\t' ≤ ' ' ∧
    Token.spaced commentedLine '\t' quotedLine =
      "1e5/x//a\t\n<'a''b'" ∧
    Token.substance
        (Tokenizer.expression.tokens "1e5/x//a\t\n<'a''b'") =
      Token.substance
        (Tokenizer.expression.tokens "1e5/x//a\n<'a''b'") ∧
    unplaced (parse "1e5/x//a\t\n<'a''b'") =
      unplaced (parse "1e5/x//a\n<'a''b'") ∧
    (parse "1e5/x//a\n<'a''b'").isOk := by
  have hTokens :
      Tokenizer.expression.tokens "1e5/x//a\n<'a''b'" =
        commentedLine ++ quotedLine ++
          [⟨.eof, "", ⟨2, 7⟩⟩] := by
    decide +kernel
  have hMore : quotedLine ≠ [] := by decide
  have hBlank : '\t' ≤ ' ' := by decide
  have hSpaced :
      Token.spaced commentedLine '\t' quotedLine =
        "1e5/x//a\t\n<'a''b'" := by
    decide +kernel
  have hSame := parse_spaced _ commentedLine quotedLine _ '\t'
    hTokens hMore hBlank
  rw [hSpaced] at hSame
  exact ⟨hTokens, hMore, hBlank, hSpaced, hSame.2.1,
    hSame.2.2, by decide +kernel⟩

end Formula

import Formula.Proofs.Grammar.Parser
import Formula.Proofs.Outcome

/-
  The compiler writes the postfix form of what it reads.

  The compiler and the parser of trees read the same lexemes,
  and they fail in the same way.  Where the parser gives a
  tree, the compiler has written its postfix form behind what
  was written before, counted its arguments, and recorded the
  variables that were new.

  Key definitions include:
    * `Compilation.extend`
    * `Compiler.Writes`

  Main statements:
    * `foldl_addName`
    * `Compiler.arguments_eq`
    * `Compiler.writes_expression`
    * `Program.ofLexemes?_eq`
-/

namespace Formula

------------------------------------------------------------
-- Variables
------------------------------------------------------------

/- Names that are added one by one are those that are new. -/
theorem foldl_addName
    (names others : List String) :
    others.foldl addName names =
      names ++
        (others.filter fun name =>
          !names.contains name).eraseDups := by
  induction others generalizing names with
  | nil => simp
  | cons name others ih =>
      rw [List.foldl_cons, ih, addName]
      by_cases hKnown : names.contains name = true
      · have hOld : ¬ (!names.contains name) = true := by
          rw [hKnown]
          exact Bool.false_ne_true
        rw [if_pos hKnown, List.filter_cons, if_neg hOld]
      · have hNew : (!names.contains name) = true := by
          simpa using hKnown
        rw [if_neg hKnown, List.filter_cons, if_pos hNew,
          List.eraseDups_cons, List.filter_filter,
          List.append_assoc, List.singleton_append]
        congr 3
        apply List.filter_congr
        intro other _
        simp [Bool.beq_eq_decide_eq, Bool.and_comm]

theorem foldl_addName_nil
    (names : List String) :
    names.foldl addName [] = names.eraseDups := by
  have hAll :
      (names.filter fun name => !List.contains [] name) =
        names :=
    List.filter_eq_self.mpr fun _ _ => rfl
  rw [foldl_addName, hAll, List.nil_append]

------------------------------------------------------------
-- Compilations
------------------------------------------------------------

namespace Compilation

/- Read up to some lexemes, and write behind the rest. -/
def extend
    (c : Compilation)
    (is : List Instruction)
    (names : List String)
    (rest : List Lexeme) : Compilation where
  lexemes := rest
  instructions := c.instructions ++ is
  names := names.foldl addName c.names

variable (c : Compilation)
variable (is is' : List Instruction)
variable (names names' : List String)
variable (ls rest : List Lexeme)

@[simp] theorem lexemes_extend :
    (c.extend is names rest).lexemes = rest := rfl

@[simp] theorem goOn_extend :
    (c.extend is names ls).goOn rest =
      c.extend is names rest := rfl

/- Reading on is writing nothing. -/
theorem goOn_eq_extend :
    c.goOn rest = c.extend [] [] rest := by
  simp [goOn, extend]

@[simp] theorem emit_extend
    (i : Instruction) :
    (c.extend is names rest).emit i =
      c.extend (is ++ [i]) names rest := by
  simp [emit, extend, ← Array.toList_inj]

@[simp] theorem record_extend
    (name : String) :
    (c.extend is names rest).record name =
      c.extend is (names ++ [name]) rest := by
  simp [record, extend]

@[simp] theorem extend_extend :
    (c.extend is names ls).extend is' names' rest =
      c.extend (is ++ is') (names ++ names') rest := by
  simp [extend, ← Array.toList_inj]

/- An expression is read and written. -/
def write
    (e : Expr)
    (rest : List Lexeme) : Compilation :=
  c.extend e.postfixForm e.names rest

/- Several expressions are read and written. -/
def writeAll
    (es : List Expr)
    (rest : List Lexeme) : Compilation :=
  c.extend (Expr.postfixForms es) (Expr.namesOfAll es) rest

/- Where nothing is read, nothing is counted or written. -/
theorem writeAll_nil
    {c : Compilation}
    (hLeft : c.lexemes = ls)
    (count : Int32) :
    (count + Int32.ofNat 0, c.writeAll [] ls) = (count, c) := by
  subst hLeft
  exact congrArg (·, c) (Int32.add_zero count)

theorem writeAll_singleton
    (c : Compilation)
    (e : Expr)
    (rest : List Lexeme) :
    c.writeAll [e] rest = c.write e rest := by
  simp [writeAll, write, Expr.postfixForms, Expr.namesOfAll]

/- An expression in front of others is counted with them. -/
theorem writeAll_write
    (c : Compilation)
    (e : Expr)
    (es : List Expr)
    (ls rest : List Lexeme)
    (count : Int32) :
    (count + 1 + Int32.ofNat es.length,
        (c.write e ls).writeAll es rest) =
      (count + Int32.ofNat (e :: es).length,
        c.writeAll (e :: es) rest) := by
  rw [List.length_cons, Int32.ofNat_add, Int32.add_assoc,
    Int32.add_comm 1]
  exact congrArg (_, ·) (extend_extend c _ _ _ _ ls rest)

end Compilation

namespace Compiler

open Compilation

/- A compiler writes what a parser reads. -/
def Writes
    (compile : Compiler)
    (parse : Parser Expr) : Prop :=
  ∀ c, compile c =
    (parse c.lexemes).map fun found =>
      c.write found.1 found.2

variable {inner : Compiler}
variable {innerParse : Parser Expr}
variable {ending : Position}

------------------------------------------------------------
-- Chains
------------------------------------------------------------

section Chains

variable {operand : Compiler}
variable {operandParse : Parser Expr}
variable {link : Linker}

/- What is carried on is written behind what was before. -/
theorem carryOn_write
    (hOperand : Writes operand operandParse)
    (c : Compilation)
    (e : Expr)
    (n : Nat)
    (ls : List Lexeme) :
    carryOn operand link n (c.write e ls) =
      (Parser.carryOn operandParse link e n ls).map
        fun found => c.write found.1 found.2 := by
  induction n generalizing e ls with
  | zero => rfl
  | succ n ih =>
      rw [carryOn, Parser.carryOn, write, lexemes_extend]
      cases link ls with
      | none => rfl
      | some found =>
          rcases found with ⟨_ | _, p, rest⟩
          case join op =>
            dsimp only
            rw [goOn_extend, hOperand, lexemes_extend]
            cases operandParse rest with
            | error f => rfl
            | ok found =>
                rw [Except.map, Outcome.ok_bind,
                  Outcome.ok_bind, write, extend_extend,
                  emit_extend]
                exact ih (.binary op e found.1 p) found.2
          case test op =>
            dsimp only
            rw [goOn_extend, emit_extend]
            exact ih (.unary op e p) rest

theorem writes_chain
    (hOperand : Writes operand operandParse) :
    Writes (chain operand link)
      (Parser.chain operandParse link) := by
  intro c
  rw [chain, Parser.chain, hOperand]
  cases operandParse c.lexemes with
  | error f => rfl
  | ok found =>
      exact carryOn_write hOperand c found.1 _ found.2

end Chains

------------------------------------------------------------
-- Primaries
------------------------------------------------------------

/- A closing mark is passed, and nothing is written. -/
theorem close_extend
    (m : Mark)
    (cause : SyntaxCause)
    (c : Compilation)
    (is : List Instruction)
    (names : List String)
    (ls : List Lexeme) :
    close ending m cause (c.extend is names ls) =
      (Parser.close ending m cause ls).map
        fun passed => c.extend is names passed.2 := by
  rw [close, lexemes_extend]
  cases ls with
  | nil => rfl
  | cons l rest =>
      rw [Parser.close]
      dsimp only
      split
      · rfl
      · rfl

/-
  Arguments are written one behind the other, and counted as
  far as 32 bits go.
-/
theorem arguments_eq
    (hInner : Writes inner innerParse)
    (n : Nat)
    (count : Int32)
    (c : Compilation) :
    arguments inner n count c =
      (Parser.arguments innerParse n c.lexemes).map
        fun found =>
          (count + Int32.ofNat found.1.length,
            c.writeAll found.1 found.2) := by
  induction n generalizing count c with
  | zero => 
      exact congrArg Except.ok (writeAll_nil _ rfl count).symm
  | succ n ih =>
      rw [arguments]
      cases hLeft : c.lexemes with
      | nil =>
          exact congrArg Except.ok
            (writeAll_nil _ hLeft count).symm
      | cons l rest =>
          rw [Parser.arguments]
          dsimp only
          by_cases hEnd : l.mark? = some .rightParen
          · rw [if_pos hEnd, if_pos hEnd]
            exact congrArg Except.ok
              (writeAll_nil _ hLeft count).symm
          · rw [if_neg hEnd, if_neg hEnd, hInner c, hLeft]
            cases innerParse (l :: rest) with
            | error f => rfl
            | ok found =>
                rcases found with ⟨e, behind⟩
                rw [Except.map, Outcome.ok_bind,
                  Outcome.ok_bind]
                cases behind with
                | nil =>
                    rw [← writeAll_singleton]
                    rfl
                | cons m next =>
                    dsimp only [write, lexemes_extend]
                    by_cases hComma : m.mark? = some .comma
                    · rw [if_pos hComma, if_pos hComma,
                        goOn_extend, ih, lexemes_extend]
                      cases Parser.arguments innerParse n
                        next with
                      | error f => rfl
                      | ok found =>
                          exact congrArg Except.ok
                            (writeAll_write c e _ next _ count)
                    · rw [if_neg hComma, if_neg hComma,
                        ← write, ← writeAll_singleton]
                      rfl

/- A primary is written when what stands inside it is. -/
theorem writes_primary
    (hInner : Writes inner innerParse) :
    Writes (primary inner ending)
      (Parser.primary innerParse ending) := by
  intro c
  rw [primary]
  cases hLeft : c.lexemes with
  | nil => rfl
  | cons l rest =>
      rw [Parser.primary]
      dsimp only
      cases l.content with
      | constant v =>
          dsimp only
          rw [goOn_eq_extend, emit_extend]
          rfl
      | name name =>
          dsimp only
          by_cases hCall :
              rest.head?.bind Lexeme.mark? = some .leftParen
          · rw [if_pos hCall, if_pos hCall,
              arguments_eq hInner]
            change Except.map _
              (Parser.arguments innerParse rest.length
                rest.tail) >>= _ = _
            cases Parser.arguments innerParse rest.length
              rest.tail with
            | error f => rfl
            | ok found =>
                change close _ _ _ (c.extend _ _ _) >>= _ =
                  (Parser.close _ _ _ found.2 >>= _).map _
                rw [close_extend]
                cases Parser.close ending .rightParen
                  .missingParenthesis found.2 with
                | error f => rfl
                | ok passed =>
                    rw [Except.map, Outcome.ok_bind,
                      Outcome.ok_bind]
                    dsimp only
                    rw [emit_extend, emit_extend,
                      Int32.zero_add, List.append_assoc]
                    rfl
          · rw [if_neg hCall, if_neg hCall, goOn_eq_extend,
              record_extend, emit_extend]
            rfl
      | mark m =>
          cases m with
          | null =>
              dsimp only
              rw [goOn_eq_extend, emit_extend]
              rfl
          | leftParen =>
              dsimp only
              rw [hInner]
              change (innerParse rest).map _ >>= _ = _
              cases innerParse rest with
              | error f => rfl
              | ok found =>
                  change close _ _ _ (c.extend _ _ _) =
                    (Parser.close _ _ _ found.2 >>= _).map _
                  rw [close_extend]
                  cases Parser.close ending .rightParen
                    .missingParenthesis found.2 with
                  | error f => rfl
                  | ok passed => rfl
          | _ => rfl

------------------------------------------------------------
-- Levels
------------------------------------------------------------

/- Elements that are taken are written behind what was before. -/
theorem elements_write
    (hInner : Writes inner innerParse)
    (c : Compilation)
    (e : Expr)
    (n : Nat)
    (ls : List Lexeme) :
    elements inner ending n (c.write e ls) =
      (Parser.elements innerParse ending e n ls).map
        fun found => c.write found.1 found.2 := by
  induction n generalizing e ls with
  | zero => rfl
  | succ n ih =>
      rw [elements, write, lexemes_extend]
      cases ls with
      | nil => rfl
      | cons l rest =>
          rw [Parser.elements]
          dsimp only
          by_cases hOpening : l.mark? = some .leftBracket
          · rw [if_pos hOpening, if_pos hOpening, goOn_extend,
              hInner, lexemes_extend]
            cases innerParse rest with
            | error f => rfl
            | ok found =>
                rw [Except.map, Outcome.ok_bind,
                  Outcome.ok_bind, write, extend_extend,
                  close_extend]
                cases Parser.close ending .rightBracket
                  .missingBracket found.2 with
                | error f => rfl
                | ok passed =>
                    rw [Except.map, Outcome.ok_bind,
                      Outcome.ok_bind, emit_extend]
                    exact ih
                      (.binary .element e found.1 l.position)
                      passed.2
          · rw [if_neg hOpening, if_neg hOpening]
            rfl

/-
  A primary is written with accesses to it.  What a sign makes
  of it is written before them.
-/
theorem primary_elements
    (hInner : Writes inner innerParse)
    (sign : Compilation → Compilation)
    (signed : Expr → Expr)
    (hSign : ∀ (c : Compilation) e rest,
      sign (c.write e rest) = c.write (signed e) rest)
    (c : Compilation) :
    (do
      let c ← primary inner ending c
      elements inner ending (sign c).lexemes.length (sign c)) =
    Except.map
      (fun found : Expr × List Lexeme =>
        c.write found.1 found.2)
      (do
        let (e, behind) ←
          Parser.primary innerParse ending c.lexemes
        Parser.elements innerParse ending (signed e)
          behind.length behind) := by
  rw [writes_primary hInner]
  cases Parser.primary innerParse ending c.lexemes with
  | error f => rfl
  | ok found =>
      rw [Except.map, Outcome.ok_bind, Outcome.ok_bind, hSign]
      exact elements_write hInner c _ _ found.2

theorem writes_unary
    (hInner : Writes inner innerParse) :
    Writes (unary inner ending)
      (Parser.unary innerParse ending) := by
  intro c
  rw [unary]
  cases hLeft : c.lexemes with
  | nil => rfl
  | cons l rest =>
      rw [Parser.unary]
      dsimp only
      cases hMark : l.mark? with
      | none =>
          rw [← hLeft]
          exact primary_elements hInner id id
            (fun _ _ _ => rfl) c
      | some m =>
          cases m with
          | plus =>
              exact primary_elements hInner id id
                (fun _ _ _ => rfl) (c.goOn rest)
          | minus =>
              exact primary_elements hInner
                (·.emit (.unary .negate l.position))
                (.unary .negate · l.position)
                (fun c e rest => emit_extend c _ _ rest _)
                (c.goOn rest)
          | _ =>
              rw [← hLeft]
              exact primary_elements hInner id id
                (fun _ _ _ => rfl) c

theorem writes_power
    (hInner : Writes inner innerParse) :
    Writes (power inner ending)
      (Parser.power innerParse ending) :=
  writes_chain (writes_unary hInner)

theorem writes_product
    (hInner : Writes inner innerParse) :
    Writes (product inner ending)
      (Parser.product innerParse ending) :=
  writes_chain (writes_power hInner)

theorem writes_sum
    (hInner : Writes inner innerParse) :
    Writes (sum inner ending)
      (Parser.sum innerParse ending) :=
  writes_chain (writes_product hInner)

theorem writes_comparison
    (hInner : Writes inner innerParse) :
    Writes (comparison inner ending)
      (Parser.comparison innerParse ending) :=
  writes_chain (writes_sum hInner)

theorem writes_negation
    (hInner : Writes inner innerParse) :
    Writes (negation inner ending)
      (Parser.negation innerParse ending) := by
  have hComparison :
      Writes (comparison inner ending)
        (Parser.comparison innerParse ending) :=
    writes_comparison hInner
  intro c
  rw [negation]
  cases hLeft : c.lexemes with
  | nil => rfl
  | cons l rest =>
      rw [Parser.negation]
      dsimp only
      by_cases hSign : l.mark? = some .not
      · rw [if_pos hSign, if_pos hSign, hComparison,
          goOn_eq_extend, lexemes_extend]
        cases Parser.comparison innerParse ending rest with
        | error f => rfl
        | ok found =>
            exact congrArg Except.ok
              (emit_extend c _ _ found.2 _)
      · rw [if_neg hSign, if_neg hSign, hComparison, hLeft]

theorem writes_logical
    (hInner : Writes inner innerParse) :
    Writes (logical inner ending)
      (Parser.logical innerParse ending) :=
  writes_chain (writes_negation hInner)

/- The compiler writes what is read, at any depth. -/
theorem writes_expression
    (ending : Position)
    (n : Nat) :
    Writes (expression ending n)
      (Parser.expression ending n) := by
  induction n with
  | zero => exact fun _ => rfl
  | succ n ih => exact writes_logical ih

end Compiler

------------------------------------------------------------
-- Programs
------------------------------------------------------------

/-
  The compiler gives the postfix form of the tree that the
  lexemes denote, with every variable once, and it fails as the
  parser of trees does.
-/
theorem Program.ofLexemes?_eq
    (ls : List Lexeme) :
    Program.ofLexemes? ls =
      (Expr.ofLexemes? ls).map ofExpr := by
  rw [ofLexemes?, Expr.ofLexemes?, Compiler.writes_expression]
  change (Parser.expression (endOf ls) ls.length ls).map _ >>=
    _ = _
  cases Parser.expression (endOf ls) ls.length ls with
  | error f => rfl
  | ok found =>
      rcases found with ⟨e, _ | ⟨l, rest⟩⟩
      · simp [Except.map, Compilation.write, ofExpr,
          Compilation.extend, Compilation.start,
          foldl_addName_nil]
      · rfl

theorem Program.ofLexemes?_eq_ok_iff
    {ls : List Lexeme}
    {p : Program} :
    Program.ofLexemes? ls = .ok p ↔
      ∃ e, Expr.ofLexemes? ls = .ok e ∧ ofExpr e = p := by
  rw [ofLexemes?_eq, Outcome.map_eq_ok_iff]

theorem Program.ofLexemes?_eq_error_iff
    {ls : List Lexeme}
    {f : SyntaxError} :
    Program.ofLexemes? ls = .error f ↔
      Expr.ofLexemes? ls = .error f := by
  rw [ofLexemes?_eq, Outcome.map_eq_error_iff]

end Formula

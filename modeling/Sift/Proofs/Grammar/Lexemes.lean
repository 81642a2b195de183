import Sift.Proofs.Grammar.Written

/-!
# The tokens of a written expression

`Lexes text tokens` says that a text is cut into these tokens, wherever it stands. Texts are put
together from the right: each lemma puts one lexeme in front of a text whose tokens are known. The
one thing a lexeme asks of the text behind it is that it does not go on with the lexeme, which
`Ends` states. `lexes_writtenAt` is the sum: a written expression is cut into the tokens that
`Expr.tokensAt` lists.
-/

namespace Sift

/-- A text is cut into these tokens, the last one included, wherever it stands. -/
def Lexes (text : List Char) (read : List Token) : Prop :=
  ∀ place : Position, ∃ spanned,
    tokensFrom ⟨place, text⟩ = .ok spanned ∧ spanned.map (·.token) = read

/-- A text that goes on neither with a word nor with an equals sign. -/
def Ends (text : List Char) : Prop := ∀ c ∈ text.head?, Scan.isWordChar c = false ∧ c ≠ '='

theorem Ends.nil : Ends [] := by simp [Ends]

theorem Ends.cons {c : Char} {text : List Char} (ends : Scan.isWordChar c = false) (other : c ≠ '=') :
    Ends (c :: text) := by
  intro d head
  obtain rfl : c = d := by simpa using head
  exact ⟨ends, other⟩

/-! ## Putting one lexeme in front -/

theorem skipBlanks_of_solid {first : Char} (solid : Scan.isBlank first = false) (rest : List Char)
    (place : Position) :
    (⟨place, first :: rest⟩ : Cursor).skipBlanks = ⟨place, first :: rest⟩ := by
  simp [Cursor.skipBlanks, Cursor.advance, solid]

theorem skipBlanks_of_blank {c : Char} (blank : Scan.isBlank c = true) (rest : List Char)
    (place : Position) :
    (⟨place, c :: rest⟩ : Cursor).skipBlanks = (⟨place.next c, rest⟩ : Cursor).skipBlanks := by
  simp [Cursor.skipBlanks, Cursor.advance, blank]

namespace Lexes

variable {text : List Char} {read : List Token}

theorem nil : Lexes [] [.finish] := by
  intro place
  refine ⟨[⟨.finish, place, place⟩], ?_, rfl⟩
  rw [tokensFrom]
  rfl

/-- A blank in front changes positions only. -/
theorem blank {c : Char} (blank : Scan.isBlank c = true) (behind : Lexes text read) :
    Lexes (c :: text) read := by
  intro place
  rw [tokensFrom, skipBlanks_of_blank blank, ← tokensFrom]
  exact behind (place.next c)

theorem space (behind : Lexes text read) : Lexes (' ' :: text) read := blank rfl behind

/-- A text whose first token has been scanned goes on with the tokens behind it. -/
theorem token {first : Char} {rest : List Char} {t : Token} {more : Nat}
    (solid : Scan.isBlank first = false) (scanned : scan first rest = .token t more)
    (behind : Lexes (rest.drop more) read) : Lexes (first :: rest) (t :: read) := by
  intro place
  obtain ⟨spanned, lexed, same⟩ := behind (place.after (first :: rest.take more))
  rw [tokensFrom]
  split
  next empty =>
    rw [skipBlanks_of_solid solid] at empty
    cases empty
  next c others here =>
    have start := skipBlanks_of_solid solid rest place
    rw [start] at here
    cases here
    simp only [scanned, start, Cursor.advance, List.take_succ_cons, List.drop_succ_cons, lexed]
    exact ⟨_, rfl, by simp [same]⟩

end Lexes

/-! ## Words -/

theorem isDigit_of_isAlpha {c : Char} (letter : c.isAlpha = true) : c.isDigit = false := by
  delta Char.isAlpha Char.isUpper Char.isLower Char.isDigit at *
  grind

theorem isBlank_of_isAlpha {c : Char} (letter : c.isAlpha = true) : Scan.isBlank c = false := by
  cases blank : Scan.isBlank c with
  | false => rfl
  | true =>
    simp only [Scan.isBlank, Bool.or_eq_true, decide_eq_true_eq] at blank
    rcases blank with ((rfl | rfl) | rfl) | rfl <;> cases letter

/-- A letter starts a word, which takes up all characters of words that follow. -/
theorem scan_of_isAlpha {first : Char} (letter : first.isAlpha = true) (rest : List Char) :
    scan first rest = .token (.word (String.ofList (first :: rest.takeWhile Scan.isWordChar)))
      (rest.takeWhile Scan.isWordChar).length := by
  have noDigit := isDigit_of_isAlpha letter
  unfold scan
  split <;> first
    | cases letter
    | simp [noDigit, letter]

theorem Lexes.word {w : String} {text : List Char} {read : List Token} (name : isName w = true)
    (ends : Ends text) (behind : Lexes text read) : Lexes (w.toList ++ text) (.word w :: read) := by
  unfold isName at name
  split at name
  next first rest letters =>
    simp only [Bool.and_eq_true, List.all_eq_true] at name
    have run : (rest ++ text).takeWhile Scan.isWordChar = rest := by
      rw [List.takeWhile_append_of_pos name.2]
      cases text with
      | nil => simp
      | cons c text => simp [(ends c rfl).1]
    have scanned := scan_of_isAlpha name.1 (rest ++ text)
    rw [run, ← letters, String.ofList_toList] at scanned
    rw [letters, List.cons_append]
    refine Lexes.token (isBlank_of_isAlpha name.1) scanned ?_
    rw [List.drop_left]
    exact behind
  next => cases name

/-! ## Quotations -/

/-- A quotation is read back up to its closing quote. -/
theorem Scan.string_quotation (s text decoded : List Char) (read : Nat) :
    Scan.string decoded read (s.flatMap quotedAs ++ '"' :: text) =
      .token (.string (String.ofList (decoded.reverse ++ s)))
        (read + (s.flatMap quotedAs).length) := by
  induction s generalizing decoded read with
  | nil => simp [Scan.string]
  | cons c rest ih =>
    by_cases escaped : c = '"' ∨ c = '\\'
    · have step : Scan.string decoded read ('\\' :: c :: (rest.flatMap quotedAs ++ '"' :: text)) =
          Scan.string (c :: decoded) (read + 2) (rest.flatMap quotedAs ++ '"' :: text) := by
        rcases escaped with rfl | rfl <;> simp [Scan.string, Scan.simpleEscape?]
      have written : quotedAs c = ['\\', c] := if_pos escaped
      simp only [List.flatMap_cons, written, List.cons_append, List.nil_append, step, ih,
        List.reverse_cons, List.append_assoc, List.length_cons]
      rw [show read + 2 + (rest.flatMap quotedAs).length
        = read + ((rest.flatMap quotedAs).length + 1 + 1) by omega]
    · have written : quotedAs c = [c] := if_neg escaped
      rw [not_or] at escaped
      have step : Scan.string decoded read (c :: (rest.flatMap quotedAs ++ '"' :: text)) =
          Scan.string (c :: decoded) (read + 1) (rest.flatMap quotedAs ++ '"' :: text) := by
        rw [Scan.string] <;> simp [escaped]
      simp only [List.flatMap_cons, written, List.cons_append, List.nil_append, step, ih,
        List.reverse_cons, List.append_assoc, List.length_cons]
      rw [show read + 1 + (rest.flatMap quotedAs).length
        = read + ((rest.flatMap quotedAs).length + 1) by omega]

theorem Lexes.quotation {text : List Char} {read : List Token} (s : String)
    (behind : Lexes text read) : Lexes ((quotation s).toList ++ text) (.string s :: read) := by
  have opened := Scan.string_quotation s.toList text [] 1
  rw [List.reverse_nil, List.nil_append, String.ofList_toList] at opened
  simp only [Sift.quotation, String.toList_ofList, List.cons_append, List.append_assoc,
    List.nil_append]
  refine Lexes.token rfl opened ?_
  rw [Nat.add_comm, ← List.drop_drop, List.drop_left]
  exact behind

/-! ## Parts of an expression -/

/-- A word before a blank. -/
theorem Lexes.keyword {w : String} {text : List Char} {read : List Token} (name : isName w = true)
    (behind : Lexes text read) : Lexes (w.toList ++ ' ' :: text) (.word w :: read) :=
  Lexes.word name (Ends.cons rfl (by decide)) (.space behind)

/-- A word that is written together with the blanks around it. -/
theorem Lexes.spaced {w written : String} {text : List Char} {read : List Token}
    (spelled : written.toList = ' ' :: (w.toList ++ [' '])) (name : isName w = true)
    (behind : Lexes text read) : Lexes (written.toList ++ text) (.word w :: read) := by
  rw [spelled, List.cons_append, List.append_assoc]
  exact .space (.keyword name behind)

theorem Lexes.indices {segments : List String} {text : List Char} {read : List Token}
    (behind : Lexes text read) :
    Lexes ((String.join (segments.map fun segment => "[" ++ Sift.quotation segment ++ "]")).toList
        ++ text)
      (indexTokens segments ++ read) := by
  induction segments with
  | nil => simpa [indexTokens] using behind
  | cons segment others ih =>
    simp only [indexTokens, List.map_cons, String.join_cons, String.toList_append,
      List.append_assoc, List.flatMap_cons, List.cons_append, List.nil_append]
    exact .token rfl rfl (.quotation segment (.token rfl rfl ih))

theorem Lexes.selector {s : Selector} (wf : s.WellFormed) {text : List Char} {read : List Token}
    (ends : Ends text) (behind : Lexes text read) :
    Lexes (s.written.toList ++ text) (s.tokens ++ read) := by
  obtain ⟨form, path⟩ := s
  cases form with
  | pointer => exact .quotation _ behind
  | words =>
    obtain ⟨first, others, rfl, name⟩ := wf
    simp only [Selector.written, writtenPath, Selector.tokens, pathTokens, String.toList_append,
      List.append_assoc, List.cons_append]
    refine .word name ?_ behind.indices
    cases others with
    | nil => simpa using ends
    | cons segment others =>
      simp only [List.map_cons, String.join_cons, String.toList_append, List.append_assoc]
      exact Ends.cons rfl (by decide)

/-- An operator that stands before a literal or, if it takes none, before whatever follows. -/
theorem Lexes.operator (operator : Operator) {text : List Char} {read : List Token}
    (ends : Ends text) (behind : Lexes text read) :
    Lexes (operator.written.toList ++ text) (operator.tokens ++ read) := by
  have bare {plain withEquals : Token} : Scan.comparison plain withEquals text = .token plain 0 := by
    cases text with
    | nil => rfl
    | cons c text =>
      have other := (ends c rfl).2
      unfold Scan.comparison
      split
      · rename_i same
        cases same
        exact absurd rfl other
      · rfl
  cases operator with
  | equal | notEqual | lessEqual | greaterEqual => exact .token rfl rfl behind
  | less | greater => exact .token rfl bare behind
  | isIn => exact .word (w := "in") rfl ends behind
  | isMatch => exact .word (w := "matches") rfl ends behind
  | notIn => exact .keyword (w := "not") rfl (.word (w := "in") rfl ends behind)
  | notMatch => exact .keyword (w := "not") rfl (.word (w := "matches") rfl ends behind)
  | isEmpty => exact .keyword (w := "is") rfl (.word (w := "empty") rfl ends behind)
  | isNotEmpty =>
    exact .keyword (w := "is") rfl
      (.keyword (w := "not") rfl (.word (w := "empty") rfl ends behind))

theorem Lexes.binding {b : Binding} (wf : b.WellFormed) {text : List Char} {read : List Token}
    (behind : Lexes text read) :
    Lexes (b.text.toList ++ ' ' :: text) (b.tokens ++ read) := by
  have comma : Ends (',' :: ' ' :: text) := Ends.cons rfl (by decide)
  cases b with
  | each name => exact .keyword wf behind
  | index name =>
    simp only [Binding.text, String.toList_append, List.append_assoc]
    exact .word wf (Ends.cons rfl (by decide))
      (.token rfl rfl (.space (.token rfl rfl (.space behind))))
  | value name =>
    simp only [Binding.text, String.toList_append, List.append_assoc]
    exact .token rfl rfl (.token rfl rfl (.space (.keyword wf behind)))
  | both i v =>
    simp only [Binding.text, String.toList_append, List.append_assoc]
    exact .word wf.1 (Ends.cons rfl (by decide))
      (.token rfl rfl (.space (.keyword wf.2.1 behind)))

theorem Lexes.test {selector : Selector} {operator : Operator} {literal : Option String}
    (wf : selector.WellFormed) {text : List Char} {read : List Token} (ends : Ends text)
    (behind : Lexes text read) :
    Lexes ((Expr.writtenTest selector operator literal).toList ++ text)
      (Expr.testTokens selector operator literal ++ read) := by
  have blank {text : List Char} : Ends (' ' :: text) := Ends.cons rfl (by decide)
  unfold Expr.writtenTest Expr.testTokens
  cases operator.isMembership with
  | true =>
    simp only [String.toList_append, List.append_assoc, List.cons_append]
    exact .quotation _ (.space (.operator _ blank (.space (.selector wf ends behind))))
  | false =>
    cases literal with
    | none =>
      simp only [String.toList_append, List.append_assoc]
      exact .selector wf blank (.space (.operator _ ends behind))
    | some literal =>
      simp only [String.toList_append, List.append_assoc, List.cons_append, List.nil_append]
      exact .selector wf blank (.space (.operator _ blank (.space (.quotation literal behind))))

/-! ## Whole expressions -/

/-- Parentheses around a text whose tokens are known in every context. -/
theorem Lexes.grouped {needed : Bool} {written : String} {tokens : List Token}
    (inner : ∀ {text read}, Ends text → Lexes text read →
      Lexes (written.toList ++ text) (tokens ++ read))
    {text : List Char} {read : List Token} (ends : Ends text) (behind : Lexes text read) :
    Lexes ((Expr.grouped needed written).toList ++ text)
      (Expr.groupedTokens needed tokens ++ read) := by
  cases needed with
  | false => exact inner ends behind
  | true =>
    simp only [Expr.grouped, Expr.groupedTokens, if_true, String.toList_append, List.append_assoc,
      List.cons_append, List.nil_append]
    exact .token rfl rfl (inner (Ends.cons rfl (by decide)) (.token rfl rfl behind))

/-- A written expression is cut into the tokens listed for it, whatever stands behind it. -/
theorem lexes_writtenAt (e : Expr String) (wf : e.WellFormed) (place : Tightness)
    {text : List Char} {read : List Token} (ends : Ends text) (behind : Lexes text read) :
    Lexes ((e.writtenAt place).toList ++ text) (e.tokensAt place ++ read) := by
  have blank {text : List Char} : Ends (' ' :: text) := Ends.cons rfl (by decide)
  induction e generalizing place text read with
  | test selector operator literal => exact .test wf.1 ends behind
  | not operand ih =>
    simp only [Expr.writtenAt, Expr.tokensAt, String.toList_append, List.append_assoc]
    exact .keyword (w := "not") rfl (ih wf.1 .unit ends behind)
  | and left right leftIh rightIh =>
    refine Lexes.grouped (fun ends behind => ?_) ends behind
    simp only [String.toList_append, List.append_assoc, List.cons_append]
    exact leftIh wf.1 .conjunct blank
      (.spaced (w := "and") rfl rfl (rightIh wf.2 .unit ends behind))
  | or left right leftIh rightIh =>
    refine Lexes.grouped (fun ends behind => ?_) ends behind
    simp only [String.toList_append, List.append_assoc, List.cons_append]
    exact leftIh wf.1 .loose blank
      (.spaced (w := "or") rfl rfl (rightIh wf.2 .conjunct ends behind))
  | quantified quantifier selector binding body ih =>
    obtain ⟨selectorWf, -, bindingWf, bodyWf⟩ := wf
    simp only [Expr.writtenAt, Expr.tokensAt, String.toList_append, List.append_assoc,
      List.cons_append, List.nil_append]
    have closed : Lexes ('\x7d' :: text) (.closeBrace :: read) := .token rfl rfl behind
    have opened : Lexes ('\x7b' :: ' ' :: _) (.openBrace :: _) :=
      .token rfl rfl (.space (ih bodyWf .loose blank (.space closed)))
    have bound := Lexes.binding bindingWf opened
    have named : Lexes (" as ".toList ++ _) (.word "as" :: _) := .spaced rfl rfl bound
    have selected := Lexes.selector selectorWf (Ends.cons rfl (by decide)) named
    cases quantifier with
    | any => exact .keyword (w := "any") rfl selected
    | all => exact .keyword (w := "all") rfl selected

/-- The tokens of the text of an expression. -/
theorem tokens_written (e : Expr String) (wf : e.WellFormed) :
    ∃ spanned, tokens e.written = .ok spanned ∧
      spanned.map (·.token) = e.tokensAt .loose ++ [.finish] := by
  have lexed := lexes_writtenAt e wf .loose Ends.nil Lexes.nil
  rw [List.append_nil] at lexed
  exact lexed .start

end Sift

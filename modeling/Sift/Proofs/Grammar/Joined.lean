import Sift.Proofs.Grammar.Image
import Sift.Proofs.Grammar.Lexemes

/-!
# Texts put together

A token is settled by its own characters and the one behind it (`scan_local`). So a text that is cut
into tokens keeps them in front of any text that starts with a blank or a closing parenthesis
(`Lexed.append`, `Lexed.split`), and a text in front of such a one has them alone as well, as long as no quotation that
is opened in the first is closed in the second (`Lexed.of_append`).
-/

namespace Sift

/-- A text that cannot go on with a lexeme: it is empty, or it starts with a blank or a closing
parenthesis. -/
def Parts (text : List Char) : Prop := ∀ c ∈ text.head?, Scan.isBlank c = true ∨ c = ')'

/-- What stands behind a token is such that another text can stand there. -/
def Replaces (behind behind' : List Char) : Prop :=
  behind'.head? = behind.head? ∨ Parts behind'

theorem Parts.nil : Parts [] := nofun

theorem Parts.blank {c : Char} (isBlank : Scan.isBlank c = true) (text : List Char) :
    Parts (c :: text) := by
  rintro d ⟨⟩
  exact .inl isBlank

theorem Parts.space (text : List Char) : Parts (' ' :: text) := .blank rfl text

theorem Parts.paren (text : List Char) : Parts (')' :: text) := by
  rintro c ⟨⟩
  exact .inr rfl

/-- What holds of the four blanks holds of every blank. -/
theorem Scan.of_isBlank {P : Char → Prop} (space : P ' ') (tab : P '\t') (ret : P '\r')
    (feed : P '\n') {c : Char} (isBlank : isBlank c = true) : P c := by
  simp only [Scan.isBlank, Bool.or_eq_true, decide_eq_true_eq] at isBlank
  rcases isBlank with ((rfl | rfl) | rfl) | rfl
  · exact space
  · exact tab
  · exact ret
  · exact feed

/-- What has a property of no blank is none. -/
theorem Scan.isBlank_eq_false {P : Char → Bool}
    (blank : P ' ' = false ∧ P '\t' = false ∧ P '\r' = false ∧ P '\n' = false) {c : Char}
    (holds : P c = true) : isBlank c = false := by
  refine Bool.eq_false_iff.mpr fun isBlank => ?_
  have fails : P c = false :=
    of_isBlank (P := (P · = false)) blank.1 blank.2.1 blank.2.2.1 blank.2.2.2 isBlank
  exact absurd holds (Bool.eq_false_iff.mp fails)

/-- A property that neither a blank nor a closing parenthesis has fails at the start of the other
text, too. -/
theorem Replaces.head {P : Char → Bool}
    (blank : P ' ' = false ∧ P '\t' = false ∧ P '\r' = false ∧ P '\n' = false)
    (paren : P ')' = false) {behind behind' : List Char} (replaces : Replaces behind behind')
    (fails : ∀ c ∈ behind.head?, P c = false) : ∀ c ∈ behind'.head?, P c = false := by
  intro c head
  rcases replaces with same | parts
  · exact fails c (same ▸ head)
  · rcases parts c head with isBlank | rfl
    · exact Scan.of_isBlank (P := (P · = false)) blank.1 blank.2.1 blank.2.2.1 blank.2.2.2 isBlank
    · exact paren

theorem takeWhile_append_of_head {P : Char → Bool} {run behind : List Char}
    (all : ∀ c ∈ run, P c = true) (fails : ∀ c ∈ behind.head?, P c = false) :
    (run ++ behind).takeWhile P = run := by
  rw [List.takeWhile_append_of_pos all]
  cases behind with
  | nil => simp
  | cons c behind => simp [fails c rfl]

/-- A text is its longest run of characters with a property and what stands behind the run. -/
theorem exists_run (P : Char → Bool) (text : List Char) :
    ∃ run behind, text = run ++ behind ∧ text.takeWhile P = run ∧ text.drop run.length = behind ∧
      (∀ c ∈ run, P c = true) ∧ ∀ c ∈ behind.head?, P c = false := by
  induction text with
  | nil => exact ⟨[], [], rfl, rfl, rfl, nofun, nofun⟩
  | cons d text ih =>
    cases holds : P d with
    | true =>
      obtain ⟨run, behind, same, taken, dropped, all, fails⟩ := ih
      refine ⟨d :: run, behind, congrArg _ same, ?_, dropped, List.forall_mem_cons.mpr ⟨holds, all⟩,
        fails⟩
      rw [List.takeWhile_cons, holds, if_pos rfl, taken]
    | false =>
      refine ⟨[], d :: text, rfl, ?_, rfl, nofun, ?_⟩
      · rw [List.takeWhile_cons, holds, if_neg Bool.false_ne_true]
      · rintro c ⟨⟩
        exact holds

namespace Scan

/-- A quotation ends at its closing quote, whatever stands behind. -/
theorem string_local {decoded text : List Char} {read more : Nat} {t : Token}
    (scanned : string decoded read text = .token t more) :
    ∃ body behind, text = body ++ '"' :: behind ∧ more = read + body.length ∧
      ∀ behind', string decoded read (body ++ '"' :: behind') = .token t more := by
  fun_induction string decoded read text with
  | case1 => cases scanned
  | case2 =>
    cases scanned
    exact ⟨[], _, rfl, rfl, fun _ => rfl⟩
  | case3 => cases scanned
  | case4 decoded read a b c d rest value digits isHex decodedChar isChar ih =>
    obtain ⟨body, behind, rfl, rfl, goesOn⟩ := ih scanned
    refine ⟨'\\' :: 'u' :: a :: b :: c :: d :: body, behind, rfl, ?_, fun behind' => ?_⟩
    · simp only [List.length_cons]
      omega
    · simp only [List.cons_append, string, isHex, isChar]
      exact goesOn behind'
  | case8 decoded read c rest _ notUnicode decodedChar escape ih =>
    obtain ⟨body, behind, rfl, rfl, goesOn⟩ := ih scanned
    refine ⟨'\\' :: c :: body, behind, rfl, ?_, fun behind' => ?_⟩
    · simp only [List.length_cons]
      omega
    · simp only [List.cons_append]
      rw [string]
      · simp only [escape]
        exact goesOn behind'
      · exact fun _ _ _ _ _ isUnicode => absurd isUnicode notUnicode
      · exact notUnicode
  | case10 decoded read c rest notQuote notLast _ _ notEscape ih =>
    have plain : c ≠ '\\' := by
      rintro rfl
      cases rest with
      | nil => exact notLast rfl rfl
      | cons d rest => exact notEscape d rest rfl rfl
    have quoteless : c ≠ '"' := notQuote
    obtain ⟨body, behind, rfl, rfl, goesOn⟩ := ih scanned
    refine ⟨c :: body, behind, rfl, ?_, fun behind' => ?_⟩
    · simp only [List.length_cons]
      omega
    · simp only [List.cons_append]
      rw [string]
      · exact goesOn behind'
      all_goals simp [plain, quoteless]
  | case5 | case6 | case7 | case9 => cases scanned

theorem raw_local {rest : List Char} {more : Nat} {t : Token} (scanned : raw rest = .token t more) :
    ∃ body behind, rest = body ++ '`' :: behind ∧ more = body.length + 1 ∧
      ∀ behind', raw (body ++ '`' :: behind') = .token t more := by
  obtain ⟨run, behind, rfl, taken, -, all, fails⟩ := exists_run (· ≠ '`') rest
  unfold raw at scanned
  simp only [taken] at scanned
  split at scanned
  next closed =>
    cases scanned
    cases behind with
    | nil => simp at closed
    | cons c behind =>
      obtain rfl : c = '`' := by simpa using fails c rfl
      refine ⟨run, behind, rfl, rfl, fun behind' => ?_⟩
      have again : (run ++ '`' :: behind').takeWhile (· ≠ '`') = run :=
        takeWhile_append_of_head all (by simp)
      unfold raw
      simp only [again]
      rw [if_pos (by simp)]
  next => cases scanned

/-- Whether a character must not stand behind a numeral. -/
def joinsNumber (c : Char) : Bool := Unicode.isAlphanumeric c || c = '_' || c = '.'

theorem finishNumber_eq_token {numeral rest : List Char} {more : Nat} {t : Token} :
    finishNumber numeral rest = .token t more ↔
      (∀ c ∈ rest.head?, joinsNumber c = false) ∧ t = .number (String.ofList numeral) ∧
        more = numeral.length - 1 := by
  unfold finishNumber
  cases rest with
  | nil =>
    dsimp only
    rw [Scan.token.injEq]
    exact ⟨fun ⟨same, length⟩ => ⟨nofun, same.symm, length.symm⟩,
      fun ⟨_, same, length⟩ => ⟨same.symm, length.symm⟩⟩
  | cons c rest =>
    have head : (∀ d ∈ (c :: rest).head?, joinsNumber d = false) ↔ joinsNumber c = false := by simp
    rw [head]
    dsimp only
    change (if joinsNumber c = true then _ else _) = _ ↔ _
    cases joinsNumber c with
    | true => exact ⟨nofun, nofun⟩
    | false =>
      rw [if_neg Bool.false_ne_true, Scan.token.injEq]
      exact ⟨fun ⟨same, length⟩ => ⟨rfl, same.symm, length.symm⟩,
        fun ⟨_, same, length⟩ => ⟨same.symm, length.symm⟩⟩

/-- What is taken of a text behind a numeral that has been started, and that no more can be. -/
structure Numeral (f : List Char → Scan) (numeral text body behind : List Char) : Prop where
  split : text = body ++ behind
  digits : ∀ c ∈ body, c.isDigit = true ∨ c = '.'
  ends : ∀ c ∈ behind.head?, joinsNumber c = false
  scanned : ∀ behind', (∀ c ∈ behind'.head?, joinsNumber c = false) → f (body ++ behind') =
    .token (.number (String.ofList (numeral ++ body))) ((numeral ++ body).length - 1)

theorem joinsNumber_of_isDigit {c : Char} (digit : c.isDigit = true) : joinsNumber c = true := by
  have ascii : c.toNat < 128 := by
    simp only [Char.isDigit, Bool.and_eq_true, decide_eq_true_eq, UInt32.le_iff_toNat_le] at digit
    have code : c.toNat = c.val.toNat := rfl
    have nine : '9'.val.toNat = 57 := rfl
    omega
  simp [joinsNumber, Unicode.isAlphanumeric, ascii, Char.isAlphanum, digit]

/-- No digit goes on with what is no numeral any more. -/
theorem isDigit_head {text : List Char} (ends : ∀ c ∈ text.head?, joinsNumber c = false) :
    ∀ c ∈ text.head?, c.isDigit = false := by
  intro c head
  cases digit : c.isDigit with
  | false => rfl
  | true => exact absurd (joinsNumber_of_isDigit digit) (by simp [ends c head])

theorem fraction_local {numeral rest : List Char} {more : Nat} {t : Token}
    (scanned : fraction numeral rest = .token t more) :
    ∃ body behind, Numeral (fraction numeral) numeral rest body behind ∧
      t = .number (String.ofList (numeral ++ body)) ∧ more = (numeral ++ body).length - 1 := by
  unfold fraction at scanned
  split at scanned
  next rest =>
    obtain ⟨digits, behind, rfl, taken, dropped, all, fails⟩ := exists_run Char.isDigit rest
    simp only [taken, dropped] at scanned
    split at scanned
    · cases scanned
    next filled =>
      obtain ⟨ends, rfl, rfl⟩ := finishNumber_eq_token.mp scanned
      refine ⟨'.' :: digits, behind, ⟨rfl, ?_, ends, fun behind' ends' => ?_⟩, rfl, rfl⟩
      · exact List.forall_mem_cons.mpr ⟨.inr rfl, fun c inside => .inl (all c inside)⟩
      · have again : (digits ++ behind').takeWhile Char.isDigit = digits :=
          takeWhile_append_of_head all (isDigit_head ends')
        rw [List.cons_append, fraction]
        simp only [again, if_neg filled, List.drop_left]
        exact finishNumber_eq_token.mpr ⟨ends', rfl, rfl⟩
  next noPoint =>
    obtain ⟨ends, rfl, rfl⟩ := finishNumber_eq_token.mp scanned
    refine ⟨[], rest, ⟨rfl, nofun, ends, fun behind' apart => ?_⟩, by simp, by simp⟩
    rw [List.append_nil, List.nil_append, fraction]
    · exact finishNumber_eq_token.mpr ⟨apart, rfl, rfl⟩
    · rintro others rfl
      exact absurd (apart '.' rfl) (by decide)

theorem number_local {sign text : List Char} {more : Nat} {t : Token}
    (scanned : number sign text = .token t more) :
    ∃ body behind, body ≠ [] ∧ Numeral (number sign) sign text body behind ∧
      t = .number (String.ofList (sign ++ body)) ∧ more = (sign ++ body).length - 1 := by
  unfold number at scanned
  split at scanned
  next rest =>
    obtain ⟨body, behind, numeral, rfl, rfl⟩ := fraction_local scanned
    obtain ⟨rfl, digits, ends, goesOn⟩ := numeral
    rw [List.append_assoc, List.singleton_append]
    refine ⟨'0' :: body, behind, List.cons_ne_nil _ _, ⟨rfl, ?_, ends, fun behind' ends' => ?_⟩,
      rfl, rfl⟩
    · exact List.forall_mem_cons.mpr ⟨.inl rfl, digits⟩
    · have further := goesOn behind' ends'
      rw [List.append_assoc, List.singleton_append] at further
      exact further
  next notZero =>
    obtain ⟨run, behind, rfl, taken, dropped, all, fails⟩ := exists_run Char.isDigit text
    simp only [taken, dropped] at scanned
    split at scanned
    · cases scanned
    next filled =>
      obtain ⟨body, behind, numeral, rfl, rfl⟩ := fraction_local scanned
      obtain ⟨rfl, digits, ends, goesOn⟩ := numeral
      rw [List.append_assoc]
      refine ⟨run ++ body, behind, by simp [filled], ⟨(List.append_assoc _ _ _).symm, ?_, ends,
        fun behind' ends' => ?_⟩, rfl, rfl⟩
      · intro c inside
        rcases List.mem_append.mp inside with first | second
        · exact .inl (all c first)
        · exact digits c second
      · have again : (run ++ (body ++ behind')).takeWhile Char.isDigit = run := by
          refine takeWhile_append_of_head all ?_
          cases body with
          | nil => exact isDigit_head ends'
          | cons c body => exact fails
        obtain ⟨first, others, rfl⟩ := List.exists_cons_of_ne_nil filled
        rw [List.append_assoc, number]
        · simp only [again, if_neg filled, List.drop_left]
          rw [← List.append_assoc]
          exact goesOn behind' ends'
        · rintro rest zero
          obtain ⟨rfl, -⟩ := List.cons_eq_cons.mp zero
          exact notZero _ rfl

theorem comparison_local {plain withEquals : Token} {rest : List Char} {more : Nat} {t : Token}
    (scanned : comparison plain withEquals rest = .token t more) :
    ∃ body behind, rest = body ++ behind ∧ body.length = more ∧ (∀ c ∈ body, c = '=') ∧
      ∀ behind', Replaces behind behind' →
        comparison plain withEquals (body ++ behind') = .token t more := by
  unfold comparison at scanned
  split at scanned
  next rest =>
    cases scanned
    exact ⟨['='], rest, rfl, rfl, by simp, fun _ _ => rfl⟩
  next noEquals =>
    cases scanned
    have alone : ∀ c ∈ rest.head?, (c == '=') = false := by
      rintro c head
      cases rest with
      | nil => cases head
      | cons d rest =>
        obtain rfl : d = c := by simpa using head
        exact beq_eq_false_iff_ne.mpr fun same => noEquals rest (by rw [same])
    refine ⟨[], rest, rfl, rfl, nofun, fun behind' replaces => ?_⟩
    have apart := replaces.head (P := (· == '=')) (by decide) rfl alone
    rw [List.nil_append, comparison]
    rintro others rfl
    cases apart '=' rfl

end Scan

/-- A digit starts a numeral. -/
theorem scan_of_isDigit {first : Char} (digit : first.isDigit = true) (rest : List Char) :
    scan first rest = Scan.number [] (first :: rest) := by
  unfold scan
  split <;> first
    | cases digit
    | simp [digit]

/-- A lone underscore is a mark. -/
theorem scan_underscore {rest : List Char} (alone : ∀ c ∈ rest.head?, c.isAlphanum = false) :
    scan '_' rest = .token .underscore 0 := by
  cases rest with
  | nil => rfl
  | cons c rest =>
    have other : c.isAlphanum = false := alone c rfl
    simp [scan, other]

/-- What a token takes of a text holds neither a blank nor a closing parenthesis, unless it ends with
a quote. -/
def Taken (body : List Char) : Prop :=
  (∀ c ∈ body, Scan.isBlank c = false ∧ c ≠ ')') ∨
    ∃ inner quote, body = inner ++ [quote] ∧ (quote = '"' ∨ quote = '`')

/-- A token is settled by what it takes and the character behind. -/
theorem scan_local {first : Char} {rest : List Char} {t : Token} {more : Nat}
    (scanned : scan first rest = .token t more) :
    ∃ body behind, rest = body ++ behind ∧ body.length = more ∧ Taken body ∧
      ∀ behind', Replaces behind behind' → scan first (body ++ behind') = .token t more := by
  unfold scan at scanned
  split at scanned
  case h_9 rest | h_10 rest =>
    cases scanned
    refine ⟨['='], rest, rfl, rfl, .inl (List.forall_mem_singleton.mpr ?_), fun behind' _ => rfl⟩
    decide
  case h_11 | h_12 =>
    obtain ⟨body, behind, rfl, length, equals, goesOn⟩ := Scan.comparison_local scanned
    refine ⟨body, behind, rfl, length, .inl fun c inside => ?_, goesOn⟩
    rw [equals c inside]
    decide
  case h_13 =>
    obtain ⟨body, behind, rfl, rfl, goesOn⟩ := Scan.string_local scanned
    refine ⟨body ++ ['"'], behind, by simp, by simp [Nat.add_comm], .inr ⟨body, '"', rfl, .inl rfl⟩,
      fun behind' _ => ?_⟩
    rw [List.append_assoc]
    exact goesOn behind'
  case h_14 =>
    obtain ⟨body, behind, rfl, rfl, goesOn⟩ := Scan.raw_local scanned
    refine ⟨body ++ ['`'], behind, by simp, by simp, .inr ⟨body, '`', rfl, .inr rfl⟩,
      fun behind' _ => ?_⟩
    rw [List.append_assoc]
    exact goesOn behind'
  case h_15 =>
    obtain ⟨body, behind, -, numeral, rfl, rfl⟩ := Scan.number_local scanned
    obtain ⟨rfl, digits, ends, goesOn⟩ := numeral
    refine ⟨body, behind, rfl, by simp, .inl fun c inside => ?_, fun behind' replaces => ?_⟩
    · rcases digits c inside with digit | rfl
      · exact ⟨Scan.isBlank_eq_false (by decide) digit, by rintro rfl; cases digit⟩
      · decide
    · exact goesOn behind' (replaces.head (by decide) (by decide) ends)
  case h_16 =>
    split at scanned
    · cases scanned
    next alone =>
      cases scanned
      refine ⟨[], _, rfl, rfl, .inl nofun, fun behind' replaces => ?_⟩
      refine scan_underscore (replaces.head (by decide) rfl fun c head => ?_)
      rw [Option.mem_def.mp head] at alone
      exact Bool.eq_false_iff.mpr alone
  case h_17 =>
    split at scanned
    next digit =>
      obtain ⟨body, behind, filled, numeral, rfl, rfl⟩ := Scan.number_local scanned
      obtain ⟨split, digits, ends, goesOn⟩ := numeral
      obtain ⟨c, body, rfl⟩ := List.exists_cons_of_ne_nil filled
      obtain ⟨rfl, rfl⟩ := List.cons_eq_cons.mp split
      refine ⟨body, behind, rfl, by simp, .inl fun d inside => ?_, fun behind' replaces => ?_⟩
      · rcases digits d (List.mem_cons_of_mem _ inside) with digit | rfl
        · exact ⟨Scan.isBlank_eq_false (by decide) digit, by rintro rfl; cases digit⟩
        · decide
      · rw [scan_of_isDigit digit]
        exact goesOn behind' (replaces.head (by decide) (by decide) ends)
    next =>
      split at scanned
      next letter =>
        cases scanned
        obtain ⟨run, behind, same, taken, -, all, fails⟩ := exists_run Scan.isWordChar _
        refine ⟨run, behind, same, congrArg _ taken.symm, .inl fun c inside => ?_,
          fun behind' replaces => ?_⟩
        · have wordChar := all c inside
          exact ⟨Scan.isBlank_eq_false (by decide) wordChar, by rintro rfl; cases wordChar⟩
        · have again : (run ++ behind').takeWhile Scan.isWordChar = run :=
            takeWhile_append_of_head all (replaces.head (by decide) rfl fails)
          rw [scan_of_isAlpha letter, again, taken]
      next => cases scanned
  all_goals
    cases scanned
    exact ⟨[], _, rfl, rfl, .inl nofun, fun _ _ => rfl⟩

/-- A token stays the same in front of a text that cannot go on with it. -/
theorem scan_append {first : Char} {rest behind : List Char} {t : Token} {more : Nat}
    (scanned : scan first rest = .token t more) (parts : Parts behind) :
    scan first (rest ++ behind) = .token t more ∧
      (rest ++ behind).drop more = rest.drop more ++ behind := by
  obtain ⟨body, others, rfl, rfl, -, goesOn⟩ := scan_local scanned
  have replaces : Replaces others (others ++ behind) := by
    cases others with
    | nil => exact .inr parts
    | cons c others => exact .inl rfl
  rw [List.append_assoc, List.drop_left, List.drop_left]
  exact ⟨goesOn _ replaces, rfl⟩

/-- A text that neither goes on with a token nor closes a quotation has no part in a token. -/
theorem scan_of_append {first : Char} {rest behind : List Char} {t : Token} {more : Nat}
    (scanned : scan first (rest ++ behind) = .token t more) (parts : Parts behind)
    (unquoted : ∀ c ∈ behind, c ≠ '"' ∧ c ≠ '`') :
    scan first rest = .token t more ∧ (rest ++ behind).drop more = rest.drop more ++ behind := by
  obtain ⟨body, others, same, rfl, taken, goesOn⟩ := scan_local scanned
  have inside : ∃ left, rest = body ++ left ∧ others = left ++ behind := by
    rcases List.append_eq_append_iff.mp same with ⟨past, rfl, rfl⟩ | ⟨left, rfl, rfl⟩
    · cases past with
      | nil => exact ⟨[], by simp, rfl⟩
      | cons c past =>
        rcases taken with plain | ⟨inner, quote, ends, isQuote⟩
        · have other := plain c (by simp)
          rcases parts c rfl with isBlank | rfl
          · exact absurd isBlank (Bool.eq_false_iff.mp other.1)
          · exact absurd rfl other.2
        · have last : quote ∈ c :: past := by
            have same := congrArg List.getLast? ends
            rw [List.getLast?_append, List.getLast?_concat,
              List.getLast?_eq_some_getLast (List.cons_ne_nil c past), Option.some_or] at same
            exact Option.some.inj same ▸ List.getLast_mem _
          have other := unquoted quote (List.mem_append_left _ last)
          rcases isQuote with rfl | rfl
          · exact absurd rfl other.1
          · exact absurd rfl other.2
    · exact ⟨left, rfl, rfl⟩
  obtain ⟨left, rfl, rfl⟩ := inside
  have replaces : Replaces (left ++ behind) left := by
    cases left with
    | nil => exact .inr .nil
    | cons c left => exact .inl rfl
  rw [List.append_assoc, List.drop_left, List.drop_left]
  exact ⟨goesOn left replaces, rfl⟩

/-! ## Texts and their tokens -/

/-- A text is cut into these tokens, the last one included. -/
inductive Lexed : List Char → List Token → Prop
  | nil : Lexed [] [.finish]
  | blank {c : Char} {text : List Char} {read : List Token} : Scan.isBlank c = true →
    Lexed text read → Lexed (c :: text) read
  | token {first : Char} {rest : List Char} {t : Token} {more : Nat} {read : List Token} :
    Scan.isBlank first = false → scan first rest = .token t more → Lexed (rest.drop more) read →
    Lexed (first :: rest) (t :: read)

namespace Lexed

variable {text behind : List Char} {read all : List Token}

theorem of_skipBlanks {c : Cursor} (lexed : Lexed c.skipBlanks.rest read) : Lexed c.rest read := by
  obtain ⟨place, text⟩ := c
  induction text generalizing place with
  | nil => exact lexed
  | cons d text ih =>
    cases isBlank : Scan.isBlank d with
    | true =>
      rw [skipBlanks_of_blank isBlank] at lexed
      exact .blank isBlank (ih _ lexed)
    | false =>
      rw [skipBlanks_of_solid isBlank] at lexed
      exact lexed

theorem solid_of_skipBlanks {c : Cursor} {first : Char} {rest : List Char}
    (here : c.skipBlanks.rest = first :: rest) : Scan.isBlank first = false := by
  obtain ⟨place, text⟩ := c
  induction text generalizing place with
  | nil => cases here
  | cons d text ih =>
    cases isBlank : Scan.isBlank d with
    | true =>
      rw [skipBlanks_of_blank isBlank] at here
      exact ih _ here
    | false =>
      rw [skipBlanks_of_solid isBlank] at here
      cases here
      exact isBlank

/-- The tokens that a text was cut into. -/
theorem of_tokensFrom {c : Cursor} {spanned : List SpannedToken}
    (lexed : tokensFrom c = .ok spanned) : Lexed c.rest (spanned.map (·.token)) := by
  fun_induction tokensFrom c generalizing spanned with
  | case1 c here =>
    rename_i empty
    cases lexed
    refine of_skipBlanks ?_
    rw [empty]
    exact .nil
  | case2 c here first rest split t more scanned behind others goesOn =>
    rename_i ih
    cases lexed
    refine of_skipBlanks ?_
    have further := ih goesOn
    simp only [behind, Cursor.advance, split, List.drop_succ_cons] at further
    rw [split]
    exact .token (solid_of_skipBlanks split) scanned further
  | case3 => cases lexed
  | case4 => cases lexed

/-- Every text ends with the last token. -/
theorem exists_front (lexed : Lexed text read) : ∃ front, read = front ++ [.finish] := by
  induction lexed with
  | nil => exact ⟨[], rfl⟩
  | blank _ _ ih => exact ih
  | token _ _ _ ih =>
    obtain ⟨front, rfl⟩ := ih
    exact ⟨_ :: front, rfl⟩

theorem of_blank {c : Char} (isBlank : Scan.isBlank c = true) (lexed : Lexed (c :: text) read) :
    Lexed text read := by
  cases lexed with
  | blank _ lexed => exact lexed
  | token solid => exact absurd isBlank (by rw [solid]; exact Bool.false_ne_true)

theorem of_token {first : Char} {rest : List Char} {t : Token} {more : Nat}
    (solid : Scan.isBlank first = false) (scanned : scan first rest = .token t more)
    (lexed : Lexed (first :: rest) read) :
    ∃ others, read = t :: others ∧ Lexed (rest.drop more) others := by
  cases lexed with
  | blank isBlank => exact absurd isBlank (by rw [solid]; exact Bool.false_ne_true)
  | token _ scanned' lexed =>
    cases scanned.symm.trans scanned'
    exact ⟨_, rfl, lexed⟩

/-- A text that is cut into tokens has them wherever it stands. -/
theorem lexes (lexed : Lexed text read) : Lexes text read := by
  induction lexed with
  | nil => exact .nil
  | blank isBlank _ ih => exact .blank isBlank ih
  | token solid scanned _ ih => exact .token solid scanned ih

/-- The tokens of a text stand in front of those of a text that cannot go on with the last one. -/
theorem append {front : List Token} (lexed : Lexed text (front ++ [.finish])) (parts : Parts behind)
    (after : Lexed behind all) : Lexed (text ++ behind) (front ++ all) := by
  generalize same : front ++ [.finish] = read at lexed
  induction lexed generalizing front with
  | nil =>
    obtain rfl : front = [] := by simpa using same
    exact after
  | blank isBlank _ ih => exact .blank isBlank (ih same)
  | @token first rest t more read solid scanned lexed ih =>
    obtain ⟨front', rfl⟩ := lexed.exists_front
    obtain rfl : front = t :: front' := List.append_inj_left' same rfl
    obtain ⟨scanned', dropped⟩ := scan_append scanned parts
    rw [List.cons_append, List.cons_append]
    refine .token solid scanned' ?_
    rw [dropped]
    exact ih rfl

/-- A token stands in front of the tokens of a text that cannot go on with it. -/
theorem append_one {t : Token} (alone : Lexed text [t, .finish]) (parts : Parts behind)
    (after : Lexed behind all) : Lexed (text ++ behind) (t :: all) :=
  @append text behind all [t] alone parts after

/-- What stands in front of a text is cut as it is alone. -/
theorem split {front : List Token} (lexed : Lexed text (front ++ [.finish])) (parts : Parts behind)
    (whole : Lexed (text ++ behind) all) : ∃ others, Lexed behind others ∧ all = front ++ others := by
  generalize same : front ++ [.finish] = read at lexed
  induction lexed generalizing front all with
  | nil =>
    obtain rfl : front = [] := by simpa using same
    exact ⟨all, whole, rfl⟩
  | blank isBlank _ ih => exact ih (whole.of_blank isBlank) same
  | @token first rest t more read solid scanned lexed ih =>
    obtain ⟨front', rfl⟩ := lexed.exists_front
    obtain rfl : front = t :: front' := List.append_inj_left' same rfl
    obtain ⟨scanned', dropped⟩ := scan_append scanned parts
    obtain ⟨read', rfl, further⟩ := whole.of_token solid scanned'
    rw [dropped] at further
    obtain ⟨others, lexed', rfl⟩ := ih further rfl
    exact ⟨others, lexed', rfl⟩

/-- What stands in front of a text that closes no quotation is cut into tokens alone. -/
theorem of_append (whole : Lexed (text ++ behind) all) (parts : Parts behind)
    (unquoted : ∀ c ∈ behind, c ≠ '"' ∧ c ≠ '`') : ∃ front, Lexed text (front ++ [.finish]) := by
  generalize same : text ++ behind = joined at whole
  induction whole generalizing text with
  | nil =>
    obtain ⟨rfl, -⟩ := List.append_eq_nil_iff.mp same
    exact ⟨[], .nil⟩
  | @blank c _ _ isBlank _ ih =>
    cases text with
    | nil => exact ⟨[], .nil⟩
    | cons d text =>
      obtain ⟨rfl, rest⟩ := List.cons_eq_cons.mp same
      obtain ⟨front, lexed⟩ := ih rest
      exact ⟨front, .blank isBlank lexed⟩
  | @token first rest t more read solid scanned lexed ih =>
    cases text with
    | nil => exact ⟨[], .nil⟩
    | cons d text =>
      obtain ⟨rfl, rfl⟩ := List.cons_eq_cons.mp same
      obtain ⟨scanned', dropped⟩ := scan_of_append scanned parts unquoted
      obtain ⟨front, lexed'⟩ := ih dropped.symm
      exact ⟨t :: front, .token solid scanned' lexed'⟩

end Lexed

end Sift

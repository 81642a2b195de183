import Sift.Proofs.Evaluation.Result
import Sift.Proofs.Number.Unbounded

/-!
# Converted literals

Checking may convert a literal ahead of time. A literal that was converted from its own text says
no more than the text: whatever kind of datum it meets, reading the text there gives the same
literal, because the literal types of narrow integers only narrow what is accepted. So a test gives
the same answer, and the same error, with its literal as written.
-/

namespace Sift

/-- The literal was converted from its own text. -/
def CheckedLiteral.Faithful (l : CheckedLiteral) : Prop :=
  ∀ literal, l.converted = some literal → ∃ type : LiteralType, type.read l.raw = .ok literal

/-- The literal as it was written. -/
def CheckedLiteral.plain (l : CheckedLiteral) : CheckedLiteral := ⟨l.raw, none⟩

/-- The test with its literal as it was written. -/
def Test.plain (t : Test) : Test := { t with literal := t.literal.map CheckedLiteral.plain }

namespace LiteralType

/-- What a narrow signed type reads, the widest one reads, too. -/
theorem read_int_wide {width : Width} {raw : String} {literal : Literal}
    (read : (int width).read raw = .ok literal) : (int .w64).read raw = .ok literal := by
  simp only [LiteralType.read_int] at read ⊢
  split at read
  next => cases read
  next n number =>
    split at read
    next bounds =>
      cases read
      have wide : -((1 <<< (Width.w64.bits - 1) : Nat) : Int) ≤ n ∧
          n < (1 <<< (Width.w64.bits - 1) : Nat) := by
        cases width <;> simp only [Width.bits] at bounds ⊢ <;> omega
      rw [if_pos wide]
    next => cases read

/-- What a narrow unsigned type reads, the widest one reads, too. -/
theorem read_uint_wide {width : Width} {raw : String} {literal : Literal}
    (read : (uint width).read raw = .ok literal) : (uint .w64).read raw = .ok literal := by
  simp only [LiteralType.read_uint] at read ⊢
  split at read
  next => cases read
  next n number =>
    split at read
    next bound =>
      cases read
      have wide : n < 1 <<< Width.w64.bits := by
        cases width <;> simp only [Width.bits] at bound ⊢ <;> omega
      rw [if_pos wide]
    next => cases read

/-- The kind of the literals of a type. -/
def kind : LiteralType → Kind
  | bool => .bool
  | int _ => .int
  | uint _ => .uint
  | float32 => .float32
  | float64 => .float64
  | string => .string

theorem kind_of_read {type : LiteralType} {raw : String} {literal : Literal}
    (read : type.read raw = .ok literal) : literal.kind = type.kind := by
  cases type with
  | int width => grind [LiteralType.read_int, Literal.kind, kind]
  | uint width => grind [LiteralType.read_uint, Literal.kind, kind]
  | _ =>
    simp only [LiteralType.read] at read
    grind [Literal.kind, kind]

end LiteralType

/-- A datum of the kind of a literal that was read reads the same literal. -/
theorem readLiteral?_of_read {type : LiteralType} {raw : String} {literal : Literal} {d : Datum}
    (read : type.read raw = .ok literal) (same : literal.kind = d.kind) :
    d.readLiteral? raw = some (.ok literal) := by
  rw [LiteralType.kind_of_read read] at same
  cases type with
  | bool =>
    cases d with
    | bool b => exact congrArg some read
    | _ => cases same
  | int width =>
    cases d with
    | int n => simp only [Datum.readLiteral?, LiteralType.readNumber, LiteralType.read_int_wide read]
    | _ => cases same
  | uint width =>
    cases d with
    | uint n =>
      simp only [Datum.readLiteral?, LiteralType.readNumber, LiteralType.read_uint_wide read]
    | _ => cases same
  | float32 =>
    cases d with
    | float32 x => exact congrArg some read
    | _ => cases same
  | float64 =>
    cases d with
    | float64 x => exact congrArg some read
    | _ => cases same
  | string =>
    cases d with
    | string s => exact congrArg some read
    | _ => cases same

namespace CheckedLiteral

variable {l : CheckedLiteral}

/-- For any datum, the converted literal is the one that the text is read as. -/
theorem for?_plain (faithful : l.Faithful) (d : Datum) : l.plain.for? d = l.for? d := by
  unfold CheckedLiteral.for? CheckedLiteral.plain
  cases converted : l.converted with
  | none => rfl
  | some literal =>
    obtain ⟨type, read⟩ := faithful literal converted
    dsimp only
    split
    next same => exact readLiteral?_of_read read same
    next => rfl

theorem asText_plain (faithful : l.Faithful) : l.plain.asText = l.asText := by
  unfold CheckedLiteral.asText CheckedLiteral.plain
  split
  next => simp_all
  next =>
    split
    next s converted =>
      obtain ⟨type, read⟩ := faithful _ converted
      have string : type = .string := by
        have kinds := LiteralType.kind_of_read read
        cases type <;> first | rfl | cases kinds
      subst string
      cases read
      rfl
    next => rfl

theorem pattern?_plain (faithful : l.Faithful) (patterns : PatternEngine) :
    l.plain.pattern? patterns = l.pattern? patterns := by
  unfold CheckedLiteral.pattern?
  rw [asText_plain faithful]

end CheckedLiteral

namespace Test

/-- Every literal of the test was converted from its own text. -/
def Faithful (t : Test) : Prop := ∀ l, t.literal = some l → l.Faithful

variable {t : Test} {patterns : PatternEngine}

theorem compared_plain (faithful : t.Faithful) (d : Datum) : t.plain.compared d = t.compared d := by
  obtain ⟨selector, operator, literal⟩ := t
  cases literal with
  | none => rfl
  | some l =>
    simp only [compared, literal!, plain, Option.map_some, ok_bind,
      CheckedLiteral.for?_plain (faithful l rfl)]
    rfl

theorem equalsLiteral_plain {l : CheckedLiteral} (faithful : l.Faithful) (d : Datum) :
    d.equalsLiteral l.plain = d.equalsLiteral l := by
  unfold Datum.equalsLiteral
  rw [CheckedLiteral.for?_plain faithful]

theorem contained_plain (faithful : t.Faithful) (d : Datum) :
    t.plain.contained d = t.contained d := by
  obtain ⟨selector, operator, literal⟩ := t
  cases literal with
  | none => rfl
  | some l =>
    simp only [contained, literal!, plain, Option.map_some, ok_bind,
      equalsLiteral_plain (faithful l rfl), CheckedLiteral.asText_plain (faithful l rfl)]

theorem matched_plain (faithful : t.Faithful) (d : Datum) :
    t.plain.matched patterns d = t.matched patterns d := by
  obtain ⟨selector, operator, literal⟩ := t
  cases literal with
  | none => rfl
  | some l =>
    simp only [matched, literal!, plain, Option.map_some, ok_bind,
      CheckedLiteral.pattern?_plain (faithful l rfl)]

theorem ordered_plain (faithful : t.Faithful) (d : Datum) (holds : Ordering → Bool) :
    t.plain.ordered d holds = t.ordered d holds := by
  unfold ordered
  rw [compared_plain faithful]
  rfl

/-- A test with a literal that was converted from its own text does what the test with the text
does, error by error. -/
theorem run_plain (faithful : t.Faithful) (d : Datum) :
    t.plain.run patterns d = t.run patterns d := by
  have same : t.plain.operator = t.operator := rfl
  unfold run
  rw [same]
  cases t.operator with
  | equal | notEqual => simp only [compared_plain faithful]
  | isIn | notIn => simp only [contained_plain faithful]
  | isEmpty | isNotEmpty => rfl
  | isMatch | notMatch => simp only [matched_plain faithful]
  | less | lessEqual | greater | greaterEqual => simp only [ordered_plain faithful]

/-! ## Selectors in errors -/

/-- The same test under another selector. -/
def select (t : Test) (selector : Selector) : Test := { t with selector }

theorem toOption_compared_select (t : Test) (selector : Selector) (d : Datum) :
    ((t.select selector).compared d).toOption = (t.compared d).toOption := by
  have same : (t.select selector).literal! = t.literal! := rfl
  simp only [compared, same, toOption_bind]
  refine bind_congr fun literal => ?_
  rcases literal.for? d with - | (_ | _) <;> rfl

theorem toOption_contained_select (t : Test) (selector : Selector) (d : Datum) :
    ((t.select selector).contained d).toOption = (t.contained d).toOption := by
  have same : (t.select selector).literal! = t.literal! := rfl
  simp only [contained, same, toOption_bind]
  refine bind_congr fun literal => ?_
  cases d <;> rfl

theorem toOption_emptied_select (t : Test) (selector : Selector) (d : Datum) :
    ((t.select selector).emptied d).toOption = (t.emptied d).toOption := by
  unfold emptied
  cases d.isEmpty? <;> rfl

theorem toOption_matched_select (t : Test) (selector : Selector) (d : Datum) :
    ((t.select selector).matched patterns d).toOption = (t.matched patterns d).toOption := by
  have same : (t.select selector).literal! = t.literal! := rfl
  cases d with
  | string s =>
    simp only [matched, same, toOption_bind]
    refine bind_congr fun literal => ?_
    cases literal.pattern? patterns <;> rfl
  | _ => rfl

theorem toOption_ordered_select (t : Test) (selector : Selector) (d : Datum)
    (holds : Ordering → Bool) :
    ((t.select selector).ordered d holds).toOption = (t.ordered d holds).toOption := by
  unfold ordered
  split
  · rfl
  · simp only [toOption_bind, toOption_compared_select]

/-- The selector of a test is looked at for errors only. -/
theorem toOption_run_select (t : Test) (selector : Selector) (d : Datum) :
    ((t.select selector).run patterns d).toOption = (t.run patterns d).toOption := by
  have same : (t.select selector).operator = t.operator := rfl
  unfold run
  rw [same]
  cases t.operator with
  | equal | notEqual => simp only [toOption_bind, toOption_compared_select]
  | isIn => exact toOption_contained_select t selector d
  | notIn => simp only [toOption_bind, toOption_contained_select]
  | isEmpty => exact toOption_emptied_select t selector d
  | isNotEmpty => simp only [toOption_bind, toOption_emptied_select]
  | isMatch => exact toOption_matched_select t selector d
  | notMatch => simp only [toOption_bind, toOption_matched_select]
  | less | lessEqual | greater | greaterEqual => exact toOption_ordered_select t selector d _

end Test

end Sift

import Mathlib
import Sift.Json.Reader
import Sift.Proofs.Documents
import Sift.Proofs.Lookup
import Sift.Proofs.Number.Rounding

/-!
# What the reader of documents gives

Every document that a text holds is well-formed (`Json.wellFormed_of_read`): the members of an object
are put in order as they are read, and a number that would not be finite is refused. The significand
of a number fits 64 bits, and a power of ten either divides it, which makes it no greater, or
multiplies it, after which the reader looks whether the product is still finite.
-/

namespace Sift

/-! ## Numbers -/

namespace Binary

/-- The number is finite and no greater than what fits 64 bits. -/
def Modest (x : Binary64) : Prop := ∃ v, x.value? = some v ∧ |v| ≤ 2 ^ 64

theorem Modest.isFinite {x : Binary64} (modest : x.Modest) : x.isFinite = true := by
  obtain ⟨v, known, -⟩ := modest
  cases x with
  | nan | infinity => cases known
  | finite => rfl

theorem isFinite_negate {f : BinaryFormat} (x : Binary f) : x.negate.isFinite = x.isFinite := by
  cases x <;> rfl

/-- What is no greater than a number of the format does not become greater by rounding. -/
theorem IsRounding.bounded {f : BinaryFormat} {q v bound : ℚ} (rounding : IsRounding f q v)
    (representable : Representable f bound) (within : |q| ≤ bound) : |v| ≤ bound := by
  obtain ⟨low, high⟩ := abs_le.mp within
  have above := rounding.nearest bound representable
  have below := rounding.nearest (-bound) representable.neg
  have above' : |bound - q| = bound - q := abs_of_nonneg (sub_nonneg.mpr high)
  have below' : |-bound - q| = bound + q := by
    rw [abs_of_nonpos (by linarith)]
    ring
  rw [above'] at above
  rw [below'] at below
  have right := le_abs_self (v - q)
  have left := neg_abs_le (v - q)
  exact abs_le.mpr ⟨by linarith, by linarith⟩

theorem abs_signed (negative : Bool) (q : ℚ) : |signed negative q| = |q| := by
  cases negative with
  | false => rfl
  | true => exact abs_neg q

/-- A quotient that fits 64 bits stays so. -/
theorem modest_ofRatio {num den : Nat} (positive : 0 < den) (small : (num : ℚ) / den ≤ 2 ^ 64)
    (negative : Bool) : (ofRatio negative num den : Binary64).Modest := by
  obtain ⟨v, known⟩ := value?_ofRatio positive small negative
  have rounding := isRounding_ofRatio (by decide) (by decide) positive known
  have representable : Representable .double (2 ^ 64) := ⟨1, 64, by norm_num [BinaryFormat.double],
    by decide, by decide, by norm_num⟩
  refine ⟨v, known, rounding.bounded representable ?_⟩
  rw [abs_signed, abs_of_nonneg (by positivity)]
  exact small

theorem modest_ofInt {n : Nat} (small : n ≤ 2 ^ 64) : (ofInt n : Binary64).Modest := by
  refine modest_ofRatio one_pos ?_ _
  rw [Nat.cast_one, div_one, Int.natAbs_natCast]
  exact_mod_cast small

/-- Dividing by no less than one. -/
theorem Modest.div {x y : Binary64} (modest : x.Modest) {w : ℚ} (known : y.value? = some w)
    (large : 1 ≤ |w|) : (x.div y).Modest := by
  obtain ⟨v, known', small⟩ := modest
  cases x with
  | nan | infinity => cases known'
  | finite a m s =>
    cases y with
    | nan | infinity => cases known
    | finite b n t =>
      cases known
      cases known'
      rw [abs_signed, abs_of_nonneg (by positivity)] at small large
      have filled : n ≠ 0 := by
        rintro rfl
        norm_num at large
      have ratio : ((m <<< (s - t).toNat : ℕ) : ℚ) / (n <<< (t - s).toNat : ℕ) =
          m * 2 ^ s / (n * 2 ^ t) := by
        have scaled := scaleDown_mul m n (t - s)
        have opposite : -(t - s) = s - t := by omega
        rw [scaleDown, opposite] at scaled
        dsimp only at scaled
        rw [mul_div_mul_comm, ← scaled, zpow_sub₀ two_ne_zero]
        field_simp
      rw [Binary.div, if_neg filled]
      refine modest_ofRatio ?_ ?_ _
      · rw [Nat.shiftLeft_eq]
        positivity
      · rw [ratio]
        exact (div_le_self (by positivity) large).trans small

/-- A quotient is rounded to a finite number, or it is infinite. -/
theorem ofRatio_cases {f : BinaryFormat} (negative : Bool) (num den : Nat) :
    (ofRatio negative num den : Binary f) = .infinity negative ∨
      ∃ m s, (ofRatio negative num den : Binary f) = .finite negative m s := by
  unfold ofRatio
  split
  · exact .inr ⟨_, _, rfl⟩
  · dsimp only
    split <;> split
    · exact .inl rfl
    · exact .inr ⟨_, _, rfl⟩
    · exact .inl rfl
    · exact .inr ⟨_, _, rfl⟩

/-- A product of finite numbers is finite unless it is infinite. -/
theorem isFinite_mul {x y : Binary64} (left : x.isFinite = true) (right : y.isFinite = true)
    (seen : (x.mul y).isInfinite = false) : (x.mul y).isFinite = true := by
  cases x with
  | nan | infinity => cases left
  | finite =>
    cases y with
    | nan | infinity => cases right
    | finite =>
      rw [mul] at seen ⊢
      rcases ofRatio_cases _ _ _ with infinite | ⟨m, s, finite⟩
      · rw [infinite] at seen
        cases seen
      · rw [finite]
        rfl

/-- The powers of ten that numbers are multiplied with, or divided by. -/
theorem power_fits : ∀ n < 309, (ofDecimal false 1 (n : Nat) : Binary64).isFinite = true ∧
    (ofInt 1 : Binary64).order (ofDecimal false 1 (n : Nat)) ≠ some .gt := by
  decide +kernel

theorem exists_power {n : Nat} (small : n ≤ 308) :
    ∃ w, (ofDecimal false 1 (n : Nat) : Binary64).value? = some w ∧ 1 ≤ |w| := by
  obtain ⟨finite, notLess⟩ := power_fits n (by omega)
  obtain ⟨w, known⟩ := exists_value? finite
  have one : (ofInt 1 : Binary64).value? = some 1 := by
    have bits : (ofInt 1 : Binary64) = .finite false (2 ^ 52) (-52) := by decide +kernel
    rw [bits, value?, signed]
    norm_num
  obtain ⟨o, ordered, compares⟩ := exists_order one known
  refine ⟨w, known, le_trans ?_ (le_abs_self w)⟩
  cases o with
  | lt => exact le_of_lt compares
  | eq => exact le_of_eq compares
  | gt => exact absurd ordered notLess

end Binary

namespace Json

open Binary

/-- A number made of a significand and a power of ten is finite, if there is one. -/
theorem isFinite_of_go {steps : Nat} {x : Binary64} (modest : x.Modest) {exponent : Int}
    {result : Binary64} (made : ofParts.go steps x exponent = some result) :
    result.isFinite = true := by
  -- What is left after a step of 308 has been divided once more, so it still fits 64 bits.
  induction steps generalizing x exponent with
  | zero =>
    cases made
    rfl
  | succ steps ih =>
    rw [ofParts.go] at made
    split at made
    next near =>
      obtain ⟨w, power, large⟩ := exists_power near
      dsimp only at made
      split at made
      · split at made
        · cases made
        next seen =>
          cases made
          have finite : (ofDecimal false 1 exponent.natAbs : Binary64).isFinite = true :=
            (power_fits _ (by omega)).1
          exact isFinite_mul modest.isFinite finite (by simpa using seen)
      · cases made
        exact (modest.div power large).isFinite
    next far =>
      split at made
      · cases made
        exact modest.isFinite
      · split at made
        · cases made
        · obtain ⟨w, power, large⟩ := exists_power (le_refl 308)
          exact ih (modest.div power large) made

/-- As many digits are taken as fit 64 bits. -/
theorem fitDigits_lt {significand : Nat} (small : significand < 2 ^ 64) (digits : List Char) :
    (fitDigits significand digits).1 < 2 ^ 64 := by
  induction digits generalizing significand with
  | nil => exact small
  | cons c rest ih =>
    rw [fitDigits]
    dsimp only
    split
    next fits => exact ih (by simpa using fits)
    next => exact small

theorem isFinite_of_ofParts {significand : Nat} (small : significand < 2 ^ 64) {exponent : Int}
    {result : Binary64} (made : ofParts significand exponent = some result) :
    result.isFinite = true :=
  isFinite_of_go (modest_ofInt small.le) made

theorem wellFormed_wholeNumber (negative : Bool) {magnitude : Nat} (small : magnitude < 2 ^ 64) :
    (wholeNumber negative magnitude).WellFormed := by
  unfold wholeNumber
  split
  · split
    · exact .int _
    · refine .float ?_
      rw [isFinite_negate]
      exact (modest_ofInt small.le).isFinite
  · split
    · exact .int _
    · exact .uint _

theorem wellFormed_of_composeNumber {negative : Bool} {whole : List Char}
    {fraction : Option (List Char)} {exponent : Option (Bool × Nat)} {document : Json}
    (composed : composeNumber negative whole fraction exponent = some document) :
    document.WellFormed := by
  have start := fitDigits_lt (Nat.two_pow_pos 64) whole
  have signed {x : Binary64} (finite : x.isFinite = true) :
      (Json.float (if negative then x.negate else x)).WellFormed := by
    refine .float ?_
    split
    · rw [isFinite_negate]
      exact finite
    · exact finite
  unfold composeNumber at composed
  dsimp only at composed
  split at composed
  · cases composed
    exact wellFormed_wholeNumber negative start
  · split at composed
    · obtain ⟨x, made, rfl⟩ := Option.map_eq_some_iff.mp composed
      exact signed (isFinite_of_ofParts (fitDigits_lt start _) made)
    · split at composed
      · obtain ⟨x, made, rfl⟩ := Option.map_eq_some_iff.mp composed
        exact signed (isFinite_of_ofParts (fitDigits_lt start _) made)
      · split at composed
        · cases composed
        · cases composed
          exact signed rfl

/-! ## Readers -/

/-- Whatever the reader gives has a property. -/
def Gives {α : Type} (reading : Reading α) (P : α → Prop) : Prop :=
  ∀ text a rest, reading text = some (a, rest) → P a

theorem gives_number : Gives number WellFormed := by
  intro text document rest read
  unfold number at read
  dsimp only at read
  -- with or without a sign in front, and in either case with digits that are no number or with some
  split at read <;> split at read
  case isTrue | isTrue => cases read
  all_goals
    obtain ⟨_, -, read⟩ := Option.bind_eq_some_iff.mp read
    obtain ⟨_, -, read⟩ := Option.bind_eq_some_iff.mp read
    obtain ⟨number, composed, same⟩ := Option.bind_eq_some_iff.mp read
    cases same
    exact wellFormed_of_composeNumber composed

theorem gives_word (expected : List Char) {document : Json} (wf : document.WellFormed) :
    Gives (word expected document) WellFormed := by
  intro text document' rest read
  unfold word at read
  split at read
  · cases read
    exact wf
  · cases read

theorem gives_scalar (steps : Nat) : Gives (scalar steps) WellFormed := by
  intro text document rest read
  unfold scalar at read
  split at read
  · exact gives_word _ .null _ _ _ read
  · exact gives_word _ (.bool true) _ _ _ read
  · exact gives_word _ (.bool false) _ _ _ read
  · obtain ⟨⟨s, behind⟩, -, same⟩ := Option.map_eq_some_iff.mp read
    cases same
    exact .string s
  · exact gives_number _ _ _ read

theorem Gives.separated {α : Type} {item : Reading α} {P : α → Prop} (gives : Gives item P)
    (closing : Char) (steps : Nat) :
    Gives (Json.separated item closing steps) fun items => ∀ a ∈ items, P a := by
  induction steps with
  | zero => nofun
  | succ steps ih =>
    intro text items rest read
    rw [Json.separated] at read
    obtain ⟨⟨first, behind⟩, read₁, read⟩ := Option.bind_eq_some_iff.mp read
    have here := gives _ _ _ read₁
    dsimp only at read
    split at read
    · obtain ⟨⟨others, behind'⟩, read₂, same⟩ := Option.bind_eq_some_iff.mp read
      cases same
      exact List.forall_mem_cons.mpr ⟨here, ih _ _ _ read₂⟩
    · split at read
      · cases read
        exact List.forall_mem_singleton.mpr here
      · cases read
    · cases read

theorem Gives.member {value : Reading Json} (gives : Gives value WellFormed) (steps : Nat) :
    Gives (Json.member steps value) fun entry => entry.2.WellFormed := by
  intro text entry rest read
  rw [Json.member] at read
  obtain ⟨⟨key, behind⟩, -, read⟩ := Option.bind_eq_some_iff.mp read
  dsimp only at read
  split at read
  · obtain ⟨⟨document, behind'⟩, read', same⟩ := Option.bind_eq_some_iff.mp read
    cases same
    exact gives _ _ _ read'
  · cases read

theorem gives_value (steps levels : Nat) : Gives (value steps levels) WellFormed := by
  -- Items and members are read with one level less.
  induction levels with
  | zero =>
    intro text document rest read
    rw [value] at read
    split at read
    · cases read
    · cases read
    · exact gives_scalar steps _ _ _ read
  | succ levels ih =>
    intro text document rest read
    rw [value] at read
    split at read
    · split at read
      · cases read
        exact .array (List.forall_mem_nil _)
      · obtain ⟨⟨items, behind⟩, read', same⟩ := Option.map_eq_some_iff.mp read
        cases same
        exact .array (ih.separated _ _ _ _ _ read')
    · split at read
      · cases read
        exact .object List.Pairwise.nil (List.forall_mem_nil _)
      · obtain ⟨⟨members, behind⟩, read', same⟩ := Option.map_eq_some_iff.mp read
        cases same
        refine .object (sorted_sortEntries members) fun entry inside => ?_
        exact (ih.member steps).separated _ _ _ _ _ read' entry (of_mem_sortEntries inside)
    · exact gives_scalar steps _ _ _ read

/-- A text holds a well-formed document, if any. -/
theorem wellFormed_of_read {text : String} {document : Json} (read : read? text = some document) :
    document.WellFormed := by
  unfold read? at read
  dsimp only at read
  split at read
  next value =>
    split at read
    · cases read
      exact gives_value _ _ _ _ _ value
    · cases read
  next => cases read

end Json

end Sift

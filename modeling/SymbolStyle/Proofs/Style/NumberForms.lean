import SymbolStyle.Proofs.Message
import SymbolStyle.Proofs.Style.Respelling
import SymbolStyle.Style.Variables

/-! # Whole numbers and doubles

    A number is a whole number or a double. If a whole number is exactly a double it
    can be written as either, in expressions and in the fields of styles, at every
    depth.

    The two take different ways. A whole number is rounded, a double is taken as it
    is, and where levels of colors are scaled, the quotient of the whole number is
    rounded once while the double is divided. All of them agree up to the largest
    double, because quotients that are equal are rounded alike.

    * `Double.isExact_iff`: which whole numbers are doubles.
    * `Respelling.doubles`: the spelling with all of these as doubles. Values are the
      same but for the spelling of numbers if this one is the same.
    * `Style.numbers_interchangeable`: checking and compiling an expression or a style
      with its numbers in another spelling ends alike.
-/

namespace SymbolStyle

open Value

/-! ## Whole numbers that are doubles -/

/-- Whether the magnitude is the given whole number. -/
def Magnitude.isNat (m : Magnitude) (n : Nat) : Bool := m.units = n * BinaryFormat.double.one

theorem Magnitude.isNat_iff {m : Magnitude} {n : Nat} : m.isNat n ↔ m.value = n := by
  rw [isNat, decide_eq_true_iff, value, div_eq_iff BinaryFormat.double.cast_one_pos.ne',
    ← Nat.cast_mul, Nat.cast_inj]

namespace Double

/-- Whether the number is the given whole number, up to its sign. -/
def isNat : Double → Nat → Bool
  | .finite _ m, n => m.isNat n
  | _, _ => false

/-- Whether a whole number is exactly a double. -/
def isExact (n : Int) : Bool := (ofInt n).isNat n.natAbs

/-- A whole number with a magnitude of its own has it as its double. -/
theorem ofInt_eq_of_value {n : Int} {m : Magnitude} (h : m.value = n.natAbs) :
    ofInt n = .finite (n < 0) m := by
  have hone := BinaryFormat.double.one_pos
  have hquotient : (n.natAbs : ℚ) / (1 : ℕ) = (m.units : ℚ) / BinaryFormat.double.one := by
    rw [Nat.cast_one, div_one, ← h]
    rfl
  rw [ofInt, ofQuotient_congr _ Nat.one_pos hone hquotient, ofQuotient_units]

/-- The whole numbers that are exact are those that are the value of a double. -/
theorem isExact_iff {n : Int} : isExact n ↔ ∃ m : Magnitude, m.value = n.natAbs := by
  constructor
  · intro h
    unfold isExact at h
    generalize ofInt n = x at h
    cases x with
    | finite _ m => exact ⟨m, Magnitude.isNat_iff.1 h⟩
    | _ => cases h
  · rintro ⟨m, hm⟩
    rw [isExact, ofInt_eq_of_value hm]
    exact Magnitude.isNat_iff.2 hm

/-- Beyond 53 bits there are gaps. -/
example : isExact (2 ^ 53) ∧ ¬ isExact (2 ^ 53 + 1) := by decide +kernel

/-- An exact whole number as a double. -/
theorem exists_ofInt_of_isExact {n : Int} (h : isExact n) :
    ∃ m : Magnitude, ofInt n = .finite (n < 0) m ∧ m.value = n.natAbs := by
  obtain ⟨m, hm⟩ := isExact_iff.1 h
  exact ⟨m, ofInt_eq_of_value hm, hm⟩

theorem isFinite_ofInt_of_isExact {n : Int} (h : isExact n) : (ofInt n).isFinite := by
  obtain ⟨m, hofInt, -⟩ := exists_ofInt_of_isExact h
  rw [hofInt]
  rfl

/-- Zero is a zero as a double too, and nothing else is. -/
theorem isZero_ofInt {n : Int} (h : isExact n) : (ofInt n).isZero = (n == 0) := by
  obtain ⟨m, hofInt, hm⟩ := exists_ofInt_of_isExact h
  have hrank : m.rank = 0 ↔ n = 0 := by
    rw [← Magnitude.value_eq_zero_iff, hm, Nat.cast_eq_zero, Int.natAbs_eq_zero]
  rw [hofInt, isZero, Bool.eq_iff_iff, beq_iff_eq, beq_iff_eq, hrank]

/-- Dividing the double of an exact number gives the double that is nearest to the
    exact quotient. -/
theorem divNat_ofInt {n : Int} (h : isExact n) {den : Nat} (hden : 0 < den) :
    (ofInt n).divNat den = ofQuotient (n < 0) n.natAbs den := by
  obtain ⟨m, hofInt, hm⟩ := exists_ofInt_of_isExact h
  have hone := BinaryFormat.double.one_pos
  -- The unit of doubles is a factor of both sides of the division.
  have hquotient : (m.units : ℚ) / (den * BinaryFormat.double.one : ℕ) = n.natAbs / den := by
    rw [Nat.cast_mul, mul_comm, ← div_div, ← hm]
    rfl
  rw [hofInt, divNat, ofQuotient_congr _ (Nat.mul_pos hden hone) hden hquotient]

end Double

/-! ## Doubles for whole numbers -/

/-- A level of a color is the same as a double. -/
theorem Glsl.scaleLevel_ofInt {n : Int} (h : Double.isExact n) :
    Glsl.scaleLevel (.float (.ofInt n)) = Glsl.scaleLevel (.int n) := by
  have hshare := Double.isFinite_ofQuotient_of_isFinite_ofInt 255 (by decide)
    (Double.isFinite_ofInt_of_isExact h)
  simp only [Glsl.scaleLevel]
  rw [Double.divNat_ofInt h (by decide), if_pos hshare]

/-- A whole number as the nearest double. -/
def Value.wholeFloat (n : Int) : Value := .float (.ofInt n)

/-- A whole number, as a double if it exactly is one. -/
def Value.exactFloat (n : Int) : Value := if Double.isExact n then wholeFloat n else .int n

/-- All whole numbers that are exactly doubles as doubles. -/
def Respelling.doubles : Respelling where
  int := exactFloat
  form := id
  number?_int n := by
    unfold exactFloat
    split <;> rfl
  isVacant_int n := by
    unfold exactFloat
    split
    · next h => exact Double.isZero_ofInt h
    · rfl
  scaleLevel_int n := by
    unfold exactFloat
    split
    · next h => exact Glsl.scaleLevel_ofInt h
    · rfl
  hasLongInt_int n := by
    unfold exactFloat
    split
    · next h => exact (hasLongInt_of_isFinite_ofInt (Double.isFinite_ofInt_of_isExact h)).symm
    · rfl
  form_list := rfl

namespace Value

/-- The value with doubles for its whole numbers, at every depth, as far as they are
    exactly doubles. -/
def asDoubles (v : Value) : Value := v.respell .doubles

/-- A whole number that is exactly a double and that double are spellings of one
    number. -/
theorem asDoubles_wholeFloat {n : Int} (h : Double.isExact n) :
    (wholeFloat n).asDoubles = (Value.int n).asDoubles := by
  -- Said of the functions, so that no double of an unknown number is computed.
  have hint : Respelling.doubles.int = exactFloat := rfl
  rw [asDoubles, asDoubles, wholeFloat, respell_float, respell_int, hint, exactFloat, if_pos h,
    wholeFloat]

end Value

namespace Style

/-- Values that differ only in whether their whole numbers are written as such or as
    doubles have one kind. They are checked and compiled alike: to the same code and
    the same names, or with errors of one class. So are styles whose fields are given
    such values. -/
theorem numbers_interchangeable :
    (∀ v w : Value, v.asDoubles = w.asDoubles →
      v.kind = w.kind ∧
      EndAlike (fun e e' => e.errorClass = e'.errorClass) v.validate w.validate ∧
      ∀ stem wanted names, EndAlike (fun f f' => f.errorClass = f'.errorClass)
        (v.compile stem wanted names) (w.compile stem wanted names)) ∧
    ∀ style other : Value, SpellsSame .doubles style other →
      EndAlike (fun e e' => e.errorClass = e'.errorClass) (compile style).result
        (compile other).result ∧
      ∀ uniforms, readUniforms style uniforms = readUniforms other uniforms := by
  constructor
  · intro v w h
    refine ⟨kind_eq_of_respell h, ?_, ?_⟩
    · apply EndAlike.of_mapError_eq (validate_of_respell h)
      intro e e' _ _ herror
      exact ExpressionError.errorClass_eq_of_respell herror
    · intro stem wanted names
      apply EndAlike.of_mapError_eq (compile_of_respell h stem wanted names)
      intro f f' _ _ herror
      exact Fault.errorClass_eq_of_respell herror
  · intro style other h
    refine ⟨?_, h.readUniforms⟩
    apply EndAlike.of_mapError_eq (result_of_spellsSame h)
    intro e e' _ _ herror
    exact StyleError.errorClass_eq_of_respell herror

/-- A height that is kept within limits, for a way to write numbers. -/
def limitedHeight (number : Int → Value) : Value :=
  .sequence .list [.string "clamp", .sequence .list [.string "get", .string "height"], number 0,
    number (10 ^ 22)]

/-- A square with a limited height and with levels of zero in its color. Its filter is
    zero too. -/
def limitedSquare (number : Int → Value) : Value :=
  .object [("symbol", .object [("symbolType", .string "square"),
    ("size", .sequence .list [number 128, limitedHeight number]),
    ("color", .sequence .list [number 0, number 0, number 128])]), ("filter", number 0)]

/-- The upper limit has more digits than a double can always tell apart, but it is one
    of those that a double can hold. -/
theorem limits_as_doubles :
    ((limitedHeight wholeFloat).asDoubles = (limitedHeight .int).asDoubles ∧
      (limitedHeight wholeFloat).kind = (limitedHeight .int).kind) ∧
    SpellsSame .doubles (limitedSquare wholeFloat) (limitedSquare .int) ∧
      ∃ compiled, (compile (limitedSquare wholeFloat)).result = .ok compiled ∧
        (compile (limitedSquare .int)).result = .ok compiled := by
  have hzero := asDoubles_wholeFloat (n := 0) (by decide +kernel)
  have hlevel := asDoubles_wholeFloat (n := 128) (by decide +kernel)
  have hlimit := asDoubles_wholeFloat (n := 10 ^ 22) (by decide +kernel)
  have hheight : (limitedHeight wholeFloat).asDoubles = (limitedHeight .int).asDoubles := by
    have hlimits : ∀ number, (limitedHeight number).asDoubles
        = .sequence .list [.string "clamp", .sequence .list [.string "get", .string "height"],
          (number 0).asDoubles, (number (10 ^ 22)).asDoubles] := fun _ => rfl
    rw [hlimits, hlimits, hzero, hlimit]
  have hstyle : SpellsSame .doubles (limitedSquare wholeFloat) (limitedSquare .int) := by
    have hsize : ∀ number, (givenFor? (limitedSquare number) .size).map (Value.respell .doubles)
        = some (.sequence .list [(number 128).asDoubles, (limitedHeight number).asDoubles]) :=
      fun _ => rfl
    have hcolor : ∀ number, (givenFor? (limitedSquare number) .color).map (Value.respell .doubles)
        = some (.sequence .list [(number 0).asDoubles, (number 0).asDoubles,
          (number 128).asDoubles]) := fun _ => rfl
    refine ⟨rfl, ?_, ?_, rfl⟩
    · intro field
      cases field with
      | size => rw [hsize, hsize, hlevel, hheight]
      | color => rw [hcolor, hcolor, hzero, hlevel]
      | filter => exact congrArg some hzero
      | _ => rfl
    · simp only [List.forall_mem_cons, List.not_mem_nil, false_implies, implies_true, and_true]
      exact ⟨rfl, rfl, rfl⟩
  obtain ⟨compiled, hcompile⟩ : ∃ compiled,
      (compile (limitedSquare wholeFloat)).result = .ok compiled :=
    exists_ok_of_isOk (by decide +kernel)
  obtain ⟨hvalues, hstyles⟩ := numbers_interchangeable
  refine ⟨⟨hheight, (hvalues _ _ hheight).1⟩, hstyle, compiled, hcompile, ?_⟩
  exact (hstyles _ _ hstyle).1.eq_ok_iff.1 hcompile

end Style

end SymbolStyle

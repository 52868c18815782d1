import SymbolStyle.Proofs.Compilation
import SymbolStyle.Proofs.Glsl.Literal
import SymbolStyle.Proofs.Number.Bound

/-! # Errors with a message

    Checking and compiling an expression end well or with an error that points
    into it. Whether the error can be shown is another question: the message
    quotes a part of the expression, and a whole number in it may be too long to
    be written.

    * `ExpressionError.PointsInto`: what holds of each error.
    * `Value.pointsInto_of_compile`, `Value.faults_pointInto`: it does hold, whatever
      is checked or compiled.
    * `Value.validate_of_hasLongInt`: the errors without a message include those
      about a number that is refused for its size.
-/

namespace SymbolStyle

namespace ExpressionError

/-- The error names a part of the value and quotes a part of it, and it has a
    message exactly if the quoted part can be written. -/
structure PointsInto (e : ExpressionError) (v : Value) : Prop where
  expression : e.expression.IsPart v
  quoted : e.quoted.IsPart v
  isSome_message?_iff : e.message?.isSome ↔ e.quoted.hasLongInt = false

variable {e : ExpressionError} {v : Value}

theorem Blames.pointsInto (h : e.Blames v) : e.PointsInto v :=
  ⟨h.expression, h.quoted, isSome_message?_iff⟩

theorem PointsInto.isSome_message? (h : e.PointsInto v) (hv : v.hasLongInt = false) :
    e.message?.isSome :=
  h.isSome_message?_iff.2 (h.quoted.hasLongInt_eq_false hv)

/-- The error about a text that is no color names that text. -/
theorem colorText_pointsInto (text : String) : (colorText text).PointsInto (.string text) :=
  ⟨.refl, .refl, isSome_message?_iff⟩

end ExpressionError

namespace Value

/-- Compiling fails with errors in expressions only, and they point into the value. -/
theorem pointsInto_of_compile {v : Value} {stem : String} {wanted : Option Kind} {names : Names}
    {fault : Fault} (h : v.compile stem wanted names = .error fault) :
    ∃ e, fault = .expression e ∧ e.PointsInto v := by
  rcases v.compile_cases stem wanted with
    ⟨e, herror, hcompile⟩ | ⟨text, rfl, -, -, hcompile⟩ | ⟨k, tree, -, -, -, hcompile⟩
  · obtain rfl := Except.error.inj ((hcompile names).symm.trans h)
    exact ⟨e, rfl, (blames_of_validate_eq_error herror).pointsInto⟩
  · obtain rfl := Except.error.inj ((hcompile names).symm.trans h)
    exact ⟨_, rfl, ExpressionError.colorText_pointsInto text⟩
  · rw [hcompile names] at h
    cases h

/-- Whatever is checked or compiled, errors point into the value, and they have
    messages if there is no whole number in it that is too long to be written. -/
theorem faults_pointInto (v : Value) :
    (∀ e, v.validate = .error e →
      e.PointsInto v ∧ (v.hasLongInt = false → e.message?.isSome)) ∧
    ∀ stem wanted names fault, v.compile stem wanted names = .error fault →
      ∃ e, fault = .expression e ∧ e.PointsInto v ∧ (v.hasLongInt = false → e.message?.isSome) := by
  have hvalidate : ∀ e, v.validate = .error e → e.PointsInto v := fun e h =>
    (blames_of_validate_eq_error h).pointsInto
  refine ⟨fun e h => ⟨hvalidate e h, (hvalidate e h).isSome_message?⟩, ?_⟩
  intro stem wanted names fault h
  obtain ⟨e, rfl, hpoints⟩ := pointsInto_of_compile h
  exact ⟨e, rfl, hpoints, hpoints.isSome_message?⟩

/-- A whole number that has a finite double can be written. -/
theorem hasLongInt_of_isFinite_ofInt {n : Int} (hfinite : (Double.ofInt n).isFinite) :
    (Value.int n).hasLongInt = false := by
  have hbound : 1 * Double.overflowBound < longInt := by decide +kernel
  have hlt := (Double.isFinite_ofQuotient_iff Nat.one_pos).1 hfinite
  rw [hasLongInt, decide_eq_false_iff_not]
  omega

/-- A whole number that is too long to be written is beyond the doubles too. So
    it is refused, and without a message. -/
theorem validate_of_hasLongInt {n : Int} (hlong : (Value.int n).hasLongInt) :
    ∃ e, (Value.int n).validate = .error e ∧ e.message? = none := by
  have hlarge : (Double.ofInt n).isFinite = false := by
    rw [Bool.eq_false_iff]
    intro hfinite
    rw [hasLongInt_of_isFinite_ofInt hfinite] at hlong
    cases hlong
  refine ⟨.nonFinite (.int n) (.int n), ?_, ?_⟩
  · rw [Glsl.validate_number rfl, hlarge]
    rfl
  · rw [← Option.not_isSome_iff_eq_none, ExpressionError.isSome_message?_iff,
      ExpressionError.quoted, hlong]
    decide

theorem longInt_unshown : ∃ e, (Value.int longInt).validate = .error e ∧ e.message? = none :=
  validate_of_hasLongInt (by decide +kernel)

end Value

end SymbolStyle

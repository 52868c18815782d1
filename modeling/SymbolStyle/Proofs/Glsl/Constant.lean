import SymbolStyle.Proofs.Glsl.Literal
import SymbolStyle.Proofs.Number.Bound

/-! # Constants of numbers

    What becomes of numbers that are to be written as a vector or as a color.

    How many they are is looked at first. A vector then fails for its first
    component without a finite double. A color is scaled before it is written,
    and a whole number whose share is beyond the doubles already fails there,
    with an error that is none of the library's own.

    * `vectorOf_cases`: how writing a vector ends.
    * `scaleLevel_cases`, `colorOf_cases`: how scaling and writing a color ends.
    * `constants_reported`: both, for numbers that can be quoted in a message.
      `hugeLevel_unreported`: a level that is not reported as it should be.
-/

namespace SymbolStyle

open Value

/-- The number has a finite double once it is divided by 255. -/
def Value.HasShare : Value → Prop
  | .int n => n.natAbs < 255 * Double.overflowBound
  | v => v.isFiniteNumber

namespace Glsl

/-! ## Vectors -/

theorem literalOf_eq_error_of_isNumber {v : Value} (hv : v.isNumber)
    (hfinite : v.isFiniteNumber = false) :
    literalOf v = .error (.expression (.nonFinite v v)) := by
  rw [isNumber_eq_isSome_number?, Option.isSome_iff_exists] at hv
  obtain ⟨x, hx⟩ := hv
  rw [isFiniteNumber, hx, Option.any_some] at hfinite
  exact literalOf_eq_error hx hfinite

theorem vector?_eq_none_iff {n : Nat} : Function.vector? n = none ↔ n < 2 ∨ 4 < n := by
  unfold Function.vector?
  split
  · simp
  · simp
  · simp
  · next htwo hthree hfour =>
    have hother : n ≠ 2 ∧ n ≠ 3 ∧ n ≠ 4 := ⟨htwo, hthree, hfour⟩
    simp only [true_iff]
    omega

/-- A wrong number of components is an error before they are looked at. -/
theorem vectorOf_of_count {components : List Value}
    (hcount : components.length < 2 ∨ 4 < components.length) :
    vectorOf components = .error (.expression (.vectorSize components)) := by
  rw [vectorOf, vector?_eq_none_iff.2 hcount]

/-- Otherwise finite numbers are written, and any other one is an error. -/
theorem vectorOf_cases {components : List Value} (hnumbers : ∀ c ∈ components, c.isNumber)
    (hlow : 2 ≤ components.length) (hhigh : components.length ≤ 4) :
    ((∀ c ∈ components, c.isFiniteNumber) ∧ ∃ tree, vectorOf components = .ok tree) ∨
      ∃ c ∈ components, c.isFiniteNumber = false ∧
        vectorOf components = .error (.expression (.nonFinite c c)) := by
  obtain ⟨constructor, hconstructor⟩ : ∃ f, Function.vector? components.length = some f := by
    rw [← Option.ne_none_iff_exists', ne_eq, vector?_eq_none_iff]
    omega
  have hvector : vectorOf components
      = components.mapM literalOf >>= fun literals =>
        .ok (.call constructor (literals.map .literal)) := by
    rw [vectorOf, hconstructor]
    rfl
  rw [hvector]
  -- A number has a literal exactly if it is finite.
  have hliteral : ∀ c ∈ components, c.isFiniteNumber = false →
      literalOf c = .error (.expression (.nonFinite c c)) := fun c hc =>
    literalOf_eq_error_of_isNumber (hnumbers c hc)
  cases hliterals : components.mapM literalOf with
  | ok literals =>
    refine .inl ⟨fun c hc => ?_, _, rfl⟩
    obtain ⟨l, -, hl⟩ := exists_mem_of_mapM_eq_ok hliterals hc
    by_contra hfinite
    rw [hliteral c hc (by simpa using hfinite)] at hl
    cases hl
  | error fault =>
    obtain ⟨before, c, after, rfl, -, herror⟩ := mapM_eq_error_iff.1 hliterals
    have hc : c ∈ before ++ c :: after := by simp
    cases hfinite : c.isFiniteNumber with
    | true =>
      obtain ⟨l, hl⟩ := exists_literalOf hfinite
      rw [hl] at herror
      cases herror
    | false =>
      obtain rfl : .expression (.nonFinite c c) = fault :=
        Except.error.inj ((hliteral c hc hfinite).symm.trans herror)
      exact .inr ⟨c, hc, hfinite, rfl⟩

/-! ## Levels -/

/-- A level is scaled unless it is a whole number beyond the bound. Its share is
    finite, or the level is a double that is not finite and stays as it is. -/
theorem scaleLevel_cases {v : Value} (hv : v.isNumber) :
    (∃ n, v = .int n ∧ ¬ v.HasShare ∧ scaleLevel v = .error (.conversion .tooLarge)) ∨
      (∃ share, scaleLevel v = .ok share ∧ share.isNumber ∧ share.isFiniteNumber ∧ v.HasShare) ∨
      ∃ x, v = .float x ∧ scaleLevel v = .ok v ∧ v.isFiniteNumber = false := by
  cases v with
  | int n =>
    have hshare : (Double.ofQuotient (n < 0) n.natAbs 255).isFinite ↔ (Value.int n).HasShare :=
      Double.isFinite_ofQuotient_iff (by decide)
    by_cases hfinite : (Double.ofQuotient (n < 0) n.natAbs 255).isFinite
    · refine .inr (.inl ⟨_, scaleLevel_int hfinite, rfl, ?_, hshare.1 hfinite⟩)
      rw [isFiniteNumber_float, hfinite]
    · refine .inl ⟨n, rfl, fun h => hfinite (hshare.2 h), ?_⟩
      simp only [scaleLevel, hfinite]
      rfl
  | float x =>
    cases hfinite : x.isFinite with
    | true =>
      refine .inr (.inl ⟨.float (x.divNat 255), rfl, rfl, ?_, hfinite⟩)
      rw [isFiniteNumber_float, Double.isFinite_divNat 255 (by decide) hfinite]
    | false =>
      refine .inr (.inr ⟨x, rfl, ?_, hfinite⟩)
      cases x with
      | finite negative m => cases hfinite
      | nan => rfl
      | infinite negative => rfl
  | _ => cases hv

/-- What a scaled level says about the level. -/
theorem share_of_scaleLevel {v share : Value} (hv : v.isNumber) (h : scaleLevel v = .ok share) :
    share.isNumber ∧ (share.isFiniteNumber ∧ v.HasShare ∨
      share.isFiniteNumber = false ∧ share = v ∧ ∃ x, v = .float x) := by
  rcases scaleLevel_cases hv with ⟨n, rfl, -, herror⟩ | ⟨share', hok, hnumber, hfinite, hshare⟩ |
    ⟨x, rfl, hok, hfinite⟩
  · rw [herror] at h
    cases h
  · obtain rfl : share' = share := Except.ok.inj (hok.symm.trans h)
    exact ⟨hnumber, .inl ⟨hfinite, hshare⟩⟩
  · obtain rfl : .float x = share := Except.ok.inj (hok.symm.trans h)
    exact ⟨rfl, .inr ⟨hfinite, rfl, x, rfl⟩⟩

/-! ## Colors -/

theorem alphaOf_cases {channels : List Value}
    (hcount : channels.length = 3 ∨ channels.length = 4) :
    ∃ alpha, alphaOf channels = [alpha] ∧
      (alpha = .int 1 ∧ channels.drop 3 = [] ∨ channels.drop 3 = [alpha]) := by
  match channels, hcount with
  | [_, _, _], _ => exact ⟨.int 1, rfl, .inl ⟨rfl, rfl⟩⟩
  | [_, _, _, alpha], _ => exact ⟨alpha, rfl, .inr rfl⟩

theorem colorOf_of_wrong_count {color : Value} {channels : List Value}
    (hchannels : color.channels = .ok channels)
    (hcount : channels.length ≠ 3 ∧ channels.length ≠ 4) :
    colorOf color = .error (.expression (.channelCount color)) := by
  simp only [colorOf, hchannels, Except.mapError, bind, Except.bind]
  split
  · exact absurd rfl hcount.1
  · exact absurd rfl hcount.2
  · rfl

/-- Three or four numbers are written as a color if their levels have shares and
    alpha is finite. A level that is a whole number without a share comes first
    among what is wrong with them, and it is not reported as the others are. -/
theorem colorOf_cases (form : SequenceForm) {items : List Value}
    (hnumbers : ∀ item ∈ items, item.isNumber) (hcount : items.length = 3 ∨ items.length = 4) :
    ((∀ level ∈ items.take 3, level.HasShare) ∧ (∀ alpha ∈ items.drop 3, alpha.isFiniteNumber) ∧
        ∃ tree, colorOf (.sequence form items) = .ok tree) ∨
      ((∀ n, .int n ∈ items.take 3 → (Value.int n).HasShare) ∧
        ∃ channel ∈ items, channel.isFiniteNumber = false ∧
          colorOf (.sequence form items) = .error (.expression (.nonFinite channel channel))) ∨
      (∃ n, .int n ∈ items.take 3 ∧ ¬ (Value.int n).HasShare) ∧
        colorOf (.sequence form items) = .error (.conversion .tooLarge) := by
  have hlevels : ∀ level ∈ items.take 3, level.isNumber := fun level hlevel =>
    hnumbers level (List.mem_of_mem_take hlevel)
  rw [colorOf_of_count (channels_of_isNumber form hnumbers) hcount]
  cases hscaled : (items.take 3).mapM scaleLevel with
  | error fault =>
    -- Only a whole number without a share is not scaled.
    obtain ⟨before, level, after, heq, -, herror⟩ := mapM_eq_error_iff.1 hscaled
    have hmem : level ∈ items.take 3 := by simp [heq]
    rcases scaleLevel_cases (hlevels level hmem) with
      ⟨n, rfl, hshare, hfault⟩ | ⟨share, hok, -⟩ | ⟨x, -, hok, -⟩
    · obtain rfl : .conversion .tooLarge = fault := Except.error.inj (hfault.symm.trans herror)
      exact .inr (.inr ⟨⟨n, hmem, hshare⟩, rfl⟩)
    · rw [hok] at herror
      cases herror
    · rw [hok] at herror
      cases herror
  | ok shares =>
    obtain ⟨hlength, hshares⟩ := length_and_mem_of_mapM_eq_ok hscaled
    obtain ⟨alpha, halpha, hdrop⟩ := alphaOf_cases hcount
    have hone : (Value.int 1).isFiniteNumber := by decide +kernel
    rw [halpha]
    -- The components come from the levels, but for the last.
    have hcomponent : ∀ c ∈ shares ++ [alpha], c.isNumber ∧ (c.isFiniteNumber = false →
        c ∈ items) := by
      intro c hc
      rcases List.mem_append.1 hc with hc | hc
      · obtain ⟨level, hlevel, hscale⟩ := hshares c hc
        obtain ⟨hnumber, ⟨hfinite, -⟩ | ⟨-, rfl, -⟩⟩ :=
          share_of_scaleLevel (hlevels level hlevel) hscale
        · exact ⟨hnumber, fun h => by simp [h] at hfinite⟩
        · exact ⟨hnumber, fun _ => List.mem_of_mem_take hlevel⟩
      · obtain rfl := List.mem_singleton.1 hc
        rcases hdrop with ⟨rfl, -⟩ | hdrop
        · exact ⟨rfl, fun h => by simp [h] at hone⟩
        · have hmem : c ∈ items := List.mem_of_mem_drop (hdrop ▸ List.mem_singleton_self c)
          exact ⟨hnumbers c hmem, fun _ => hmem⟩
    have hfour : (shares ++ [alpha]).length = 4 := by
      rw [List.length_append, hlength, List.length_take, List.length_singleton]
      omega
    rcases vectorOf_cases (fun c hc => (hcomponent c hc).1) (by omega) (by omega) with
      ⟨hfinite, hok⟩ | ⟨c, hc, hnot, herror⟩
    · refine .inl ⟨fun level hlevel => ?_, fun a ha => hfinite a ?_, hok⟩
      · obtain ⟨share, hshare, hscale⟩ := exists_mem_of_mapM_eq_ok hscaled hlevel
        obtain ⟨-, ⟨-, hhas⟩ | ⟨hnot, -⟩⟩ := share_of_scaleLevel (hlevels level hlevel) hscale
        · exact hhas
        · have hthis := hfinite share (by simp [hshare])
          rw [hnot] at hthis
          cases hthis
      · rcases hdrop with ⟨-, hdrop⟩ | hdrop
        · simp [hdrop] at ha
        · exact List.mem_append_right shares (hdrop ▸ ha)
    · refine .inr (.inl ⟨fun n hn => ?_, c, (hcomponent c hc).2 hnot, hnot, herror⟩)
      obtain ⟨share, -, hscale⟩ := exists_mem_of_mapM_eq_ok hscaled hn
      obtain ⟨-, ⟨-, hhas⟩ | ⟨-, -, x, hx⟩⟩ := share_of_scaleLevel (hlevels _ hn) hscale
      · exact hhas
      · cases hx

/-! ## Reports -/

/-- The result is an error that can be shown. -/
structure Reports (result : Except Fault Expr) (e : ExpressionError) : Prop where
  eq_error : result = .error (.expression e)
  isSome_message? : e.message?.isSome

/-- Numbers are written as a vector, and as a color, or what is wrong with them
    is reported: their count, or one of them that is not finite. The exception is
    a level of a color that is a whole number without a share. -/
theorem constants_reported (form : SequenceForm) {items : List Value}
    (hnumbers : ∀ item ∈ items, item.isNumber) (hlong : anyLongInt items = false) :
    (items.length < 2 ∨ 4 < items.length → Reports (vectorOf items) (.vectorSize items)) ∧
    (2 ≤ items.length → items.length ≤ 4 →
      ((∀ item ∈ items, item.isFiniteNumber) ∧ ∃ tree, vectorOf items = .ok tree) ∨
        ∃ item ∈ items, item.isFiniteNumber = false ∧
          Reports (vectorOf items) (.nonFinite item item)) ∧
    (items.length ≠ 3 ∧ items.length ≠ 4 →
      Reports (colorOf (.sequence form items)) (.channelCount (.sequence form items))) ∧
    (items.length = 3 ∨ items.length = 4 →
      ((∀ level ∈ items.take 3, level.HasShare) ∧
        (∀ alpha ∈ items.drop 3, alpha.isFiniteNumber) ∧
        ∃ tree, colorOf (.sequence form items) = .ok tree) ∨
      ((∀ n, .int n ∈ items.take 3 → n.natAbs < 255 * Double.overflowBound) ∧
        ∃ item ∈ items, item.isFiniteNumber = false ∧
          Reports (colorOf (.sequence form items)) (.nonFinite item item)) ∨
      (∃ n, .int n ∈ items.take 3 ∧ 255 * Double.overflowBound ≤ n.natAbs) ∧
        colorOf (.sequence form items) = .error (.conversion .tooLarge)) := by
  have hitem : ∀ item ∈ items, (ExpressionError.nonFinite item item).message?.isSome :=
    fun item hmem => ExpressionError.isSome_message?_iff.2 (anyLongInt_eq_false_iff.1 hlong _ hmem)
  refine ⟨fun hcount => ?_, fun hlow hhigh => ?_, fun hcount => ?_, fun hcount => ?_⟩
  · exact ⟨vectorOf_of_count hcount, ExpressionError.isSome_message?_iff.2 hlong⟩
  · rcases vectorOf_cases hnumbers hlow hhigh with hwritten | ⟨item, hmem, hfinite, herror⟩
    · exact .inl hwritten
    · exact .inr ⟨item, hmem, hfinite, herror, hitem item hmem⟩
  · exact ⟨colorOf_of_wrong_count (channels_of_isNumber form hnumbers) hcount,
      ExpressionError.isSome_message?_iff.2 hlong⟩
  · rcases colorOf_cases form hnumbers hcount with
      hwritten | ⟨hlevels, item, hmem, hfinite, herror⟩ | ⟨⟨n, hmem, hshare⟩, herror⟩
    · exact .inl hwritten
    · exact .inr (.inl ⟨hlevels, item, hmem, hfinite, herror, hitem item hmem⟩)
    · exact .inr (.inr ⟨⟨n, hmem, Nat.le_of_not_lt hshare⟩, herror⟩)

/-- What is no number is reported as a component and as a level. -/
theorem constants_reported_nan :
    Reports (vectorOf [.int 255, .float .nan, .int 0]) (.nonFinite (.float .nan) (.float .nan)) ∧
      Reports (colorOf (.sequence .tuple [.int 255, .float .nan, .int 0]))
        (.nonFinite (.float .nan) (.float .nan)) := by
  obtain ⟨-, hvector, -, hcolor⟩ :=
    @constants_reported .tuple [.int 255, .float .nan, .int 0] (by decide) (by decide +kernel)
  have hnan : (Value.float .nan).isFiniteNumber = false := rfl
  have hitem : ∀ item ∈ [Value.int 255, .float .nan, .int 0], item.isFiniteNumber = false →
      item = .float .nan := by
    have hred : (Value.int 255).isFiniteNumber := by decide +kernel
    have hblue : (Value.int 0).isFiniteNumber := by decide +kernel
    simp [hred, hblue]
  constructor
  · rcases hvector (by decide) (by decide) with ⟨hall, -⟩ | ⟨item, hmem, hfinite, hreports⟩
    · have := hall (.float .nan) (by simp)
      rw [hnan] at this
      cases this
    · obtain rfl := hitem item hmem hfinite
      exact hreports
  · rcases hcolor (.inl rfl) with
      ⟨hall, -⟩ | ⟨-, item, hmem, hfinite, hreports⟩ | ⟨⟨n, hmem, hn⟩, -⟩
    · have : (Value.float .nan).HasShare := hall (.float .nan) (by simp)
      cases this
    · obtain rfl := hitem item hmem hfinite
      exact hreports
    · have hbound : 255 < 255 * Double.overflowBound := by decide +kernel
      have hsmall : n.natAbs ≤ 255 := by
        have hlevel : n = 255 ∨ n = 0 := by simpa using hmem
        omega
      omega

/-- A level that is not reported, although it can be quoted in a message. -/
theorem hugeLevel_unreported :
    (Value.int (10 ^ 400)).hasLongInt = false ∧
      colorOf (.sequence .list [.int (10 ^ 400), .int 0, .int 0])
        = .error (.conversion .tooLarge) := by
  have hshare : (Double.ofQuotient ((10 ^ 400 : Int) < 0) (10 ^ 400 : Int).natAbs 255).isFinite
      = false := by decide +kernel
  have hlevel : scaleLevel (.int (10 ^ 400)) = .error (.conversion .tooLarge) := by
    simp only [scaleLevel, hshare, Bool.false_eq_true, if_false]
  refine ⟨by decide +kernel, ?_⟩
  rw [colorOf_of_count (channels_of_isNumber _ (by decide)) (.inl rfl), List.take]
  exact bind_eq_error_iff.2 (.inl (mapM_cons_eq_error_iff.2 (.inl hlevel)))

end Glsl

end SymbolStyle

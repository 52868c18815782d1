/-! # Stages in a row

    Computations that can fail, one after another. They succeed together, and
    they fail as the first of them that fails.

    * `bind_eq_ok_iff`, `bind_eq_error_iff`: two stages, of which the second one
      uses the result of the first.
    * `mapM_eq_error_iff`: values that are computed one by one;
      `mapM_append_eq_ok_iff` and `mapM_append_eq_error_iff` split them.
    * `forM_eq_ok_iff`, `forM_eq_error_iff`: checks, which have no results.

    Texts in a row do not fail; `intercalate_cons` takes the first of them off, and
    `mem_of_mem_intercalate` says what is in them.
-/

namespace SymbolStyle

variable {ε α β : Type}

/-! ## Two stages -/

theorem exists_ok_of_ne_error {x : Except ε α} (h : ∀ e, x ≠ .error e) : ∃ a, x = .ok a := by
  cases x with
  | error e => exact absurd rfl (h e)
  | ok a => exact ⟨a, rfl⟩

section Stage

variable {x : Except ε α} {f : α → Except ε β} {e : ε}

theorem bind_eq_ok_iff {b : β} : x >>= f = .ok b ↔ ∃ a, x = .ok a ∧ f a = .ok b := by
  cases x with
  | error e => simp [bind, Except.bind]
  | ok a => simp [bind, Except.bind]

/-- A stage fails, or a later one after it. -/
theorem bind_eq_error_iff :
    x >>= f = .error e ↔ x = .error e ∨ ∃ a, x = .ok a ∧ f a = .error e := by
  cases x with
  | error e' => simp [bind, Except.bind]
  | ok a => simp [bind, Except.bind]

end Stage

/-! ## Values one by one -/

section Values

variable {f : α → Except ε β} {x : α} {xs ys : List α} {e : ε}

theorem mapM_cons_eq_ok_iff {zs : List β} :
    (x :: xs).mapM f = .ok zs ↔ ∃ y ys, f x = .ok y ∧ xs.mapM f = .ok ys ∧ y :: ys = zs := by
  simp only [List.mapM_cons, bind_eq_ok_iff, pure, Except.pure, Except.ok.injEq,
    exists_and_left]

theorem mapM_cons_eq_error_iff :
    (x :: xs).mapM f = .error e ↔ f x = .error e ∨ ∃ y, f x = .ok y ∧ xs.mapM f = .error e := by
  simp [List.mapM_cons, bind_eq_error_iff, pure, Except.pure]

theorem mapM_append_eq_ok_iff {zs : List β} :
    (xs ++ ys).mapM f = .ok zs ↔
      ∃ as bs, xs.mapM f = .ok as ∧ ys.mapM f = .ok bs ∧ as ++ bs = zs := by
  simp only [List.mapM_append, bind_eq_ok_iff, pure, Except.pure, Except.ok.injEq,
    exists_and_left]

/-- What comes first decides the error. -/
theorem mapM_append_eq_error_iff :
    (xs ++ ys).mapM f = .error e ↔
      xs.mapM f = .error e ∨ ∃ values, xs.mapM f = .ok values ∧ ys.mapM f = .error e := by
  simp [List.mapM_append, bind_eq_error_iff, pure, Except.pure]

/-- Values that are computed one by one are as many as what they are computed
    from, and each of them comes from a member of it. -/
theorem length_and_mem_of_mapM_eq_ok {zs : List β} (h : xs.mapM f = .ok zs) :
    zs.length = xs.length ∧ ∀ z ∈ zs, ∃ x ∈ xs, f x = .ok z := by
  induction xs generalizing zs with
  | nil =>
    obtain rfl : [] = zs := by simpa [pure, Except.pure] using h
    exact ⟨rfl, by simp⟩
  | cons x xs ih =>
    obtain ⟨y, ys, hx, hxs, rfl⟩ := mapM_cons_eq_ok_iff.1 h
    obtain ⟨hlength, hmem⟩ := ih hxs
    refine ⟨by simp [hlength], ?_⟩
    intro z hz
    rcases List.mem_cons.1 hz with rfl | hz
    · exact ⟨x, by simp, hx⟩
    · obtain ⟨x', hx', hz⟩ := hmem z hz
      exact ⟨x', by simp [hx'], hz⟩

/-- Each member of what they are computed from has its value among them. -/
theorem exists_mem_of_mapM_eq_ok {zs : List β} (h : xs.mapM f = .ok zs) (hx : x ∈ xs) :
    ∃ z ∈ zs, f x = .ok z := by
  induction xs generalizing zs with
  | nil => simp at hx
  | cons first xs ih =>
    obtain ⟨y, ys, hfirst, hxs, rfl⟩ := mapM_cons_eq_ok_iff.1 h
    rcases List.mem_cons.1 hx with rfl | hx
    · exact ⟨y, by simp, hfirst⟩
    · obtain ⟨z, hz, hxz⟩ := ih hxs hx
      exact ⟨z, by simp [hz], hxz⟩

/-- Values that are computed one by one fail as the first of them that does. -/
theorem mapM_eq_error_iff :
    xs.mapM f = .error e ↔ ∃ before x after, xs = before ++ x :: after ∧
      (∀ y ∈ before, ∃ value, f y = .ok value) ∧ f x = .error e := by
  induction xs with
  | nil => simp [pure, Except.pure]
  | cons first xs ih =>
    rw [mapM_cons_eq_error_iff, ih]
    constructor
    · rintro (hfirst | ⟨value, hfirst, before, x, after, rfl, hbefore, hx⟩)
      · exact ⟨[], first, xs, rfl, by simp, hfirst⟩
      · refine ⟨first :: before, x, after, rfl, ?_, hx⟩
        rw [List.forall_mem_cons]
        exact ⟨⟨value, hfirst⟩, hbefore⟩
    · rintro ⟨before, x, after, heq, hbefore, hx⟩
      -- The value that fails is the first one or comes later.
      cases before with
      | nil =>
        cases heq
        exact .inl hx
      | cons y before =>
        cases heq
        rw [List.forall_mem_cons] at hbefore
        obtain ⟨value, hvalue⟩ := hbefore.1
        exact .inr ⟨value, hvalue, before, x, after, rfl, hbefore.2, hx⟩

end Values

/-! ## Checks -/

section Checks

variable {check : α → Except ε Unit} {xs : List α} {e : ε}

theorem exists_ok_unit {x : Except ε Unit} : (∃ u, x = .ok u) ↔ x = .ok () :=
  ⟨fun ⟨_, h⟩ => h, fun h => ⟨(), h⟩⟩

theorem forM_eq_ok_iff : xs.forM check = .ok () ↔ ∀ x ∈ xs, check x = .ok () := by
  induction xs with
  | nil => simp [pure, Except.pure]
  | cons x xs ih =>
    rw [List.forall_mem_cons, ← ih]
    show (check x >>= fun _ => xs.forM check) = .ok () ↔ _
    simp [bind_eq_ok_iff, exists_ok_unit]

/-- Checks fail like values without content. -/
theorem forM_eq_error_iff_mapM : xs.forM check = .error e ↔ xs.mapM check = .error e := by
  induction xs with
  | nil => simp [pure, Except.pure]
  | cons x xs ih =>
    show (check x >>= fun _ => xs.forM check) = .error e ↔ _
    rw [bind_eq_error_iff, mapM_cons_eq_error_iff, ih]

/-- Checks in a row fail with the error of the first one that fails. -/
theorem forM_eq_error_iff :
    xs.forM check = .error e ↔ ∃ before x after, xs = before ++ x :: after ∧
      (∀ y ∈ before, check y = .ok ()) ∧ check x = .error e := by
  rw [forM_eq_error_iff_mapM, mapM_eq_error_iff]
  simp only [exists_ok_unit]

end Checks

/-! ## Texts one after another -/

/-- The first of several texts, and each other one after what stands between
    them. -/
theorem intercalate_cons (between x : List α) (xs : List (List α)) :
    between.intercalate (x :: xs) = x ++ (xs.map (between ++ ·)).flatten := by
  induction xs generalizing x with
  | nil => simp
  | cons y xs ih => simp [List.intercalate_cons_cons, ih]

theorem mem_of_mem_intercalate {between : List α} {xs : List (List α)} {a : α}
    (h : a ∈ between.intercalate xs) : a ∈ between ∨ ∃ x ∈ xs, a ∈ x := by
  cases xs with
  | nil => simp at h
  | cons x xs =>
    rw [intercalate_cons, List.mem_append, List.mem_flatten] at h
    rcases h with h | ⟨_, hpart, h⟩
    · exact .inr ⟨x, List.mem_cons_self, h⟩
    · obtain ⟨y, hy, rfl⟩ := List.mem_map.1 hpart
      rcases List.mem_append.1 h with h | h
      · exact .inl h
      · exact .inr ⟨y, List.mem_cons_of_mem _ hy, h⟩

end SymbolStyle

import Mathlib.Data.List.Forall2

/-!
# Results that may be errors

When a result that was put together from others is not an error, none of its
parts was one; when it is an error, one of its parts was that error. Of a list
of results it is the first error.
-/

namespace RecordFilter.Outcome

variable {ε δ α β : Type}

theorem map_eq_ok_iff {f : α → β} {result : Except ε α} {value : β} :
    result.map f = .ok value ↔
      ∃ inner, result = .ok inner ∧ f inner = value := by
  cases result with
  | error error => simp [Except.map]
  | ok inner => simp [Except.map]

theorem bind_eq_ok_iff {f : α → Except ε β} {result : Except ε α} {value : β} :
    (result >>= f) = .ok value ↔
      ∃ inner, result = .ok inner ∧ f inner = .ok value := by
  cases result with
  | error error => simp [bind, Except.bind]
  | ok inner => simp [bind, Except.bind]

theorem mapError_eq_ok_iff {f : ε → δ} {result : Except ε α} {value : α} :
    result.mapError f = .ok value ↔ result = .ok value := by
  cases result with
  | error error =>
      show Except.error (f error) = .ok value ↔ Except.error error = .ok value
      simp
  | ok inner =>
      show (Except.ok inner : Except δ α) = .ok value ↔
        (Except.ok inner : Except ε α) = .ok value
      simp

theorem map_eq_error_iff {f : α → β} {result : Except ε α} {error : ε} :
    result.map f = .error error ↔ result = .error error := by
  cases result with
  | error other => simp [Except.map]
  | ok inner => simp [Except.map]

theorem bind_eq_error_iff {f : α → Except ε β} {result : Except ε α}
    {error : ε} :
    (result >>= f) = .error error ↔
      result = .error error ∨
        ∃ inner, result = .ok inner ∧ f inner = .error error := by
  cases result with
  | error other => simp [bind, Except.bind]
  | ok inner => simp [bind, Except.bind]

theorem mapError_eq_error_iff {f : ε → δ} {result : Except ε α} {error : δ} :
    result.mapError f = .error error ↔
      ∃ inner, result = .error inner ∧ f inner = error := by
  cases result with
  | error other =>
      show (Except.error (f other) : Except δ α) = .error error ↔ _
      simp
  | ok inner =>
      show (Except.ok inner : Except δ α) = .error error ↔ _
      simp

theorem toOption_map_eq_some_iff {f : α → β} {result : Except ε α}
    {value : β} :
    result.toOption.map f = some value ↔
      ∃ inner, result = .ok inner ∧ f inner = value := by
  cases result with
  | error error => simp [Except.toOption]
  | ok inner => simp [Except.toOption]

theorem toOption_eq_some_iff {result : Except ε α} {value : α} :
    result.toOption = some value ↔ result = .ok value := by
  cases result with
  | error error => simp [Except.toOption]
  | ok inner => simp [Except.toOption]

/-! ## Lists that are read up to the first error -/

section Lists

variable {f : α → Except ε β}

theorem mapM_cons_eq_ok_iff {item : α} {items : List α} {results : List β} :
    (item :: items).mapM f = .ok results ↔
      ∃ first, f item = .ok first ∧
        ∃ others, items.mapM f = .ok others ∧ first :: others = results := by
  rw [List.mapM_cons]
  simp only [bind_eq_ok_iff, pure, Except.pure, Except.ok.injEq]

theorem mapM_cons_eq_error_iff {item : α} {items : List α} {error : ε} :
    (item :: items).mapM f = .error error ↔
      f item = .error error ∨
        ∃ first, f item = .ok first ∧ items.mapM f = .error error := by
  rw [List.mapM_cons]
  simp only [bind_eq_error_iff, pure, Except.pure, reduceCtorEq, and_false,
    exists_false, or_false]

theorem mapM_eq_ok_iff {items : List α} {results : List β} :
    items.mapM f = .ok results ↔
      List.Forall₂ (fun item result => f item = .ok result) items results := by
  induction items generalizing results with
  | nil =>
      rw [List.mapM_nil, List.forall₂_nil_left_iff]
      constructor
      · intro hsame
        exact (Except.ok.inj hsame).symm
      · rintro rfl
        rfl
  | cons item items ih =>
      rw [mapM_cons_eq_ok_iff, List.forall₂_cons_left_iff]
      constructor
      · rintro ⟨first, hfirst, others, hothers, rfl⟩
        exact ⟨first, others, hfirst, ih.mp hothers, rfl⟩
      · rintro ⟨first, others, hfirst, hothers, rfl⟩
        exact ⟨first, hfirst, others, ih.mpr hothers, rfl⟩

theorem exists_mapM_eq_ok_iff {items : List α} :
    (∃ results, items.mapM f = .ok results) ↔
      ∀ item ∈ items, ∃ result, f item = .ok result := by
  induction items with
  | nil => exact ⟨by simp, fun _ => ⟨[], rfl⟩⟩
  | cons item items ih =>
      rw [List.forall_mem_cons, ← ih]
      constructor
      · rintro ⟨results, hresults⟩
        rcases mapM_cons_eq_ok_iff.mp hresults with
          ⟨first, hfirst, others, hothers, -⟩
        exact ⟨⟨first, hfirst⟩, others, hothers⟩
      · rintro ⟨⟨first, hfirst⟩, others, hothers⟩
        exact
          ⟨first :: others,
            mapM_cons_eq_ok_iff.mpr ⟨first, hfirst, others, hothers, rfl⟩⟩

/-- The error is that of the first item that gives one. -/
theorem mapM_eq_error_iff {items : List α} {error : ε} :
    items.mapM f = .error error ↔
      ∃ before item after, items = before ++ item :: after ∧
        (∀ earlier ∈ before, ∃ result, f earlier = .ok result) ∧
        f item = .error error := by
  induction items with
  | nil =>
      rw [List.mapM_nil]
      constructor
      · intro hsame
        contradiction
      · rintro ⟨before, item, after, hsplit, -⟩
        simp at hsplit
  | cons first items ih =>
      rw [mapM_cons_eq_error_iff, ih]
      constructor
      · rintro (hfirst | ⟨result, hresult, before, item, after, rfl, hrest⟩)
        · exact ⟨[], first, items, rfl, by simp, hfirst⟩
        · refine ⟨first :: before, item, after, rfl, ?_, hrest.2⟩
          exact List.forall_mem_cons.mpr ⟨⟨result, hresult⟩, hrest.1⟩
      · rintro ⟨before, item, after, hsplit, hbefore, hitem⟩
        cases before with
        | nil =>
            rcases List.cons.inj hsplit with ⟨rfl, -⟩
            exact .inl hitem
        | cons head before =>
            rcases List.cons.inj hsplit with ⟨rfl, hrest⟩
            rcases List.forall_mem_cons.mp hbefore with
              ⟨⟨result, hresult⟩, hlater⟩
            exact .inr
              ⟨result, hresult, before, item, after, hrest, hlater, hitem⟩

end Lists

/-! ## Other values and other errors -/

def mapBoth (f : α → β) (g : ε → δ) : Except ε α → Except δ β
  | .ok value => .ok (f value)
  | .error error => .error (g error)

theorem both_of_mapBoth_eq {f : α → β} {g : ε → δ} {result other : Except ε α}
    (hsame : mapBoth f g result = mapBoth f g other) :
    (∃ value otherValue, result = .ok value ∧ other = .ok otherValue ∧
      f value = f otherValue) ∨
    ∃ error otherError, result = .error error ∧ other = .error otherError ∧
      g error = g otherError := by
  cases result with
  | ok value =>
      cases other with
      | ok otherValue => exact .inl ⟨_, _, rfl, rfl, Except.ok.inj hsame⟩
      | error otherError => contradiction
  | error error =>
      cases other with
      | ok otherValue => contradiction
      | error otherError => exact .inr ⟨_, _, rfl, rfl, Except.error.inj hsame⟩

/-- A fold goes on as before over other items, if every step does. -/
theorem foldlM_map_eq_mapBoth {σ τ ι κ : Type} {step : σ → ι → Except ε σ}
    {other : τ → κ → Except δ τ} {f : σ → τ} {g : ε → δ} {h : ι → κ}
    (hstep : ∀ state item,
      other (f state) (h item) = mapBoth f g (step state item))
    (items : List ι) (state : σ) :
    (items.map h).foldlM other (f state) =
      mapBoth f g (items.foldlM step state) := by
  induction items generalizing state with
  | nil => rfl
  | cons item items ih =>
      rw [List.map_cons, List.foldlM_cons, List.foldlM_cons, hstep]
      cases step state item with
      | error error => rfl
      | ok next => exact ih next

end RecordFilter.Outcome

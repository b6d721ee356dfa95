import Mathlib.Data.List.Forall2

/-!
# Traversals that may be refused

Laws of sequencing and of list traversal for results that are either a value or an error: a
traversal succeeds pointwise, and is refused by the first element that is.
-/

namespace RecordTyping.Traversal

variable {α β ε : Type}

/-- Results can be compared if values and errors can. -/
instance decidableEqExcept [DecidableEq ε] [DecidableEq α] : DecidableEq (Except ε α)
  | .ok value, .ok other => decidable_of_iff (value = other) (by simp)
  | .error e, .error other => decidable_of_iff (e = other) (by simp)
  | .ok _, .error _ => .isFalse nofun
  | .error _, .ok _ => .isFalse nofun

/-- A step that has a value passes it on. -/
theorem ok_bind (value : α) (next : α → Except ε β) : (Except.ok value >>= next) = next value := rfl

/-- A second step that only changes the value of the first is a map. -/
theorem bind_pure (first : Except ε α) (image : α → β) :
    (first >>= fun value => pure (image value)) = first.map image := by
  cases first <;> rfl

/-- A map succeeds exactly with the image of a value. -/
theorem map_eq_ok {first : Except ε α} {image : α → β} {result : β} :
    first.map image = .ok result ↔ ∃ value, first = .ok value ∧ image value = result := by
  cases first <;> simp [Except.map]

/-- A map fails exactly with the error of what is mapped. -/
theorem map_eq_error {first : Except ε α} {image : α → β} {e : ε} :
    first.map image = .error e ↔ first = .error e := by
  cases first <;> simp [Except.map]

/-- Changing an error changes no success. -/
theorem mapError_eq_ok {ε' : Type} {first : Except ε α} {image : ε → ε'} {result : α} :
    first.mapError image = .ok result ↔ first = .ok result := by
  cases first <;> simp [Except.mapError]

/-- A changed error is the image of an error. -/
theorem mapError_eq_error {ε' : Type} {first : Except ε α} {image : ε → ε'} {e : ε'} :
    first.mapError image = .error e ↔ ∃ reason, first = .error reason ∧ image reason = e := by
  cases first <;> simp [Except.mapError]

/-- A result whose value is known is that value. -/
theorem eq_ok_of_toOption {result : Except ε α} {value : α} (known : result.toOption = some value) :
    result = .ok value := by
  cases result with
  | ok other => exact congrArg Except.ok (Option.some.inj known)
  | error e => cases known

/-- A sequence of two steps succeeds exactly when both do. -/
theorem bind_eq_ok {first : Except ε α} {next : α → Except ε β} {result : β} :
    (first >>= next) = .ok result ↔ ∃ value, first = .ok value ∧ next value = .ok result := by
  cases first <;> simp [bind, Except.bind]

/-- A sequence of two steps is refused by the first step, or by the second on the value of the
first. -/
theorem bind_eq_error {first : Except ε α} {next : α → Except ε β} {e : ε} :
    (first >>= next) = .error e ↔
      first = .error e ∨ ∃ value, first = .ok value ∧ next value = .error e := by
  cases first <;> simp [bind, Except.bind]

/-- A traversal succeeds exactly with pointwise successful results. -/
theorem mapM_eq_ok {step : α → Except ε β} {items : List α} {results : List β} :
    items.mapM step = .ok results ↔ List.Forall₂ (fun a b => step a = .ok b) items results := by
  induction items generalizing results with
  | nil =>
    rw [List.forall₂_nil_left_iff]
    simp [pure, Except.pure, eq_comm]
  | cons item items ih =>
    rw [List.mapM_cons, bind_eq_ok, List.forall₂_cons_left_iff]
    constructor
    · rintro ⟨result, first, remaining⟩
      obtain ⟨rest, later, whole⟩ := bind_eq_ok.1 remaining
      exact ⟨result, rest, first, ih.1 later, (Except.ok.inj whole).symm⟩
    · rintro ⟨result, rest, first, later, rfl⟩
      exact ⟨result, first, bind_eq_ok.2 ⟨rest, ih.2 later, rfl⟩⟩

/-- A traversal succeeds exactly when it has a result for each element, at the same place. -/
theorem mapM_eq_ok_getElem? {step : α → Except ε β} {items : List α} {results : List β} :
    items.mapM step = .ok results ↔ results.length = items.length ∧
      ∀ (index : Nat) (item : α), items[index]? = some item →
        ∃ result, results[index]? = some result ∧ step item = .ok result := by
  rw [mapM_eq_ok, List.forall₂_iff_get]
  constructor
  · rintro ⟨size, each⟩
    refine ⟨size.symm, fun index item found => ?_⟩
    obtain ⟨inside, rfl⟩ := List.getElem?_eq_some_iff.1 found
    have within : index < results.length := by omega
    exact ⟨results[index], List.getElem?_eq_getElem within, each index inside within⟩
  · rintro ⟨size, each⟩
    refine ⟨size.symm, fun index inside within => ?_⟩
    obtain ⟨result, found, passed⟩ := each index _ (List.getElem?_eq_getElem inside)
    obtain ⟨_, rfl⟩ := List.getElem?_eq_some_iff.1 found
    exact passed

/-- Every step of a traversal that succeeds has a result. -/
theorem mapM_ok_members {step : α → Except ε β} {items : List α} {results : List β}
    (succeeded : items.mapM step = .ok results) :
    ∀ item ∈ items, ∃ result, step item = .ok result := by
  intro item member
  obtain ⟨index, found⟩ := List.mem_iff_getElem?.1 member
  obtain ⟨result, -, passed⟩ := (mapM_eq_ok_getElem?.1 succeeded).2 index item found
  exact ⟨result, passed⟩

/-- Every result of a traversal is that of a step. -/
theorem mapM_ok_results {step : α → Except ε β} {items : List α} {results : List β}
    (succeeded : items.mapM step = .ok results) :
    ∀ result ∈ results, ∃ item ∈ items, step item = .ok result := by
  have size := (mapM_eq_ok_getElem?.1 succeeded).1
  intro result member
  obtain ⟨index, found⟩ := List.mem_iff_getElem?.1 member
  have inside : index < items.length := size ▸ (List.getElem?_eq_some_iff.1 found).1
  have item := List.getElem?_eq_getElem inside
  obtain ⟨same, here, passed⟩ := (mapM_eq_ok_getElem?.1 succeeded).2 index _ item
  rw [found] at here
  exact ⟨_, List.mem_of_getElem? item, Option.some.inj here ▸ passed⟩

/-- A traversal whose every step succeeds is a map. -/
theorem mapM_eq_ok_map {step : α → Except ε β} {image : α → β} {items : List α}
    (each : ∀ item ∈ items, step item = .ok (image item)) :
    items.mapM step = .ok (items.map image) := by
  rw [mapM_eq_ok, List.forall₂_map_right_iff, List.forall₂_same]
  exact each

/-- A list is had from what is written of each of its values. -/
theorem mapM_restores {write : β → α} {read : α → Except ε β}
    (each : ∀ b, read (write b) = .ok b) (items : List β) :
    (items.map write).mapM read = .ok items := by
  rw [mapM_eq_ok, List.forall₂_map_left_iff, List.forall₂_same]
  exact fun b _ => each b

/-- A traversal is refused exactly by the first refused element: all before it succeed, and what
comes after it is not looked at. -/
theorem mapM_eq_error {step : α → Except ε β} {items : List α} {e : ε} :
    items.mapM step = .error e ↔ ∃ (index : Nat) (item : α), items[index]? = some item ∧
      (∀ before < index, ∀ earlier, items[before]? = some earlier →
        ∃ result, step earlier = .ok result) ∧ step item = .error e := by
  induction items with
  | nil => simp [pure, Except.pure]
  | cons first items ih =>
    rw [List.mapM_cons, bind_eq_error]
    constructor
    · rintro (refused | ⟨result, passed, remaining⟩)
      · exact ⟨0, first, rfl, by simp, refused⟩
      · rcases bind_eq_error.1 remaining with later | ⟨rest, -, whole⟩
        · obtain ⟨index, item, found, earlier, refused⟩ := ih.1 later
          refine ⟨index + 1, item, found, ?_, refused⟩
          intro before less other here
          cases before with
          | zero => exact ⟨result, Option.some.inj here ▸ passed⟩
          | succ before => exact earlier before (by omega) other here
        · cases whole
    · rintro ⟨index, item, found, earlier, refused⟩
      cases index with
      | zero => exact Or.inl (Option.some.inj found ▸ refused)
      | succ index =>
        obtain ⟨result, passed⟩ := earlier 0 (by omega) first rfl
        have later := ih.2 ⟨index, item, found,
          fun before less other here => earlier (before + 1) (by omega) other here, refused⟩
        exact Or.inr ⟨result, passed, bind_eq_error.2 (Or.inl later)⟩

/-- Changing the error of every step changes the error of the traversal. -/
theorem mapM_mapError {ε' : Type} (step : α → Except ε β) (image : ε → ε') (items : List α) :
    items.mapM (fun item => (step item).mapError image) = (items.mapM step).mapError image := by
  induction items with
  | nil => rfl
  | cons item items ih =>
    rw [List.mapM_cons, List.mapM_cons, ih]
    cases step item with
    | error e => rfl
    | ok result => cases items.mapM step <;> rfl

/-- A traversal whose every step has a result succeeds. -/
theorem mapM_total {step : α → Except ε β} {items : List α}
    (each : ∀ item ∈ items, ∃ result, step item = .ok result) :
    ∃ results, items.mapM step = .ok results := by
  cases whole : items.mapM step with
  | ok results => exact ⟨results, rfl⟩
  | error e =>
    obtain ⟨index, item, found, -, refused⟩ := mapM_eq_error.1 whole
    obtain ⟨result, passed⟩ := each item (List.mem_of_getElem? found)
    rw [refused] at passed
    cases passed

end RecordTyping.Traversal

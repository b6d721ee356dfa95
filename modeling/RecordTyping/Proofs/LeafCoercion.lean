import RecordTyping.Proofs.Coercion

/-!
# Coercion leaf by leaf

A value is followed along its type: arrays are opened where the type is an array, and what is met
in the end is a leaf with the innermost type there. Coercion succeeds exactly if it succeeds on
every leaf, and then yields the value with each leaf replaced by what it becomes. It fails with
the error of the first leaf that fails, from left to right through all arrays, and this error
names the type, the value and the reason of that leaf alone.
-/

namespace RecordTyping

open Json (Value)

namespace Traversal

variable {α β ε : Type}

/-- The error of a result, if it is one. -/
def fault? : Except ε α → Option ε
  | .ok _ => none
  | .error e => some e

/-- A result without an error is a value. -/
theorem fault?_eq_none {result : Except ε α} :
    fault? result = none ↔ ∃ value, result = .ok value := by
  cases result <;> simp [fault?]

/-- The error of a result is the one that it is. -/
theorem fault?_eq_some {result : Except ε α} {e : ε} :
    fault? result = some e ↔ result = .error e := by
  cases result <;> simp [fault?]

/-- A map has the error of what is mapped. -/
theorem fault?_map (result : Except ε α) (image : α → β) :
    fault? (result.map image) = fault? result := by
  cases result <;> rfl

/-- A traversal has the first error of its steps. -/
theorem fault?_mapM (step : α → Except ε β) (items : List α) :
    fault? (items.mapM step) = items.findSome? fun item => fault? (step item) := by
  induction items with
  | nil => rfl
  | cons item items ih =>
    rw [List.mapM_cons, List.findSome?_cons, ← ih]
    cases step item with
    | error e => rfl
    | ok result =>
      cases items.mapM step with
      | error e => rfl
      | ok results => rfl

/-- Searches that find the same in every element find the same in a list. -/
theorem findSome?_congr {search other : α → Option ε} {items : List α}
    (same : ∀ item ∈ items, search item = other item) :
    items.findSome? search = items.findSome? other := by
  induction items with
  | nil => rfl
  | cons item items ih =>
    rw [List.forall_mem_cons] at same
    rw [List.findSome?_cons, List.findSome?_cons, same.1, ih same.2]

/-- A search through joined lists is a search through the lists, one after the other. -/
theorem findSome?_flatMap (lists : α → List β) (search : β → Option ε) (items : List α) :
    (items.flatMap lists).findSome? search =
      items.findSome? fun item => (lists item).findSome? search := by
  induction items with
  | nil => rfl
  | cons item items ih =>
    rw [List.flatMap_cons, List.findSome?_append, ih, List.findSome?_cons]
    cases (lists item).findSome? search <;> rfl

end Traversal

/-- A part of a value that coercion does not open, with the type that it is judged by. -/
structure Leaf where
  type : FieldType
  value : Value

/-- What becomes of a leaf on its own. -/
def Leaf.result (leaf : Leaf) : Except CoercionError Value := coerce leaf.type leaf.value

/-- The leaves of a value along a type, from left to right through all arrays. Null in a nilable
type is a leaf; any other value there is judged by the type inside, and an array in an array type
is opened. -/
def leaves : FieldType → Value → List Leaf
  | .nilable inner, .null => [⟨.nilable inner, .null⟩]
  | .nilable inner, v => leaves inner v
  | .array inner, .array items => items.flatMap (leaves inner)
  | ty, v => [⟨ty, v⟩]

/-- The value with each of its leaves along a type replaced, its arrays as they are. -/
def replaceLeaves (image : Leaf → Value) : FieldType → Value → Value
  | .nilable inner, .null => image ⟨.nilable inner, .null⟩
  | .nilable inner, v => replaceLeaves image inner v
  | .array inner, .array items => .array (items.map (replaceLeaves image inner))
  | ty, v => image ⟨ty, v⟩

/-- A leaf that is judged by its type: a type that is not nilable, and not one of arrays for an
array. -/
structure Leaf.Judged (leaf : Leaf) : Prop where
  type : ∀ inner, leaf.type ≠ .nilable inner
  value : ∀ inner items, leaf.type = .array inner → leaf.value ≠ .array items

section Leaves

variable {ty inner : FieldType} {v w : Value} {leaf : Leaf} {image : Leaf → Value}
  {e : CoercionError}

/-- A value other than null is converted to the type inside a nilable type. -/
theorem coerce_nilable (present : v ≠ .null) : coerce (.nilable inner) v = coerce inner v := by
  cases v with
  | null => exact absurd rfl present
  | _ => rfl

/-- A value other than null has the leaves along a nilable type that it has along the type inside.
-/
theorem leaves_nilable (present : v ≠ .null) : leaves (.nilable inner) v = leaves inner v := by
  cases v with
  | null => exact absurd rfl present
  | _ => rfl

/-- They are replaced as they are along the type inside. -/
theorem replaceLeaves_nilable (present : v ≠ .null) :
    replaceLeaves image (.nilable inner) v = replaceLeaves image inner v := by
  cases v with
  | null => exact absurd rfl present
  | _ => rfl

/-- A leaf that is judged by its type has itself as its one leaf. -/
theorem Leaf.Judged.leaves (judged : Leaf.Judged ⟨ty, v⟩) : leaves ty v = [⟨ty, v⟩] := by
  cases ty with
  | nilable inner => exact absurd rfl (judged.type inner)
  | array inner =>
    cases v with
    | array items => exact absurd rfl (judged.value inner items rfl)
    | _ => rfl
  | _ => rfl

/-- It is replaced as a whole. -/
theorem Leaf.Judged.replaceLeaves (judged : Leaf.Judged ⟨ty, v⟩) :
    replaceLeaves image ty v = image ⟨ty, v⟩ := by
  cases ty with
  | nilable inner => exact absurd rfl (judged.type inner)
  | array inner =>
    cases v with
    | array items => exact absurd rfl (judged.value inner items rfl)
    | _ => rfl
  | _ => rfl

/-- Induction along a type: null in a nilable type, any other value in one, an array in an array
type, and the leaves that are judged by their type. -/
@[elab_as_elim]
theorem along_type {motive : FieldType → Value → Prop}
    (null : ∀ inner, motive (.nilable inner) .null)
    (inside : ∀ inner v, v ≠ .null → motive inner v → motive (.nilable inner) v)
    (opened : ∀ inner items, (∀ item ∈ items, motive inner item) →
      motive (.array inner) (.array items))
    (judged : ∀ ty v, Leaf.Judged ⟨ty, v⟩ → motive ty v) (ty : FieldType) (v : Value) :
    motive ty v := by
  induction ty generalizing v with
  | nilable inner ih =>
    by_cases absent : v = .null
    · exact absent ▸ null inner
    · exact inside inner v absent (ih v)
  | array inner ih =>
    cases v with
    | array items => exact opened inner items fun item _ => ih item
    | _ => exact judged _ _ ⟨fun _ => nofun, fun _ _ _ => nofun⟩
  | _ => exact judged _ _ ⟨fun _ => nofun, fun _ _ => nofun⟩

/-- Coercion has the error of the first leaf that has one. -/
theorem fault?_coerce (ty : FieldType) (v : Value) : Traversal.fault? (coerce ty v) =
    (leaves ty v).findSome? fun leaf => Traversal.fault? leaf.result := by
  have single (leaf : Leaf) : Traversal.fault? leaf.result =
      [leaf].findSome? fun leaf => Traversal.fault? leaf.result := by
    rw [List.findSome?_cons]
    cases Traversal.fault? leaf.result <;> rfl
  induction ty, v using along_type with
  | null inner => rfl
  | inside inner v present ih => rw [coerce_nilable present, leaves_nilable present, ih]
  | opened inner items ih =>
    rw [coerce, leaves, Traversal.fault?_map, Traversal.fault?_mapM, Traversal.findSome?_flatMap]
    exact Traversal.findSome?_congr ih
  | judged ty v judged =>
    rw [judged.leaves]
    exact single ⟨ty, v⟩

/-- Where every leaf has an image, coercion yields the value with these images. -/
theorem coerce_replaceLeaves (ty : FieldType) (v : Value)
    (each : ∀ leaf ∈ leaves ty v, leaf.result = .ok (image leaf)) :
    coerce ty v = .ok (replaceLeaves image ty v) := by
  induction ty, v using along_type with
  | null inner => exact each _ List.mem_cons_self
  | inside inner v present ih =>
    rw [leaves_nilable present] at each
    rw [coerce_nilable present, replaceLeaves_nilable present, ih each]
  | opened inner items ih =>
    have results : ∀ item ∈ items, coerce inner item = .ok (replaceLeaves image inner item) := by
      intro item member
      refine ih item member fun leaf leafMember => each leaf ?_
      rw [leaves]
      exact List.mem_flatMap.2 ⟨item, member, leafMember⟩
    rw [coerce, Traversal.mapM_eq_ok_map results]
    rfl
  | judged ty v judged =>
    rw [judged.leaves] at each
    rw [judged.replaceLeaves]
    exact each _ List.mem_cons_self

/-- Every leaf is null in a nilable type or is judged by its type. -/
theorem leaf_cases (ty : FieldType) (v : Value) (member : leaf ∈ leaves ty v) :
    (∃ inner, leaf = ⟨.nilable inner, .null⟩) ∨ leaf.Judged := by
  induction ty, v using along_type with
  | null inner => exact .inl ⟨inner, List.mem_singleton.1 member⟩
  | inside inner v present ih => exact ih (leaves_nilable present ▸ member)
  | opened inner items ih =>
    rw [leaves] at member
    obtain ⟨item, within, member⟩ := List.mem_flatMap.1 member
    exact ih item within member
  | judged ty v judged =>
    rw [judged.leaves] at member
    exact .inr (List.mem_singleton.1 member ▸ judged)

/-- Null is refused by every leaf that is judged by its type, if it is typed at all. -/
theorem Leaf.Judged.result_null (judged : Leaf.Judged ⟨ty, .null⟩) (typed : ty ≠ .untyped) :
    coerce ty .null = .error ⟨ty, .null, .notNilable⟩ := by
  cases ty with
  | untyped => exact absurd rfl typed
  | nilable inner => exact absurd rfl (judged.type inner)
  | _ => rfl

/-- Any other value is converted by the rule of its type. -/
theorem Leaf.Judged.result_present (judged : Leaf.Judged ⟨ty, v⟩) (present : v ≠ .null) :
    coerce ty v = (Coercion.convert ty v).mapError fun reason => ⟨ty, v, reason⟩ := by
  cases ty with
  | untyped => rfl
  | nilable inner => exact absurd rfl (judged.type inner)
  | array inner =>
    cases v with
    | null => exact absurd rfl present
    | array items => exact absurd rfl (judged.value inner items rfl)
    | _ => rfl
  | _ => exact coerce_plain rfl present

/-- The error of a leaf names the type and the value of the leaf, and its reason is that null is not
admitted or why the rule of the type refuses the value. -/
theorem Leaf.Judged.refused (judged : leaf.Judged) (refused : leaf.result = .error e) :
    e.expected = leaf.type ∧ e.found = leaf.value ∧
      ((leaf.value = .null ∧ e.reason = .notNilable) ∨
        (leaf.value ≠ .null ∧ Coercion.convert leaf.type leaf.value = .error e.reason)) := by
  obtain ⟨ty, v⟩ := leaf
  rw [Leaf.result] at refused
  dsimp only at refused ⊢
  by_cases absent : v = .null
  · subst absent
    by_cases typed : ty = .untyped
    · subst typed
      cases refused
    · rw [judged.result_null typed] at refused
      obtain rfl := Except.error.inj refused
      exact ⟨rfl, rfl, .inl ⟨rfl, rfl⟩⟩
  · rw [judged.result_present absent] at refused
    cases converted : Coercion.convert ty v with
    | ok w =>
      rw [converted] at refused
      cases refused
    | error reason =>
      rw [converted] at refused
      obtain rfl := Except.error.inj refused
      exact ⟨rfl, rfl, .inr ⟨absent, rfl⟩⟩

/-- Coercion is leaf by leaf. It succeeds exactly if it succeeds on every leaf, and what it yields
is the value with each leaf replaced by what the leaf becomes. It fails with an error exactly if
this is the error of the first leaf that fails. Null in a nilable type never fails; any other leaf
is judged by the innermost type there, and its error names this type and its own value, and the
reason is its own. -/
theorem coerce_leafwise (ty : FieldType) (v : Value) :
    ((∃ w, coerce ty v = .ok w) ↔ ∀ leaf ∈ leaves ty v, ∃ result, leaf.result = .ok result) ∧
    (∀ w, coerce ty v = .ok w ↔ ∃ image : Leaf → Value,
      (∀ leaf ∈ leaves ty v, leaf.result = .ok (image leaf)) ∧ replaceLeaves image ty v = w) ∧
    (∀ e, coerce ty v = .error e ↔ ∃ before leaf after, leaves ty v = before ++ leaf :: after ∧
      (∀ earlier ∈ before, ∃ result, earlier.result = .ok result) ∧ leaf.result = .error e) ∧
    ∀ leaf ∈ leaves ty v,
      (∃ inner, leaf = ⟨.nilable inner, .null⟩ ∧ leaf.result = .ok .null) ∨
      (leaf.Judged ∧ ∀ e, leaf.result = .error e → e.expected = leaf.type ∧ e.found = leaf.value ∧
        ((leaf.value = .null ∧ e.reason = .notNilable) ∨
          (leaf.value ≠ .null ∧ Coercion.convert leaf.type leaf.value = .error e.reason))) := by
  have succeeds : (∃ w, coerce ty v = .ok w) ↔
      ∀ leaf ∈ leaves ty v, ∃ result, leaf.result = .ok result := by
    rw [← Traversal.fault?_eq_none, fault?_coerce, List.findSome?_eq_none_iff]
    simp only [Traversal.fault?_eq_none]
  refine ⟨succeeds, fun w => ⟨?_, ?_⟩, fun e => ?_, fun leaf member => ?_⟩
  · intro converted
    let image : Leaf → Value := fun leaf => leaf.result.toOption.getD .null
    have each : ∀ leaf ∈ leaves ty v, leaf.result = .ok (image leaf) := by
      intro leaf member
      obtain ⟨result, passed⟩ := succeeds.1 ⟨w, converted⟩ leaf member
      simp only [image, passed, Except.toOption, Option.getD_some]
    refine ⟨image, each, ?_⟩
    rw [coerce_replaceLeaves ty v each] at converted
    exact Except.ok.inj converted
  · rintro ⟨image, each, rfl⟩
    exact coerce_replaceLeaves ty v each
  · rw [← Traversal.fault?_eq_some, fault?_coerce, List.findSome?_eq_some_iff]
    simp only [Traversal.fault?_eq_some, Traversal.fault?_eq_none]
    constructor
    · rintro ⟨before, leaf, after, whole, refused, earlier⟩
      exact ⟨before, leaf, after, whole, earlier, refused⟩
    · rintro ⟨before, leaf, after, whole, earlier, refused⟩
      exact ⟨before, leaf, after, whole, refused, earlier⟩
  · rcases leaf_cases ty v member with ⟨inner, rfl⟩ | judged
    · exact .inl ⟨inner, rfl, rfl⟩
    · exact .inr ⟨judged, fun e refused => judged.refused refused⟩

example : coerce (.array (.nilable (.array .boolean)))
    (.array [.null, .array [.string "yes", .null], .string "no"]) =
      .error ⟨.boolean, .null, .notNilable⟩ := rfl

end Leaves

end RecordTyping

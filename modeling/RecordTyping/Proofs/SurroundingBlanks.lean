import RecordTyping.Proofs.LeafCoercion

/-!
# Blanks around the texts of a value

Every rule but those of strings and of untyped fields reads a text between the blanks at its ends.
So two values that differ in such blanks only, however deep in their arrays, are both converted, to
the same value, or are both refused, for the same reason and at the same place.
-/

namespace RecordTyping

open Json (Value)

/-- When two values differ at most in blanks at the ends of their texts: arrays and objects have
such values at the same places and under the same keys, and all else is the same. -/
inductive Repadded : Value → Value → Prop where
  | same (v : Value) : Repadded v v
  | string {before before' after after' : List Char} (middle : List Char)
    (front : ∀ c ∈ before ++ before', Text.isBlank c = true)
    (back : ∀ c ∈ after ++ after', Text.isBlank c = true) :
    Repadded (.string (String.ofList (before ++ middle ++ after)))
      (.string (String.ofList (before' ++ middle ++ after')))
  | array {items items' : List Value} (each : List.Forall₂ Repadded items items') :
    Repadded (.array items) (.array items')
  | object {members members' : List (String × Value)}
    (keys : members.map Prod.fst = members'.map Prod.fst)
    (each : List.Forall₂ Repadded (members.map Prod.snd) (members'.map Prod.snd)) :
    Repadded (.object members) (.object members')

/-- When two errors differ at most in blanks around the texts of the values that they show. -/
structure CoercionError.Repadded (e e' : CoercionError) : Prop where
  expected : e.expected = e'.expected
  found : RecordTyping.Repadded e.found e'.found
  reason : e.reason = e'.reason

/-- An error differs from itself in nothing. -/
theorem CoercionError.Repadded.refl (e : CoercionError) : e.Repadded e := ⟨rfl, .same _, rfl⟩

/-- Whether no string and no untyped value occurs in a type: what is converted to it is a value of
another kind than the text that it is read from, or a normal form. -/
def FieldType.isRead : FieldType → Bool
  | .string => false
  | .untyped => false
  | .nilable inner => inner.isRead
  | .array inner => inner.isRead
  | _ => true

namespace Traversal

variable {α β ε : Type} {related : ε → ε → Prop} {first second : Except ε α}

/-- When two results are the same value, or errors that are related. -/
inductive Alike (related : ε → ε → Prop) : Except ε α → Except ε α → Prop where
  | ok (value : α) : Alike related (.ok value) (.ok value)
  | error {e e' : ε} (errors : related e e') : Alike related (.error e) (.error e')

/-- A result is alike to itself if every error is related to itself. -/
theorem Alike.refl (errors : ∀ e, related e e) (result : Except ε α) :
    Alike related result result := by
  cases result with
  | ok value => exact .ok value
  | error e => exact .error (errors e)

/-- Results that are alike are so after a map. -/
theorem Alike.map (alike : Alike related first second) (image : α → β) :
    Alike related (first.map image) (second.map image) := by
  cases alike with
  | ok value => exact .ok (image value)
  | error errors => exact .error errors

/-- They are so after a step that has results that are alike for every value. -/
theorem Alike.bind {next next' : α → Except ε β} (alike : Alike related first second)
    (after : ∀ value, Alike related (next value) (next' value)) :
    Alike related (first >>= next) (second >>= next') := by
  cases alike with
  | ok value => exact after value
  | error errors => exact .error errors

/-- One is a value exactly if the other is this value. -/
theorem Alike.eq_ok (alike : Alike related first second) (value : α) :
    first = .ok value ↔ second = .ok value := by
  cases alike with
  | ok => exact Iff.rfl
  | error => exact ⟨nofun, nofun⟩

/-- If one is an error then so is the other. -/
theorem Alike.eq_error (alike : Alike related first second) {e : ε} (refused : first = .error e) :
    ∃ e', second = .error e' ∧ related e e' := by
  cases alike with
  | ok => cases refused
  | error errors => exact ⟨_, rfl, Except.error.inj refused ▸ errors⟩

/-- Traversals of lists whose elements have results that are alike have such results: they fail at
the same place, if they do. -/
theorem Alike.mapM {step : α → Except ε β} {items items' : List α}
    (each : List.Forall₂ (fun item item' => Alike related (step item) (step item')) items items') :
    Alike related (items.mapM step) (items'.mapM step) := by
  induction each with
  | nil => exact .ok []
  | cons here _ later =>
    rw [List.mapM_cons, List.mapM_cons]
    exact here.bind fun value => later.bind fun values => .ok (value :: values)

end Traversal

section Repadded

variable {ty : FieldType} {v v' : Value}

/-- Blanks alone do not make null of a value. -/
theorem Repadded.null_iff (repadded : Repadded v v') : v = .null ↔ v' = .null := by
  cases repadded with
  | same => exact Iff.rfl
  | _ => exact ⟨nofun, nofun⟩

/-- They do not change whether a value is judged by its type. -/
theorem Repadded.judged (repadded : Repadded v v') (judged : Leaf.Judged ⟨ty, v⟩) :
    Leaf.Judged ⟨ty, v'⟩ := by
  cases repadded with
  | array each => exact ⟨judged.type, fun inner _ typed => absurd rfl (judged.value inner _ typed)⟩
  | same => exact judged
  | _ => exact ⟨judged.type, fun _ _ _ => nofun⟩

/-- The texts of strings that differ in blanks at their ends have the same core. -/
theorem Coercion.core_surrounded {before before' after after' : List Char} (middle : List Char)
    (front : ∀ c ∈ before ++ before', Text.isBlank c = true)
    (back : ∀ c ∈ after ++ after', Text.isBlank c = true) :
    core (String.ofList (before ++ middle ++ after)) =
      core (String.ofList (before' ++ middle ++ after')) := by
  rw [List.forall_mem_append] at front back
  rw [core, core, String.toList_ofList, String.toList_ofList,
    Text.trim_surrounded front.1 back.1, Text.trim_surrounded front.2 back.2]

/-- The rule of a type that reads its texts has the same result for texts with the same core. -/
theorem Coercion.convert_core {s s' : String} (read : ty.isRead = true)
    (judged : Leaf.Judged ⟨ty, .string s⟩) (same : core s = core s') :
    convert ty (.string s) = convert ty (.string s') := by
  cases ty with
  | integer => simp only [convert, toInteger, same]
  | float => simp only [convert, toFloat, nearestDouble?, same]
  | boolean => simp only [convert, toBoolean, truth?, same]
  | date => simp only [convert, toDate, same]
  | dateTime => simp only [convert, toDateTime, same]
  | string => cases read
  | untyped => cases read
  | nilable inner => exact absurd rfl (judged.type inner)
  | array inner => rfl

/-- Such a rule has the same result for values that differ in blanks around their texts only: no
such rule takes an array or an object. -/
theorem Coercion.convert_repadded (read : ty.isRead = true) (judged : Leaf.Judged ⟨ty, v⟩)
    (repadded : Repadded v v') : convert ty v = convert ty v' := by
  cases repadded with
  | same => rfl
  | string middle front back =>
    exact convert_core read judged (core_surrounded middle front back)
  | array each =>
    cases ty with
    | untyped => cases read
    | nilable inner => exact absurd rfl (judged.type inner)
    | _ => rfl
  | object keys each =>
    cases ty with
    | untyped => cases read
    | nilable inner => exact absurd rfl (judged.type inner)
    | _ => rfl

/-- Values that differ in blanks around their texts only are converted to the same value, or are
refused with errors that differ in such blanks only. -/
theorem Repadded.coerce (repadded : Repadded v v') (read : ty.isRead = true) :
    Traversal.Alike CoercionError.Repadded (coerce ty v) (coerce ty v') := by
  induction ty, v using along_type generalizing v' with
  | null inner =>
    rw [repadded.null_iff.1 rfl]
    exact .ok Value.null
  | inside inner v present ih =>
    rw [coerce_nilable present, coerce_nilable (mt repadded.null_iff.2 present)]
    exact ih repadded read
  | opened inner items ih =>
    cases repadded with
    | same => exact .refl CoercionError.Repadded.refl _
    | array each =>
      rw [RecordTyping.coerce, RecordTyping.coerce]
      refine (Traversal.Alike.mapM ?_).map Value.array
      exact ((List.forall₂_and_left _ _).2 ⟨ih, each⟩).imp fun item item' both => both.1 both.2 read
  | judged ty v judged =>
    by_cases absent : v = .null
    · rw [absent, repadded.null_iff.1 absent]
      exact .refl CoercionError.Repadded.refl _
    · have present : v' ≠ .null := mt repadded.null_iff.2 absent
      rw [judged.result_present absent, (repadded.judged judged).result_present present,
        ← Coercion.convert_repadded read judged repadded]
      cases Coercion.convert ty v with
      | ok w => exact .ok w
      | error reason => exact .error ⟨rfl, repadded, rfl⟩

/-- Blanks around the texts of a value never matter to what it is converted to, if no string and no
untyped value occurs in the type. If it is refused then it is so by the same type and for the same
reason, with the blanks in the value that the error shows. -/
theorem coerce_surroundingBlanks (ty : FieldType) (v v' : Value) (read : ty.isRead = true)
    (repadded : Repadded v v') :
    (∀ w, coerce ty v = .ok w ↔ coerce ty v' = .ok w) ∧
    ∀ e, coerce ty v = .error e → ∃ found, Repadded e.found found ∧
      coerce ty v' = .error ⟨e.expected, found, e.reason⟩ := by
  have alike := repadded.coerce read
  refine ⟨alike.eq_ok, fun e refused => ?_⟩
  obtain ⟨⟨expected, found, reason⟩, refused', rfl, shown, rfl⟩ := alike.eq_error refused
  exact ⟨found, shown, refused'⟩

/-- A list with an ideographic space, a space that allows no break and a tab around one of its
texts is read as it is without them. -/
theorem coerce_surroundingBlanks_timestamps :
    coerce (.nilable (.array (.nilable .dateTime)))
        (.array [.string "\u3000\u00a02024-3-1 0:0:0\t", .null]) =
      .ok (.array [.string "2024-03-01T00:00:00Z", .null]) := by
  have bare : coerce (.nilable (.array (.nilable .dateTime)))
      (.array [.string "2024-3-1 0:0:0", .null]) =
        .ok (.array [.string "2024-03-01T00:00:00Z", .null]) := by rfl
  have front : ∀ c ∈ [] ++ ['\u3000', '\u00a0'], Text.isBlank c = true := List.all_eq_true.1 rfl
  have back : ∀ c ∈ [] ++ ['\t'], Text.isBlank c = true := List.all_eq_true.1 rfl
  have text : Repadded (.string "2024-3-1 0:0:0") (.string "\u3000\u00a02024-3-1 0:0:0\t") :=
    .string "2024-3-1 0:0:0".toList front back
  have list : Repadded (.array [.string "2024-3-1 0:0:0", .null])
      (.array [.string "\u3000\u00a02024-3-1 0:0:0\t", .null]) :=
    .array (.cons text (.cons (.same .null) .nil))
  exact ((coerce_surroundingBlanks _ _ _ rfl list).1 _).1 bare

end Repadded

end RecordTyping

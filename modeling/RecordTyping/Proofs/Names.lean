import Mathlib.Data.List.Nodup
import Mathlib.Order.Bounds.Defs
import RecordTyping.Schema

/-!
# Exactness of the search for a repeated name

The search finds nothing in a list of distinct names, and of any other list it finds the culprit:
the name at the least index that stands at a smaller one too.
-/

namespace RecordTyping

/-- A name is the first to be repeated when all before it are distinct and it is one of them. -/
def FirstRepeat (names : List String) (name : String) : Prop :=
  ∃ before after, names = before ++ name :: after ∧ before.Nodup ∧ name ∈ before

/-- The name at an index recurs when it stands at a smaller index too. -/
def Recurs (names : List String) (i : Nat) : Prop :=
  ∃ name, names[i]? = some name ∧ ∃ j < i, names[j]? = some name

/-- The culprit of a list is the name at the least index whose name recurs. -/
def Culprit (names : List String) (name : String) : Prop :=
  ∃ i, IsLeast {k | Recurs names k} i ∧ names[i]? = some name

/-- The first name to be repeated is the culprit. -/
theorem FirstRepeat.culprit {names : List String} {name : String}
    (repeated : FirstRepeat names name) : Culprit names name := by
  obtain ⟨before, after, rfl, distinct, member⟩ := repeated
  have here : (before ++ name :: after)[before.length]? = some name := by simp
  have inside : ∀ k < before.length, (before ++ name :: after)[k]? = before[k]? :=
    fun k below => List.getElem?_append_left below
  obtain ⟨j, bound, found⟩ := List.mem_iff_getElem.1 member
  have earlier : (before ++ name :: after)[j]? = some name := by
    rw [inside j bound, List.getElem?_eq_getElem bound, found]
  refine ⟨before.length, ⟨⟨name, here, j, bound, earlier⟩, ?_⟩, here⟩
  -- a name that recurs at a smaller index would stand twice among distinct names
  rintro k ⟨other, again, first, smaller, same⟩
  by_contra beyond
  have below : k < before.length := Nat.not_le.1 beyond
  rw [inside k below] at again
  rw [inside first (Nat.lt_trans smaller below)] at same
  exact List.nodup_iff_getElem?_ne_getElem?.1 distinct first k smaller below
    (same.trans again.symm)

/-- The names before the least index whose name recurs are distinct. -/
theorem nodup_take_of_least {names : List String} {i : Nat}
    (least : i ∈ lowerBounds {k | Recurs names k}) : (names.take i).Nodup := by
  rw [List.nodup_iff_getElem?_ne_getElem?]
  intro first second ordered bound same
  have below : second < i := Nat.lt_of_lt_of_le bound (List.length_take_le i names)
  rw [List.getElem?_take_of_lt (Nat.lt_trans ordered below),
    List.getElem?_take_of_lt below] at same
  have inside : second < names.length := Nat.lt_of_lt_of_le bound (List.length_take_le' i names)
  have stands : names[second]? = some names[second] := List.getElem?_eq_getElem inside
  exact absurd (least ⟨_, stands, first, ordered, same.trans stands⟩) (Nat.not_le.2 below)

/-- The culprit is the first name to be repeated. -/
theorem Culprit.firstRepeat {names : List String} {name : String} (culprit : Culprit names name) :
    FirstRepeat names name := by
  obtain ⟨i, ⟨⟨other, there, j, smaller, earlier⟩, least⟩, here⟩ := culprit
  obtain rfl : name = other := Option.some.inj (here.symm.trans there)
  obtain ⟨bound, value⟩ := List.getElem?_eq_some_iff.1 here
  refine ⟨names.take i, names.drop (i + 1), ?_, nodup_take_of_least least, ?_⟩
  · rw [← value, List.getElem_cons_drop, List.take_append_drop]
  · exact List.mem_of_getElem? ((List.getElem?_take_of_lt smaller).trans earlier)

/-- The culprit and the first name to be repeated are one. -/
theorem culprit_iff {names : List String} {name : String} :
    Culprit names name ↔ FirstRepeat names name :=
  ⟨Culprit.firstRepeat, FirstRepeat.culprit⟩

/-- The search finds nothing exactly in a distinct list without seen names. -/
theorem firstRepeatedAfter_eq_none (seen names : List String) :
    firstRepeatedAfter seen names = none ↔ names.Nodup ∧ ∀ name ∈ names, name ∉ seen := by
  induction names generalizing seen with
  | nil => simp [firstRepeatedAfter]
  | cons head rest ih =>
    by_cases known : head ∈ seen
    · simp [firstRepeatedAfter, known]
    · simp only [firstRepeatedAfter, known, ↓reduceIte, ih, List.nodup_cons, List.mem_cons]
      grind

/-- The search finds the first name that is seen or repeated. -/
theorem firstRepeatedAfter_eq_some (seen names : List String) (name : String) :
    firstRepeatedAfter seen names = some name ↔
      ∃ before after, names = before ++ name :: after ∧ before.Nodup ∧
        (∀ earlier ∈ before, earlier ∉ seen) ∧ (name ∈ seen ∨ name ∈ before) := by
  induction names generalizing seen with
  | nil => simp [firstRepeatedAfter]
  | cons head rest ih =>
    by_cases known : head ∈ seen
    · simp only [firstRepeatedAfter, known, ↓reduceIte, Option.some.injEq]
      constructor
      · rintro rfl
        exact ⟨[], rest, rfl, List.nodup_nil, by simp, Or.inl known⟩
      · rintro ⟨before, after, split, -, fresh, -⟩
        cases before with
        | nil => exact (List.cons.inj split).1
        | cons first before =>
          obtain ⟨rfl, -⟩ := List.cons.inj split
          exact absurd known (fresh _ List.mem_cons_self)
    · simp only [firstRepeatedAfter, known, ↓reduceIte, ih]
      constructor
      · rintro ⟨before, after, rfl, distinct, fresh, repeated⟩
        refine ⟨head :: before, after, rfl, ?_, ?_, ?_⟩ <;> grind
      · rintro ⟨before, after, split, distinct, fresh, repeated⟩
        cases before with
        | nil =>
          obtain ⟨rfl, -⟩ := List.cons.inj split
          exact absurd repeated (by simp [known])
        | cons first before =>
          obtain ⟨rfl, rfl⟩ := List.cons.inj split
          refine ⟨before, after, rfl, ?_, ?_, ?_⟩ <;> grind

/-- No name is repeated exactly in a distinct list. -/
theorem firstRepeated?_eq_none (names : List String) :
    firstRepeated? names = none ↔ names.Nodup := by
  simp [firstRepeated?, firstRepeatedAfter_eq_none]

/-- The name that is found is the first to be repeated. -/
theorem firstRepeated?_eq_some (names : List String) (name : String) :
    firstRepeated? names = some name ↔ FirstRepeat names name := by
  simp [firstRepeated?, firstRepeatedAfter_eq_some, FirstRepeat]

/-- A list of names is distinct or has a first name to be repeated. -/
theorem nodup_or_firstRepeat (names : List String) :
    names.Nodup ∨ ∃ name, FirstRepeat names name := by
  cases found : firstRepeated? names with
  | none => exact .inl ((firstRepeated?_eq_none names).1 found)
  | some name => exact .inr ⟨name, (firstRepeated?_eq_some names name).1 found⟩

/-- Distinct names have no culprit. -/
theorem Culprit.not_nodup {names : List String} {name : String} (culprit : Culprit names name) :
    ¬names.Nodup := by
  intro distinct
  have nothing := (firstRepeated?_eq_none names).2 distinct
  rw [(firstRepeated?_eq_some names name).2 culprit.firstRepeat] at nothing
  cases nothing

/-- A list of names has one culprit at most. -/
theorem Culprit.unique {names : List String} {name other : String} (culprit : Culprit names name)
    (again : Culprit names other) : other = name := by
  have found := (firstRepeated?_eq_some names other).2 again.firstRepeat
  rw [(firstRepeated?_eq_some names name).2 culprit.firstRepeat] at found
  exact (Option.some.inj found).symm

/-- A check that accepts distinct names, and refuses others with the first name to be repeated,
accepts nothing else and refuses with the culprit only. -/
theorem check_exact {ε α : Type} {names : List String} {value : α} {fault : String → ε}
    {outcome : Except ε α} (accepts : names.Nodup → outcome = .ok value)
    (refuses : ∀ name, FirstRepeat names name → outcome = .error (fault name)) :
    (outcome = .ok value ↔ names.Nodup) ∧
      ∀ e, outcome = .error e ↔ ∃ name, Culprit names name ∧ e = fault name := by
  rcases nodup_or_firstRepeat names with distinct | ⟨name, repeated⟩
  · rw [accepts distinct]
    refine ⟨iff_of_true rfl distinct, fun e => iff_of_false (fun same => by cases same) ?_⟩
    rintro ⟨name, culprit, -⟩
    exact culprit.not_nodup distinct
  · rw [refuses name repeated]
    refine ⟨iff_of_false (fun same => by cases same) repeated.culprit.not_nodup, fun e => ?_⟩
    constructor
    · intro same
      exact ⟨name, repeated.culprit, (Except.error.inj same).symm⟩
    · rintro ⟨other, culprit, rfl⟩
      rw [repeated.culprit.unique culprit]

end RecordTyping

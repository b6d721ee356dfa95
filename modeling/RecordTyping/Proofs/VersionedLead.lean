import Mathlib.Data.List.Forall2
import RecordTyping.Proofs.Instantiation

/-!
# What the policy changes of a method

The style of the parameters is all that the templates read of a policy, and they read it only for
the leading parameter of the finders and of four builders. Two policies therefore give the same
methods, one by one, up to that parameter. What is declared beside the catalog does not read the
style at all; only the accessors of the collection proxy, which are not looked at here, depend on
the policy otherwise.
-/

namespace RecordTyping

/-- The leading parameter that a style gives to the methods that depend on it. -/
def ParamStyle.lead : ParamStyle → Param
  | .legacySplat => ⟨"args", .splat, .untyped, none⟩
  | .keywordAttributes => ⟨"attributes", .optional, .untyped, some "nil"⟩

namespace MethodSpec

variable {m : MethodSpec} {a b : ParamStyle}

/-- The methods whose leading parameter depends on the style. -/
def Versioned (m : MethodSpec) : Prop :=
  m.category = some .finder ∨
    m.category = some .builder ∧ m.name ∈ ["new", "build", "create", "create!"]

/-- A method in two styles: it is the same in both unless the styles differ and the method depends
on the style. If it does, each style has its own leading parameter, and all else is the same. -/
structure Restyled (a b : ParamStyle) (m m' : MethodSpec) : Prop where
  same : ¬(a ≠ b ∧ m.Versioned) → m' = m
  lead : m.Versioned →
    ∃ rest, m.params = a.lead :: rest ∧ m' = { m with params := b.lead :: rest }

/-- A method that does not depend on the style is the same in both. -/
theorem Restyled.refl (plain : ¬m.Versioned) : m.Restyled a b m where
  same _ := rfl
  lead versioned := absurd versioned plain

/-- A method that depends on the style has the leading parameter of each. -/
theorem Restyled.of_lead {rest : List Param} (leading : m.params = a.lead :: rest)
    (versioned : m.Versioned) : m.Restyled a b { m with params := b.lead :: rest } where
  same alike := by
    obtain rfl : a = b := by_contra fun differ => alike ⟨differ, versioned⟩
    rw [← leading]
  lead _ := ⟨rest, leading, rfl⟩

end MethodSpec

namespace Setting

variable {level : MethodLevel} {element : ElementType} {p q : Policy}

/-- The leading parameter of a setting is that of its style. -/
theorem versionedLead_eq (s : Setting) : s.versionedLead = s.policy.paramStyle.lead := by
  unfold versionedLead
  split <;> rename_i style <;> rw [style] <;> rfl

/-- A finder takes the leading parameter of the style. -/
theorem finder_eq (s : Setting) (rule : Nullability) (name : String) : s.finder rule name =
    (MethodSpec.make name s.level (s.recordType rule name)).withParams
      [s.policy.paramStyle.lead] := by
  rw [finder, versionedLead_eq]

/-- A builder takes the leading parameter of the style if it is one of four, and otherwise that of
the later style. -/
theorem builder_eq (s : Setting) (name : String) : s.builder name =
    (MethodSpec.make name s.level s.elementType).withParams
      [if name ∈ versionedBuilders then s.policy.paramStyle.lead
        else ParamStyle.keywordAttributes.lead, s.objectCallback] := by
  rw [builder, versionedLead_eq]
  simp only [List.contains_iff_mem]
  rfl

/-- Methods that are neither finders nor builders do not depend on the style. -/
theorem not_versioned {s : Setting} {category : Category} {names : List String}
    {rule : Nullability} (finder : category ≠ .finder) (builder : category ≠ .builder)
    (name : String) : ¬(s.specify ⟨category, names, rule⟩ name).Versioned := by
  rintro (same | ⟨same, -⟩)
  · exact finder (Option.some.inj same)
  · exact builder (Option.some.inj same)

/-- The methods of one name under two policies are one method in two styles. -/
theorem specify_restyled (level : MethodLevel) (element : ElementType) (p q : Policy)
    (entry : CategoryEntry) (name : String) :
    ((Setting.mk level element p).specify entry name).Restyled p.paramStyle q.paramStyle
      ((Setting.mk level element q).specify entry name) := by
  obtain ⟨category, names, rule⟩ := entry
  cases category with
  | finder =>
    simp only [specify, finder_eq]
    exact .of_lead rfl (.inl rfl)
  | builder =>
    simp only [specify, builder_eq]
    by_cases versioned : name ∈ versionedBuilders
    · simp only [versioned, if_true]
      exact .of_lead rfl (.inr ⟨rfl, versioned⟩)
    · simp only [versioned, if_false]
      refine .refl ?_
      rintro (finder | ⟨-, known⟩)
      · cases finder
      · exact versioned known
  | findOrX => exact .refl (not_versioned (by decide) (by decide) name)
  | itemAccessor => exact .refl (not_versioned (by decide) (by decide) name)
  | batchIterator => exact .refl (not_versioned (by decide) (by decide) name)
  | booleanPredicate => exact .refl (not_versioned (by decide) (by decide) name)

end Setting

/-- Two policies give an entry the same methods in two styles, one by one: only the leading
parameter of finders and of the builders `new`, `build`, `create` and `create!` may differ, and only
if the styles do. Beside the catalog nothing but the accessors of the collection proxy depends on
the policy. -/
theorem policy_touches_lead (level : MethodLevel) (element : ElementType) (p q : Policy)
    (entry : CategoryEntry) :
    let s : Setting := ⟨level, element, p⟩
    let s' : Setting := ⟨level, element, q⟩
    List.Forall₂ (MethodSpec.Restyled p.paramStyle q.paramStyle)
      (s.instantiate entry) (s'.instantiate entry) ∧
    s.builderMasks = s'.builderMasks ∧ s.proxyFind = s'.proxyFind ∧
    s.relationEnumerable = s'.relationEnumerable ∧ s.emptyPredicate = s'.emptyPredicate := by
  intro s s'
  refine ⟨?_, rfl, rfl, rfl, rfl⟩
  -- what is left out depends on the level and the name, so the methods can be paired off
  have kept : s.skips entry = s'.skips entry := rfl
  rw [Setting.instantiate, Setting.instantiate, kept, List.forall₂_map_left_iff,
    List.forall₂_map_right_iff, List.forall₂_same]
  exact fun name _ => Setting.specify_restyled level element p q entry name

end RecordTyping

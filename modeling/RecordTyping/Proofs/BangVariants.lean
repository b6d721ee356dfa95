import RecordTyping.Proofs.Instantiation

/-!
# Bang variants

A finder or item accessor under the strict rule may return nil unless its name ends with a bang or
is exempt. Nothing else of its method depends on its name, so that a plain method and its bang
variant differ only in whether they may return nil, and in the result type that says so. The names
of the entry are arbitrary: a bang may stand behind another one, and exempt names may have a bang.
-/

namespace RecordTyping

/-- A name that ends with a bang. -/
def EndsInBang (name : String) : Prop := ∃ stem, name = stem ++ "!"

/-- The last character of a name tells whether it ends with a bang. -/
theorem isBang_iff {name : String} : isBang name = true ↔ EndsInBang name := by
  rw [isBang, beq_iff_eq, List.getLast?_eq_some_iff, EndsInBang]
  constructor
  · rintro ⟨stem, text⟩
    refine ⟨String.ofList stem, ?_⟩
    rw [← String.toList_inj, text]
    simp
  · rintro ⟨stem, rfl⟩
    exact ⟨stem.toList, by simp⟩

/-- Under the strict rule a name may be absent exactly if it neither ends with a bang nor is
exempt. -/
theorem Nullability.isNullable_bangStrict {exempt : List String} {name : String} :
    (Nullability.bangStrict exempt).isNullable name = true ↔
      ¬EndsInBang name ∧ name ∉ exempt := by
  simp [isNullable, ← isBang_iff]

namespace Setting

variable {s : Setting} {category : Category} {names : List String} {rule : Nullability}
  {params : List Param}

/-- A method that returns a record, or nil if the rule says so. -/
def recordMethod (s : Setting) (category : Category) (rule : Nullability) (params : List Param)
    (name : String) : MethodSpec :=
  ((MethodSpec.make name s.level (s.recordType rule name)).withParams params).inCategory category

/-- Finders and item accessors return a record. Their parameters are the same for all names. -/
theorem specify_record (s : Setting) (returning : category = .finder ∨ category = .itemAccessor)
    (names : List String) (rule : Nullability) : ∃ params, ∀ name,
      s.specify ⟨category, names, rule⟩ name = s.recordMethod category rule params name := by
  rcases returning with rfl | rfl
  · exact ⟨[s.versionedLead], fun _ => rfl⟩
  · exact ⟨[], fun _ => rfl⟩

/-- No finder or item accessor is left out. -/
theorem skips_record (returning : category = .finder ∨ category = .itemAccessor) (name : String) :
    s.skips ⟨category, names, rule⟩ name = false := by
  rw [Bool.eq_false_iff, ne_eq, skips_iff]
  rintro ⟨⟨builder, -⟩, -⟩
  rcases returning with rfl | rfl <;> cases builder

/-- A method that returns a record is nullable exactly if the rule says so. -/
theorem recordMethod_nullable (name : String) :
    (s.recordMethod category rule params name).nullable = rule.isNullable name := by
  show (s.recordType rule name).isNilable = _
  unfold recordType
  split
  · rename_i nullable
    exact nullable.symm
  · rename_i present
    exact (Bool.eq_false_iff.2 present).symm

/-- The result of a method that returns a record is nilable exactly if the method is nullable. -/
theorem recordMethod_returns (name : String) :
    (s.recordMethod category rule params name).returns =
      if (s.recordMethod category rule params name).nullable then .nilable s.elementType
      else s.elementType := by
  rw [recordMethod_nullable]
  rfl

/-- A nullable method that returns a record differs from one that always does in its name, its mark
and its result. -/
theorem recordMethod_variant {plain strict : String} (nullable : rule.isNullable plain = true)
    (present : rule.isNullable strict = false) :
    (s.recordMethod category rule params plain).returns =
        .nilable (s.recordMethod category rule params strict).returns ∧
      s.recordMethod category rule params plain =
        { s.recordMethod category rule params strict with
          name := plain
          nullable := true
          returns := .nilable (s.recordMethod category rule params strict).returns } := by
  have absent : s.recordType rule plain = .nilable s.elementType := if_pos nullable
  have record : s.recordType rule strict = s.elementType := by rw [recordType, present]; rfl
  have returns : (s.recordMethod category rule params plain).returns =
      .nilable (s.recordMethod category rule params strict).returns := by
    show s.recordType rule plain = .nilable (s.recordType rule strict)
    rw [absent, record]
  have mark : (s.recordMethod category rule params plain).nullable = true :=
    (recordMethod_nullable plain).trans nullable
  refine ⟨returns, ?_⟩
  rw [← returns, ← mark]
  rfl

end Setting

/-- Under the strict rule a finder or item accessor may return nil exactly if its name neither ends
with a bang nor is exempt, and its result is a record, or nil if it may be. When a name that is
neither exempt nor ends with a bang is there with and without a bang behind it, the two methods
differ in nothing but their names and that the plain one may return nil where the other does
not. -/
theorem bang_variants (s : Setting) (category : Category) (names exempt : List String)
    (returning : category = .finder ∨ category = .itemAccessor) :
    let methods := s.instantiate ⟨category, names, .bangStrict exempt⟩
    methods.map MethodSpec.name = names ∧
    (∀ m ∈ methods, (m.nullable = true ↔ ¬EndsInBang m.name ∧ m.name ∉ exempt) ∧
      m.returns = if m.nullable then .nilable s.elementType else s.elementType) ∧
    ∀ plain ∈ methods, ∀ bang ∈ methods, bang.name = plain.name ++ "!" →
      plain.name ∉ exempt → ¬EndsInBang plain.name →
        bang.nullable = false ∧ plain.returns = .nilable bang.returns ∧
          plain = { bang with
            name := plain.name, nullable := true, returns := .nilable bang.returns } := by
  intro methods
  -- the parameters are fixed before any name is looked at, so that variants share them
  obtain ⟨params, specified⟩ := s.specify_record returning names (.bangStrict exempt)
  have made (m : MethodSpec) (member : m ∈ methods) :
      ∃ name, s.recordMethod category (.bangStrict exempt) params name = m := by
    obtain ⟨name, -, -, rfl⟩ := Setting.mem_instantiate.1 member
    exact ⟨name, (specified name).symm⟩
  refine ⟨?_, ?_, ?_⟩
  · rw [s.instantiate_names, List.filter_eq_self]
    intro name _
    rw [Setting.skips_record returning]
    rfl
  · intro m member
    obtain ⟨name, rfl⟩ := made m member
    refine ⟨?_, Setting.recordMethod_returns name⟩
    rw [Setting.recordMethod_nullable, Nullability.isNullable_bangStrict]
    rfl
  · intro plain member bang member' variant notExempt unmarked
    obtain ⟨name, rfl⟩ := made plain member
    obtain ⟨strict, rfl⟩ := made bang member'
    obtain rfl : strict = name ++ "!" := variant
    have nullable := Nullability.isNullable_bangStrict.2 ⟨unmarked, notExempt⟩
    have present : (Nullability.bangStrict exempt).isNullable (name ++ "!") = false := by
      rw [Bool.eq_false_iff, ne_eq, Nullability.isNullable_bangStrict]
      exact fun absent => absent.1 ⟨name, rfl⟩
    exact ⟨(Setting.recordMethod_nullable _).trans present,
      Setting.recordMethod_variant nullable present⟩

/-- Accessors of which one has two bangs and is exempt as another without a bang is. -/
def accessors : CategoryEntry :=
  ⟨.itemAccessor, ["first", "first!", "first!!", "last", "last!"], .bangStrict ["last", "first!!"]⟩

/-- Of these accessors of the base class only the plain one that is not exempt may return nil, and
what it returns otherwise is what its bang variant returns. -/
theorem bang_variants_accessors :
    let methods := baseSetting.instantiate accessors
    methods.map MethodSpec.name = ["first", "first!", "first!!", "last", "last!"] ∧
    methods.map MethodSpec.nullable = [true, false, false, false, false] ∧
    ∃ plain ∈ methods, ∃ bang ∈ methods, plain.name = "first" ∧ bang.name = "first!" ∧
      plain.returns = .nilable bang.returns := by
  intro methods
  obtain ⟨names, -, pairs⟩ := bang_variants baseSetting .itemAccessor accessors.names
    ["last", "first!!"] (.inr rfl)
  have plain : baseSetting.specify accessors "first" ∈ methods :=
    Setting.mem_instantiate.2 ⟨"first", by decide, rfl, rfl⟩
  have bang : baseSetting.specify accessors "first!" ∈ methods :=
    Setting.mem_instantiate.2 ⟨"first!", by decide, rfl, rfl⟩
  have unmarked : ¬EndsInBang "first" := fun marked => absurd (isBang_iff.2 marked) (by decide)
  have notExempt : "first" ∉ ["last", "first!!"] := by decide
  obtain ⟨-, returns, -⟩ := pairs _ plain _ bang rfl notExempt unmarked
  exact ⟨names, rfl, _, plain, _, bang, rfl, rfl, returns⟩

end RecordTyping

import Mathlib.Data.List.Basic
import RecordTyping.Signature.Synthesis

/-!
# What an entry is instantiated to

Instantiating an entry of the catalog makes one method for each of its names, in their order. The
class itself has no `build`, which is the one name that is left out. Every method that is made in
a setting, from the catalog or beside it, is of the level of the setting and about its element
type alone, however deep in a callback or an enumerator the element stands. It mentions no type
parameter that it does not declare, and is marked as nullable exactly if its result is.
-/

namespace RecordTyping

namespace TypeExpr

variable {element : ElementType} {declared : List String} {part type : TypeExpr}

/-- A type is part of another when it is that type, or part of what that type wraps, of the type
of one of its arguments, or of its result. -/
inductive PartOf (part : TypeExpr) : TypeExpr → Prop where
  | whole : PartOf part part
  | nilable {inner : TypeExpr} (inside : PartOf part inner) : PartOf part (.nilable inner)
  | array {inner : TypeExpr} (inside : PartOf part inner) : PartOf part (.array inner)
  | enumerator {inner : TypeExpr} (inside : PartOf part inner) : PartOf part (.enumerator inner)
  | argument {params : List (String × TypeExpr)} {returns : Option TypeExpr}
    {arg : String × TypeExpr} (member : arg ∈ params) (inside : PartOf part arg.2) :
    PartOf part (.proc params returns)
  | result {params : List (String × TypeExpr)} {type : TypeExpr} (inside : PartOf part type) :
    PartOf part (.proc params (some type))

/-- A type over one element type and some type parameters. -/
inductive Over (element : ElementType) (declared : List String) : TypeExpr → Prop where
  | untyped : Over element declared .untyped
  | boolean : Over element declared .boolean
  | integer : Over element declared .integer
  | element : Over element declared (.element element)
  | nilable {inner : TypeExpr} (inside : Over element declared inner) :
    Over element declared (.nilable inner)
  | array {inner : TypeExpr} (inside : Over element declared inner) :
    Over element declared (.array inner)
  | enumerator {inner : TypeExpr} (inside : Over element declared inner) :
    Over element declared (.enumerator inner)
  | proc {params : List (String × TypeExpr)} {returns : Option TypeExpr}
    (arguments : ∀ arg ∈ params, Over element declared arg.2)
    (result : ∀ type ∈ returns, Over element declared type) :
    Over element declared (.proc params returns)
  | typeParameter {name : String} (known : name ∈ declared) :
    Over element declared (.typeParameter name)

/-- What a type is over all its parts are over. -/
theorem Over.partOf (typed : Over element declared type) (inside : PartOf part type) :
    Over element declared part := by
  -- on where the part is; each form of type is over something by one rule only
  induction inside with
  | whole => exact typed
  | nilable _ ih => cases typed with | nilable inner => exact ih inner
  | array _ ih => cases typed with | array inner => exact ih inner
  | enumerator _ ih => cases typed with | enumerator inner => exact ih inner
  | argument member _ ih =>
    cases typed with | proc arguments result => exact ih (arguments _ member)
  | result _ ih =>
    cases typed with | proc arguments result => exact ih (result _ rfl)

/-- A callback is over what the type of its argument is over. -/
theorem Over.callback (typed : Over element declared type) (arg : String) :
    Over element declared (callback arg type) :=
  .proc (List.forall_mem_singleton.2 typed) (fun _ none => nomatch none)

/-- A type may be nil exactly if it is a nilable one. -/
theorem isNilable_iff : type.isNilable = true ↔ ∃ inner, type = .nilable inner := by
  cases type <;> simp [isNilable]

end TypeExpr

namespace MethodSpec

variable {m : MethodSpec} {s : Setting}

/-- The types in a signature. -/
def types (m : MethodSpec) : List TypeExpr := m.returns :: m.params.map Param.type

/-- A method fits a setting: it is of its level, no other element type occurs in its signature, it
declares the type parameters that do, and it is marked as nullable exactly if its result is. -/
structure Fits (s : Setting) (m : MethodSpec) : Prop where
  level : m.level = s.level
  element : ∀ type ∈ m.types, ∀ e, TypeExpr.PartOf (.element e) type → e = s.element
  typeParameters : ∀ type ∈ m.types, ∀ name, TypeExpr.PartOf (.typeParameter name) type →
    name ∈ m.typeParameters
  nullable : m.nullable = true ↔ ∃ inner, m.returns = .nilable inner

/-- A method as it is made in a setting, with all its types over what the setting and the method
itself provide. -/
structure MadeIn (s : Setting) (m : MethodSpec) : Prop where
  level : m.level = s.level
  types : ∀ type ∈ m.types, type.Over s.element m.typeParameters
  nullable : m.nullable = m.returns.isNilable

/-- A method that is made in a setting fits it. -/
theorem MadeIn.fits (made : m.MadeIn s) : m.Fits s where
  level := made.level
  element type member e inside := by
    cases (made.types type member).partOf inside with | element => rfl
  typeParameters type member name inside := by
    cases (made.types type member).partOf inside with | typeParameter known => exact known
  nullable := by rw [made.nullable, TypeExpr.isNilable_iff]

/-- A method without parameters is made from its result. -/
theorem MadeIn.make {returns : TypeExpr} (typed : returns.Over s.element []) (name : String) :
    (MethodSpec.make name s.level returns).MadeIn s where
  level := rfl
  types := List.forall_mem_singleton.2 typed
  nullable := rfl

/-- A method that is made in a setting may be given parameters over the same. -/
theorem MadeIn.withParams (made : m.MadeIn s) {params : List Param}
    (typed : ∀ p ∈ params, p.type.Over s.element m.typeParameters) :
    (m.withParams params).MadeIn s where
  level := made.level
  types := List.forall_mem_cons.2
    ⟨made.types _ List.mem_cons_self, List.forall_mem_map.2 typed⟩
  nullable := made.nullable

/-- A method that is made in a setting may be put into a category. -/
theorem MadeIn.inCategory (made : m.MadeIn s) (category : Category) :
    (m.inCategory category).MadeIn s := ⟨made.level, made.types, made.nullable⟩

/-- A method that is made in a setting may be marked as overriding another. -/
theorem MadeIn.overriding (made : m.MadeIn s) : m.overriding.MadeIn s :=
  ⟨made.level, made.types, made.nullable⟩

/-- A method that is made in a setting may be marked as implementing an abstract one. -/
theorem MadeIn.implementing (made : m.MadeIn s) : m.implementing.MadeIn s :=
  ⟨made.level, made.types, made.nullable⟩

end MethodSpec

namespace Setting

variable {s : Setting} {declared : List String}

open MethodSpec (MadeIn)

/-- The records are of the element type of the setting. -/
theorem elementType_over (s : Setting) : s.elementType.Over s.element declared := .element

/-- The block that is given a new record is about the element type. -/
theorem objectCallback_over (s : Setting) : s.objectCallback.type.Over s.element declared :=
  .nilable (s.elementType_over.callback "object")

/-- The leading argument is untyped in every version. -/
theorem versionedLead_over (s : Setting) : s.versionedLead.type.Over s.element declared := by
  unfold versionedLead
  split <;> exact .untyped

/-- A record that may be missing is of the element type too. -/
theorem recordType_over (s : Setting) (rule : Nullability) (name : String) :
    (s.recordType rule name).Over s.element declared := by
  unfold recordType
  split
  · exact .nilable s.elementType_over
  · exact s.elementType_over

/-- What is yielded is one record or several. -/
theorem yielded_over (s : Setting) (name : String) :
    (s.yielded name).Over s.element declared := by
  unfold yielded
  split
  · exact s.elementType_over
  · exact .array s.elementType_over

/-- A builder takes a leading argument of either kind. -/
theorem builder_madeIn (s : Setting) (name : String) : (s.builder name).MadeIn s := by
  have lead : (if versionedBuilders.contains name then s.versionedLead
      else attributesWithDefault).type.Over s.element [] := by
    split
    · exact s.versionedLead_over
    · exact .untyped
  apply (MadeIn.make s.elementType_over name).withParams
  exact List.forall_iff_forall_mem.1 ⟨lead, s.objectCallback_over⟩

/-- A batch iterator has the element in its result and in its block. -/
theorem batchIterator_madeIn (s : Setting) (name : String) : (s.batchIterator name).MadeIn s := by
  have start : (TypeExpr.nilable .integer).Over s.element [] := .nilable .integer
  have block : (TypeExpr.nilable (.callback "e" (s.yielded name))).Over s.element [] :=
    .nilable ((s.yielded_over name).callback "e")
  apply MadeIn.overriding
  apply (MadeIn.make (.enumerator (s.yielded_over name)) name).withParams
  exact List.forall_iff_forall_mem.1 ⟨start, start, start, .nilable .boolean, block⟩

/-- A question has no types but plain ones. -/
theorem booleanPredicate_madeIn (s : Setting) (name : String) :
    (s.booleanPredicate name).MadeIn s := by
  have asked : (MethodSpec.make name s.level .boolean).MadeIn s := .make .boolean name
  unfold booleanPredicate
  split
  · exact asked.withParams (List.forall_mem_singleton.2 .untyped)
  · exact asked

/-- Every method of the catalog is made in its setting. -/
theorem specify_madeIn (s : Setting) (entry : CategoryEntry) (name : String) :
    (s.specify entry name).MadeIn s := by
  apply MadeIn.inCategory
  cases entry.category with
  | finder =>
    apply (MadeIn.make (s.recordType_over _ _) name).withParams
    exact List.forall_mem_singleton.2 s.versionedLead_over
  | findOrX =>
    apply (MadeIn.make s.elementType_over name).withParams
    exact List.forall_iff_forall_mem.1 ⟨.untyped, s.objectCallback_over⟩
  | itemAccessor => exact .make (s.recordType_over _ _) name
  | builder => exact s.builder_madeIn name
  | batchIterator => exact s.batchIterator_madeIn name
  | booleanPredicate => exact s.booleanPredicate_madeIn name

/-- Whether there are no records is asked in every setting. -/
theorem emptyPredicate_madeIn (s : Setting) : s.emptyPredicate.MadeIn s := .make .boolean "empty?"

/-- The result of `map` mentions its type parameter before the method declares it, so that the
method is made in the setting only as a whole. -/
theorem map_madeIn (s : Setting) :
    (((MethodSpec.make "map" s.level (.array (.typeParameter "U"))).withTypeParameter
      "U").withParams
        [.block "blk" (.proc [("arg0", s.elementType)] (some (.typeParameter "U")))]).MadeIn s where
  level := rfl
  types := by
    have image : TypeExpr.Over s.element ["U"] (.typeParameter "U") :=
      .typeParameter List.mem_cons_self
    have block : TypeExpr.Over s.element ["U"]
        (.proc [("arg0", s.elementType)] (some (.typeParameter "U"))) :=
      .proc (List.forall_mem_singleton.2 s.elementType_over)
        (fun type member => Option.mem_some.1 member ▸ image)
    exact List.forall_iff_forall_mem.1 ⟨.array image, block⟩
  nullable := rfl

/-- The methods of a collection are made in their setting. -/
theorem relationEnumerable_madeIn (s : Setting) : ∀ m ∈ s.relationEnumerable, m.MadeIn s := by
  have array (name : String) : (MethodSpec.make name s.level (.array s.elementType)).MadeIn s :=
    .make (.array s.elementType_over) name
  have each : ((MethodSpec.make "each" s.level (.array s.elementType)).withParams
      [.block "block" (.callback "e" s.elementType)]).implementing.MadeIn s :=
    ((array "each").withParams
      (List.forall_mem_singleton.2 (s.elementType_over.callback "e"))).implementing
  have flatten : ((MethodSpec.make "flatten" s.level (.array s.elementType)).withParams
      [.optional "level" (.nilable .integer) "nil"]).MadeIn s :=
    (array "flatten").withParams (List.forall_mem_singleton.2 (.nilable .integer))
  exact List.forall_iff_forall_mem.1
    ⟨each, flatten, array "to_a", s.map_madeIn, s.emptyPredicate_madeIn⟩

/-- The builders that are declared again are made in their setting. -/
theorem builderMasks_madeIn (s : Setting) : ∀ m ∈ s.builderMasks, m.MadeIn s := by
  unfold builderMasks
  rw [List.forall_mem_map]
  intro name _
  apply ((MadeIn.make s.elementType_over name).inCategory .builder).withParams
  exact List.forall_iff_forall_mem.1 ⟨.untyped, s.objectCallback_over⟩

/-- The finder of the collection proxy is made in its setting. -/
theorem proxyFind_madeIn (s : Setting) : s.proxyFind.MadeIn s :=
  ((MadeIn.make s.elementType_over "find").inCategory .finder).withParams
    (List.forall_mem_singleton.2 .untyped)

/-- The accessors of the collection proxy are made in their setting. -/
theorem proxyAccessors_madeIn (s : Setting) : ∀ m ∈ s.proxyAccessors, m.MadeIn s := by
  have accessor (name : String) {p : Param} (typed : p.type.Over s.element []) :
      (((MethodSpec.make name s.level (.nilable s.elementType)).inCategory
        .itemAccessor).withParams [p]).MadeIn s :=
    ((MadeIn.make (.nilable s.elementType_over) name).inCategory .itemAccessor).withParams
      (List.forall_mem_singleton.2 typed)
  unfold proxyAccessors
  split
  · rw [List.forall_mem_append, List.forall_mem_map, List.forall_mem_map]
    exact ⟨fun name _ => accessor name .untyped,
      fun name _ => (MadeIn.make .boolean name).inCategory .booleanPredicate⟩
  · exact List.forall_mem_singleton.2 (accessor "last" .untyped)

/-- A name is left out exactly if it is `build` and the methods are the builders of a class. -/
theorem skips_iff (s : Setting) (entry : CategoryEntry) (name : String) :
    s.skips entry name = true ↔
      (entry.category = .builder ∧ s.level = .classLevel) ∧ name = "build" := by
  have isClass : s.level.isClass = true ↔ s.level = .classLevel := by
    cases s.level <;> simp [MethodLevel.isClass]
  simp [skips, isClass, instanceOnlyBuilders]

/-- The method of a name has this name. -/
theorem specify_name (s : Setting) (entry : CategoryEntry) (name : String) :
    (s.specify entry name).name = name := by
  obtain ⟨category, names, rule⟩ := entry
  cases category with
  | booleanPredicate =>
    unfold specify booleanPredicate
    dsimp only
    split <;> rfl
  | _ => rfl

/-- The method of a name is in the category of its entry. -/
theorem specify_category (s : Setting) (entry : CategoryEntry) (name : String) :
    (s.specify entry name).category = some entry.category := rfl

/-- An entry has a method for each name that is not left out. -/
theorem mem_instantiate {s : Setting} {entry : CategoryEntry} {m : MethodSpec} :
    m ∈ s.instantiate entry ↔
      ∃ name ∈ entry.names, s.skips entry name = false ∧ s.specify entry name = m := by
  simp [instantiate, and_assoc]

/-- The methods of an entry have the names that are not left out, in their order. -/
theorem instantiate_names (s : Setting) (entry : CategoryEntry) :
    (s.instantiate entry).map MethodSpec.name =
      entry.names.filter fun name => !s.skips entry name := by
  have named : MethodSpec.name ∘ s.specify entry = id := funext (s.specify_name entry)
  rw [instantiate, List.map_map, named, List.map_id]

/-- All methods that a setting makes beside the catalog. -/
def supplements (s : Setting) : List MethodSpec :=
  s.relationEnumerable ++ [s.emptyPredicate] ++ s.builderMasks ++ [s.proxyFind] ++ s.proxyAccessors

/-- The methods beside the catalog are made in their setting. -/
theorem supplements_madeIn (s : Setting) : ∀ m ∈ s.supplements, m.MadeIn s := by
  simp only [supplements, List.forall_mem_append, List.forall_mem_singleton]
  exact ⟨⟨⟨⟨s.relationEnumerable_madeIn, s.emptyPredicate_madeIn⟩, s.builderMasks_madeIn⟩,
    s.proxyFind_madeIn⟩, s.proxyAccessors_madeIn⟩

end Setting

/-- An entry is instantiated to one method for each of its names, in their order and as often as
they are repeated, but for the occurrences of `build` among the builders of a class. Each is in
the category of the entry. These methods and those that are made beside the catalog fit the
setting. -/
theorem instantiation_uniform (s : Setting) (entry : CategoryEntry) :
    (s.instantiate entry).map MethodSpec.name =
      (if entry.category = .builder ∧ s.level = .classLevel then entry.names.filter (· ≠ "build")
        else entry.names) ∧
    (∀ m ∈ s.instantiate entry, m.category = some entry.category ∧ m.Fits s) ∧
    ∀ m ∈ s.supplements, m.Fits s := by
  refine ⟨?_, ?_, fun m member => (s.supplements_madeIn m member).fits⟩
  · rw [s.instantiate_names]
    split
    · rename_i builders
      apply List.filter_congr
      intro name _
      rw [Bool.eq_iff_iff, Bool.not_eq_true', Bool.eq_false_iff, ne_eq, s.skips_iff]
      simp [builders]
    · rename_i others
      apply List.filter_eq_self.2
      intro name _
      rw [Bool.not_eq_true', Bool.eq_false_iff, ne_eq, s.skips_iff]
      exact fun skipped => others skipped.1
  · intro m member
    obtain ⟨name, -, -, rfl⟩ := Setting.mem_instantiate.1 member
    exact ⟨s.specify_category entry name, (s.specify_madeIn entry name).fits⟩

/-- The setting of the base class under release 5.0. -/
def baseSetting : Setting :=
  HostClass.baseRecord.setting ⟨⟨5, 0, "5.0"⟩, .legacySplat, .directDeclarations⟩

/-- Of repeated builders of the base class those named `build` are left out; another one fits the
class, and so does the `map` of the collection with its type parameter. -/
theorem instantiation_uniform_builders :
    (baseSetting.instantiate ⟨.builder, ["build", "new", "create!", "build", "new"],
      .alwaysPresent⟩).map MethodSpec.name = ["new", "create!", "new"] ∧
    ((baseSetting.builder "create!").inCategory .builder).Fits baseSetting ∧
    ∃ m ∈ baseSetting.supplements, m.name = "map" ∧ m.typeParameters = ["U"] ∧
      m.Fits baseSetting := by
  obtain ⟨names, each, others⟩ := instantiation_uniform baseSetting
    ⟨.builder, ["build", "new", "create!", "build", "new"], .alwaysPresent⟩
  have made : (baseSetting.builder "create!").inCategory .builder ∈ baseSetting.instantiate
      ⟨.builder, ["build", "new", "create!", "build", "new"], .alwaysPresent⟩ :=
    Setting.mem_instantiate.2 ⟨"create!", by decide, by decide, rfl⟩
  have map := List.getElem_mem (l := baseSetting.supplements) (n := 3) (by decide)
  exact ⟨names, (each _ made).2, _, map, rfl, rfl, others _ map⟩

end RecordTyping

import RecordTyping.Framework.Policy
import RecordTyping.Signature.Catalog

/-!
# Templates

How the specification of a method follows from its name, its category and the setting it is
declared in: the level of the methods, the element type they are about and the policy.
-/

namespace RecordTyping

/-- Where methods are declared. -/
structure Setting where
  level : MethodLevel
  element : ElementType
  policy : Policy
deriving DecidableEq, Repr

/-- The optional attributes that builders and finders take. -/
def attributesWithDefault : Param := .optional "attributes" .untyped "nil"

namespace Setting

/-- The type of the records. -/
def elementType (s : Setting) : TypeExpr := .element s.element

/-- The optional block that is given a new record. -/
def objectCallback (s : Setting) : Param :=
  .block "block" (.nilable (.callback "object" s.elementType))

/-- The leading argument that depends on the version. -/
def versionedLead (s : Setting) : Param :=
  match s.policy.paramStyle with
  | .legacySplat => .splat "args" .untyped
  | .keywordAttributes => attributesWithDefault

/-- The result of a method that returns a record, or nil if the rule says so. -/
def recordType (s : Setting) (rule : Nullability) (name : String) : TypeExpr :=
  if rule.isNullable name then .nilable s.elementType else s.elementType

/-- A finder. -/
def finder (s : Setting) (rule : Nullability) (name : String) : MethodSpec :=
  (MethodSpec.make name s.level (s.recordType rule name)).withParams [s.versionedLead]

/-- A method that finds a record or makes one. -/
def findOrX (s : Setting) (name : String) : MethodSpec :=
  (MethodSpec.make name s.level s.elementType).withParams
    [.positional "attributes" .untyped, s.objectCallback]

/-- A method that returns the record at a place. -/
def itemAccessor (s : Setting) (rule : Nullability) (name : String) : MethodSpec :=
  MethodSpec.make name s.level (s.recordType rule name)

/-- A method that makes a record. -/
def builder (s : Setting) (name : String) : MethodSpec :=
  let lead := if versionedBuilders.contains name then s.versionedLead else attributesWithDefault
  (MethodSpec.make name s.level s.elementType).withParams [lead, s.objectCallback]

/-- What a batch iterator yields: one record, or the records of a batch. -/
def yielded (s : Setting) (name : String) : TypeExpr :=
  if name = "find_each" then s.elementType else .array s.elementType

/-- A method that goes through the records in batches. -/
def batchIterator (s : Setting) (name : String) : MethodSpec :=
  ((MethodSpec.make name s.level (.enumerator (s.yielded name))).withParams
    [.keyword "start" (.nilable .integer) "nil",
      .keyword "finish" (.nilable .integer) "nil",
      .keyword "batch_size" (.nilable .integer) "1000",
      .keyword "error_on_ignore" (.nilable .boolean) "nil",
      .block "block" (.nilable (.callback "e" (s.yielded name)))]).overriding

/-- A question about the records. Only `exists?` takes conditions. -/
def booleanPredicate (s : Setting) (name : String) : MethodSpec :=
  let spec := MethodSpec.make name s.level .boolean
  if name = "exists?" then spec.withParams [.optional "conditions" .untyped "nil"] else spec

/-- The specification of a method of a catalog entry. -/
def specify (s : Setting) (entry : CategoryEntry) (name : String) : MethodSpec :=
  let spec := match entry.category with
    | .finder => s.finder entry.nullability name
    | .findOrX => s.findOrX name
    | .itemAccessor => s.itemAccessor entry.nullability name
    | .builder => s.builder name
    | .batchIterator => s.batchIterator name
    | .booleanPredicate => s.booleanPredicate name
  spec.inCategory entry.category

/-- Whether a method of an entry is not declared here. -/
def skips (s : Setting) (entry : CategoryEntry) (name : String) : Bool :=
  entry.category = .builder && s.level.isClass && instanceOnlyBuilders.contains name

/-- The methods of a catalog entry. -/
def instantiate (s : Setting) (entry : CategoryEntry) : List MethodSpec :=
  (entry.names.filter fun name => !s.skips entry name).map (s.specify entry)

end Setting

end RecordTyping

import RecordTyping.Signature.Method

/-!
# The catalog of methods

The names of each category of methods and the rule that says which of them may return nil.
-/

namespace RecordTyping

/-- Which methods of a category may return nil. -/
inductive Nullability where
  /-- All but those whose name ends with a bang and those that are exempt. -/
  | bangStrict (exempt : List String)
  /-- None: the record is made if it is not found. -/
  | alwaysPresent
  /-- None: the result is no record. -/
  | notApplicable
deriving DecidableEq, Repr

/-- Whether a method may return nil. -/
def Nullability.isNullable : Nullability → String → Bool
  | .bangStrict exempt, name => !isBang name && !exempt.contains name
  | .alwaysPresent, _ => false
  | .notApplicable, _ => false

/-- The methods of a category. -/
structure CategoryEntry where
  category : Category
  names : List String
  nullability : Nullability
deriving DecidableEq, Repr

/-- The entry of a category. -/
def Category.entry : Category → CategoryEntry
  | .finder => ⟨.finder, ["find", "find_by", "find_by!"], .bangStrict ["find"]⟩
  | .findOrX =>
    ⟨.findOrX, ["find_or_initialize_by", "find_or_create_by", "find_or_create_by!"],
      .alwaysPresent⟩
  | .itemAccessor =>
    ⟨.itemAccessor,
      ["first", "first!", "second", "second!", "third", "third!", "third_to_last",
        "third_to_last!", "second_to_last", "second_to_last!", "last", "last!"],
      .bangStrict []⟩
  | .builder =>
    ⟨.builder,
      ["create", "create!", "new", "build", "first_or_create", "first_or_create!",
        "first_or_initialize"],
      .alwaysPresent⟩
  | .batchIterator => ⟨.batchIterator, ["find_each", "find_in_batches"], .notApplicable⟩
  | .booleanPredicate =>
    ⟨.booleanPredicate, ["exists?", "any?", "many?", "none?", "one?"], .notApplicable⟩

/-- The catalog. -/
def catalog : List CategoryEntry := Category.all.map Category.entry

/-- The builders whose leading argument depends on the version. -/
def versionedBuilders : List String := ["new", "build", "create", "create!"]

/-- The builders that only instances have. -/
def instanceOnlyBuilders : List String := ["build"]

/-- The item accessors without a bang. -/
def plainItemAccessors : List String :=
  ["first", "second", "third", "third_to_last", "second_to_last", "last"]

end RecordTyping

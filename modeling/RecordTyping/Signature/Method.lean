import RecordTyping.Signature.TypeExpr

/-!
# Methods

The specification of one method: its name, its parameters and result, and the marks that its
signature carries. The bang at the end of a name belongs to the variant that never returns nil.
-/

namespace RecordTyping

/-- What a method is for. -/
inductive Category where
  | finder
  | findOrX
  | itemAccessor
  | builder
  | batchIterator
  | booleanPredicate
deriving DecidableEq, Repr

namespace Category

/-- The categories in the order of the catalog. -/
def all : List Category :=
  [.finder, .findOrX, .itemAccessor, .builder, .batchIterator, .booleanPredicate]

/-- The category as it is shown. -/
def label : Category → String
  | .finder => "finder"
  | .findOrX => "find-or-x"
  | .itemAccessor => "item-accessor"
  | .builder => "builder"
  | .batchIterator => "batch-iterator"
  | .booleanPredicate => "boolean-predicate"

/-- The name of the category in data. -/
def name : Category → String
  | .finder => "finder"
  | .findOrX => "find_or_x"
  | .itemAccessor => "item_accessor"
  | .builder => "builder"
  | .batchIterator => "batch_iterator"
  | .booleanPredicate => "boolean_predicate"

end Category

/-- How a parameter is passed. -/
inductive ParamKind where
  | positional
  | optional
  | splat
  | keyword
  | block
deriving DecidableEq, Repr

namespace ParamKind

/-- The kinds of parameters. -/
def all : List ParamKind := [.positional, .optional, .splat, .keyword, .block]

/-- The name of the kind in data. -/
def name : ParamKind → String
  | .positional => "positional"
  | .optional => "optional"
  | .splat => "splat"
  | .keyword => "keyword"
  | .block => "block"

end ParamKind

/-- A parameter of a method. -/
structure Param where
  name : String
  kind : ParamKind
  type : TypeExpr
  /-- The text of the value that an argument defaults to. -/
  default : Option String
deriving Repr, BEq

namespace Param

/-- A required parameter. -/
def positional (name : String) (type : TypeExpr) : Param := ⟨name, .positional, type, none⟩

/-- A parameter with a default. -/
def optional (name : String) (type : TypeExpr) (default : String) : Param :=
  ⟨name, .optional, type, some default⟩

/-- A parameter for any number of arguments. -/
def splat (name : String) (type : TypeExpr) : Param := ⟨name, .splat, type, none⟩

/-- A keyword parameter with a default. -/
def keyword (name : String) (type : TypeExpr) (default : String) : Param :=
  ⟨name, .keyword, type, some default⟩

/-- The block of a method. -/
def block (name : String) (type : TypeExpr) : Param := ⟨name, .block, type, none⟩

end Param

/-- The form of the leading argument of a method. -/
inductive ParameterShape where
  | untypedSplat
  | attributesWithDefault
  | requiredAttributes
  | keywordOptions
  | closureCallback
deriving DecidableEq, Repr

/-- The name of a form in data. -/
def ParameterShape.name : ParameterShape → String
  | .untypedSplat => "untyped_splat"
  | .attributesWithDefault => "attributes_with_default"
  | .requiredAttributes => "required_attributes"
  | .keywordOptions => "keyword_options"
  | .closureCallback => "closure_callback"

/-- The specification of a method. -/
structure MethodSpec where
  name : String
  category : Option Category
  level : MethodLevel
  params : List Param
  returns : TypeExpr
  /-- Whether the method may return nil. -/
  nullable : Bool
  typeParameters : List String
  overrides : Bool
  implementation : Bool
deriving Repr, BEq

/-- Whether a name ends with a bang. -/
def isBang (name : String) : Bool := name.toList.getLast? == some '!'

namespace MethodSpec

/-- A method without parameters and marks. It may return nil if its result type says so. -/
def make (name : String) (level : MethodLevel) (returns : TypeExpr) : MethodSpec where
  name := name
  category := none
  level := level
  params := []
  returns := returns
  nullable := returns.isNilable
  typeParameters := []
  overrides := false
  implementation := false

/-- The method in a category. -/
def inCategory (m : MethodSpec) (category : Category) : MethodSpec :=
  { m with category := some category }

/-- The method with parameters. -/
def withParams (m : MethodSpec) (params : List Param) : MethodSpec := { m with params := params }

/-- The method with one more type parameter. -/
def withTypeParameter (m : MethodSpec) (name : String) : MethodSpec :=
  { m with typeParameters := m.typeParameters ++ [name] }

/-- The method marked as overriding another. -/
def overriding (m : MethodSpec) : MethodSpec := { m with overrides := true }

/-- The method marked as implementing an abstract one. -/
def implementing (m : MethodSpec) : MethodSpec := { m with implementation := true }

/-- The name without one bang at its end. -/
def baseName (m : MethodSpec) : String :=
  if isBang m.name then String.ofList m.name.toList.dropLast else m.name

/-- The form of the first parameter that is not the block. -/
def parameterShape (m : MethodSpec) : ParameterShape :=
  match m.params.find? fun p => p.kind ≠ .block with
  | some p =>
    match p.kind with
    | .splat => .untypedSplat
    | .optional => .attributesWithDefault
    | .positional => .requiredAttributes
    | .keyword => .keywordOptions
    | .block => .closureCallback
  | none => .closureCallback

end MethodSpec

end RecordTyping

import RecordTyping.Schema
import RecordTyping.Signature.Template

/-!
# The methods of a host class

The base record class and the generic relation have all methods of the catalog, the relation
also some of a collection. The association relation and the collection proxy inherit them, and
declare again only what other declarations of those classes would hide.
-/

namespace RecordTyping

namespace Setting

/-- Whether there are no records. -/
def emptyPredicate (s : Setting) : MethodSpec := MethodSpec.make "empty?" s.level .boolean

/-- The methods of a collection on the generic relation. -/
def relationEnumerable (s : Setting) : List MethodSpec :=
  [((MethodSpec.make "each" s.level (.array s.elementType)).withParams
      [.block "block" (.callback "e" s.elementType)]).implementing,
    (MethodSpec.make "flatten" s.level (.array s.elementType)).withParams
      [.optional "level" (.nilable .integer) "nil"],
    MethodSpec.make "to_a" s.level (.array s.elementType),
    ((MethodSpec.make "map" s.level (.array (.typeParameter "U"))).withTypeParameter "U").withParams
      [.block "blk" (.proc [("arg0", s.elementType)] (some (.typeParameter "U")))],
    s.emptyPredicate]

/-- The builders that are declared again, with one optional value in every version. -/
def builderMasks (s : Setting) : List MethodSpec :=
  ["new", "build", "create", "create!"].map fun name =>
    ((MethodSpec.make name s.level s.elementType).inCategory .builder).withParams
      [attributesWithDefault, s.objectCallback]

/-- The finder of the collection proxy, which takes a splat in every version. -/
def proxyFind (s : Setting) : MethodSpec :=
  ((MethodSpec.make "find" s.level s.elementType).inCategory .finder).withParams
    [.splat "args" .untyped]

/-- The accessors of the collection proxy. -/
def proxyAccessors (s : Setting) : List MethodSpec :=
  match s.policy.proxyAccessors with
  | .directDeclarations =>
    (plainItemAccessors.map fun name =>
      ((MethodSpec.make name s.level (.nilable s.elementType)).inCategory .itemAccessor).withParams
        [.splat "args" .untyped]) ++
    ["any?", "many?"].map fun name =>
      (MethodSpec.make name s.level .boolean).inCategory .booleanPredicate
  | .lastOnly =>
    [((MethodSpec.make "last" s.level (.nilable s.elementType)).inCategory
      .itemAccessor).withParams [.optional "limit" .untyped "nil"]]

/-- All methods of the catalog. -/
def categorized (s : Setting) : List MethodSpec := catalog.flatMap s.instantiate

end Setting

/-- Two methods of one name in a class. -/
structure DuplicateMethod where
  className : String
  name : String
deriving DecidableEq, Repr

/-- The wording of a repeated method. -/
def DuplicateMethod.message (e : DuplicateMethod) : String :=
  "duplicate method '" ++ e.name ++ "' synthesized for " ++ e.className

/-- The methods of one host class. -/
structure ClassSignatures where
  host : HostClass
  methods : List MethodSpec
deriving Repr, BEq

namespace HostClass

/-- Where the methods of the class are declared. -/
def setting (host : HostClass) (policy : Policy) : Setting := ⟨host.level, host.element, policy⟩

/-- The methods that the class declares, before their names are checked. -/
def declared (host : HostClass) (policy : Policy) : List MethodSpec :=
  let s := host.setting policy
  match host with
  | .baseRecord => s.categorized
  | .relation => s.categorized ++ s.relationEnumerable
  | .associationRelation => s.builderMasks
  | .collectionProxy =>
    s.builderMasks ++ [s.proxyFind] ++ s.proxyAccessors ++ [s.emptyPredicate]

/-- The names of the methods of a class must be distinct. -/
def ensureUnique (host : HostClass) (methods : List MethodSpec) : Except DuplicateMethod Unit :=
  match firstRepeated? (methods.map MethodSpec.name) with
  | some name => .error ⟨host.className, name⟩
  | none => .ok ()

/-- The methods that the class declares. -/
def synthesize (host : HostClass) (policy : Policy) : Except DuplicateMethod (List MethodSpec) := do
  let methods := host.declared policy
  host.ensureUnique methods
  return methods

/-- The methods that the class declares, with the class. -/
def signatures (policy : Policy) (host : HostClass) : Except DuplicateMethod ClassSignatures := do
  return ⟨host, ← host.synthesize policy⟩

end HostClass

/-- The methods of all host classes, in their order. The classes do not depend on one another, so
that they may be worked out side by side. -/
def synthesizeAll (policy : Policy) (parallel : Bool) :
    Except DuplicateMethod (List ClassSignatures) :=
  if parallel then
    (HostClass.all.map fun host => Task.spawn fun _ => HostClass.signatures policy host).mapM
      Task.get
  else HostClass.all.mapM (HostClass.signatures policy)

end RecordTyping

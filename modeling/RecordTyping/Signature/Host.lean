/-!
# Host classes

The classes for which signatures are declared. The base record class has class-level methods that
return the class they are called on; the relation classes have instance-level methods over
a type member, and two of them inherit from the generic relation.
-/

namespace RecordTyping

/-- Whether a method belongs to a class or to its instances. -/
inductive MethodLevel where
  | classLevel
  | instanceLevel
deriving DecidableEq, Repr

/-- Whether a method belongs to a class. -/
def MethodLevel.isClass : MethodLevel → Bool
  | .classLevel => true
  | .instanceLevel => false

/-- The name of a level in data. -/
def MethodLevel.name : MethodLevel → String
  | .classLevel => "class_level"
  | .instanceLevel => "instance_level"

/-- The type of the records that a host class is about. -/
inductive ElementType where
  /-- The class that a class-level method is called on. -/
  | attachedClass
  /-- The type member that each relation fixes. -/
  | typeMember
deriving DecidableEq, Repr

/-- The name of an element type in data. -/
def ElementType.name : ElementType → String
  | .attachedClass => "attached_class_of_self"
  | .typeMember => "element_type_member"

/-- A host class. -/
inductive HostClass where
  | baseRecord
  | relation
  | associationRelation
  | collectionProxy
deriving DecidableEq, Repr

namespace HostClass

/-- The host classes in the order in which they are declared. -/
def all : List HostClass := [.baseRecord, .relation, .associationRelation, .collectionProxy]

/-- The qualified name of the class. -/
def className : HostClass → String
  | .baseRecord => "ActiveRecord::Base"
  | .relation => "ActiveRecord::Relation"
  | .associationRelation => "ActiveRecord::AssociationRelation"
  | .collectionProxy => "ActiveRecord::Associations::CollectionProxy"

/-- The name of the class in data. -/
def name : HostClass → String
  | .baseRecord => "base_record_type"
  | .relation => "generic_relation"
  | .associationRelation => "association_relation"
  | .collectionProxy => "collection_proxy"

/-- The host class that a class inherits from. -/
def superclass? : HostClass → Option HostClass
  | .baseRecord => none
  | .relation => none
  | .associationRelation => some .relation
  | .collectionProxy => some .relation

/-- The level of the methods that are declared. -/
def level : HostClass → MethodLevel
  | .baseRecord => .classLevel
  | _ => .instanceLevel

/-- The element type that the methods are about. -/
def element : HostClass → ElementType
  | .baseRecord => .attachedClass
  | _ => .typeMember

/-- Whether the class is a relation. -/
def isRelation : HostClass → Bool
  | .baseRecord => false
  | _ => true

end HostClass

end RecordTyping

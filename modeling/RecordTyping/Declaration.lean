import RecordTyping.Signature.Synthesis

/-!
# Declaration files

Signatures are written in files, one for the base record class and one for the relation
classes. A file has comments at its top and then a declaration for each class.
-/

namespace RecordTyping

/-- The classes that share a file. -/
inductive DeclarationGroup where
  | base
  | relation
deriving DecidableEq, Repr

namespace DeclarationGroup

/-- The groups in the order in which they are written. -/
def all : List DeclarationGroup := [.base, .relation]

/-- The name of the group in data. -/
def name : DeclarationGroup → String
  | .base => "base"
  | .relation => "relation"

/-- The classes of the group in the order in which they are declared. -/
def hosts : DeclarationGroup → List HostClass
  | .base => [.baseRecord]
  | .relation => [.relation, .associationRelation, .collectionProxy]

/-- The name of the group's file without its extension. -/
def fileStem : DeclarationGroup → String
  | .base => "active_record_base"
  | .relation => "active_record_relation"

end DeclarationGroup

/-- The declaration of a type member with a fixed type. -/
structure TypeMember where
  name : String
  fixed : TypeExpr
deriving Repr, BEq

/-- The declaration of a class. -/
structure ClassDecl where
  name : String
  superclass : Option String
  elementMember : Option TypeMember
  methods : List MethodSpec
deriving Repr, BEq

/-- The declaration of a host class. Relations declare their element type. -/
def ClassSignatures.declaration (s : ClassSignatures) : ClassDecl where
  name := s.host.className
  superclass := s.host.superclass?.map HostClass.className
  elementMember := if s.host.isRelation then some ⟨RecordTyping.elementMember, .untyped⟩ else none
  methods := s.methods

/-- A file of declarations. -/
structure DeclarationFile where
  group : DeclarationGroup
  comments : List String
  classes : List ClassDecl
deriving Repr, BEq

namespace DeclarationGroup

/-- The file of the group, its signatures worked out from the policy. -/
def declarations (group : DeclarationGroup) (policy : Policy) (comments : List String) :
    Except DuplicateMethod DeclarationFile := do
  let signatures ← group.hosts.mapM (HostClass.signatures policy)
  return ⟨group, comments, signatures.map ClassSignatures.declaration⟩

end DeclarationGroup

/-- Adds a class to the first file whose group holds it. -/
def addClass (s : ClassSignatures) : List DeclarationFile → List DeclarationFile
  | [] => []
  | file :: rest =>
    if file.group.hosts.contains s.host then
      { file with classes := file.classes ++ [s.declaration] } :: rest
    else file :: addClass s rest

/-- The files of some groups with the signatures that belong to them. A class goes into the first
listed file of its group, or nowhere if its group is not listed. -/
def groupSignatures (signatures : List ClassSignatures) (groups : List DeclarationGroup)
    (comments : List String) : List DeclarationFile :=
  signatures.foldl (fun files s => addClass s files)
    (groups.map fun group => ⟨group, comments, []⟩)

end RecordTyping

import RecordTyping.Declaration
import RecordTyping.Json.Writer

/-!
# Structural form

The JSON form of declarations. Members that say nothing are left out: the category of a method that
has none, a default or a superclass that is not given, an empty list of type parameters.
-/

namespace RecordTyping

open Json (Value)

/-- A member that is left out if it has no value. -/
def optionalMember {α : Type} (key : String) (toJson : α → Value) (value : Option α) :
    List (String × Value) :=
  match value with
  | some v => [(key, toJson v)]
  | none => []

/-- The JSON form of a parameter. -/
def Param.toJson (p : Param) : Value :=
  .object ([("name", .string p.name), ("kind", .string p.kind.name), ("type", p.type.toJson)] ++
    optionalMember "default" .string p.default)

/-- The JSON form of a method. -/
def MethodSpec.toJson (m : MethodSpec) : Value :=
  .object ([("name", .string m.name)] ++
    optionalMember "category" (fun c => .string c.name) m.category ++
    [("scope", .string m.level.name), ("params", .array (m.params.map Param.toJson)),
      ("returns", m.returns.toJson), ("nullable", .bool m.nullable)] ++
    (if m.typeParameters.isEmpty then []
      else [("type_parameters", .array (m.typeParameters.map .string))]) ++
    [("overrides", .bool m.overrides), ("implementation", .bool m.implementation)])

/-- The JSON form of a type member. -/
def TypeMember.toJson (t : TypeMember) : Value :=
  .object [("name", .string t.name), ("fixed", t.fixed.toJson)]

/-- The JSON form of a class. -/
def ClassDecl.toJson (c : ClassDecl) : Value :=
  .object ([("name", .string c.name)] ++
    optionalMember "superclass" .string c.superclass ++
    optionalMember "element_member" TypeMember.toJson c.elementMember ++
    [("methods", .array (c.methods.map MethodSpec.toJson))])

/-- The JSON form of a file. -/
def DeclarationFile.toJson (f : DeclarationFile) : Value :=
  .object [("group", .string f.group.name), ("comments", .array (f.comments.map .string)),
    ("classes", .array (f.classes.map ClassDecl.toJson))]

/-- The text of the file in its structural form. -/
def DeclarationFile.structural (f : DeclarationFile) : String := f.toJson.pretty ++ "\n"

end RecordTyping

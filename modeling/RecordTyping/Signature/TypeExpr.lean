import RecordTyping.Json.Value
import RecordTyping.Signature.Host

/-!
# Type expressions

The types of parameters and results, how they are written in a signature, and their JSON form.
-/

namespace RecordTyping

/-- A type in a signature. -/
inductive TypeExpr where
  | untyped
  | boolean
  | integer
  | element (e : ElementType)
  | nilable (inner : TypeExpr)
  | array (inner : TypeExpr)
  | enumerator (inner : TypeExpr)
  /-- A callback with named arguments; one that returns no type returns nothing. -/
  | proc (params : List (String × TypeExpr)) (returns : Option TypeExpr)
  | typeParameter (name : String)
deriving Repr, BEq

/-- The name of the type member that every relation class declares. -/
def elementMember : String := "Elem"

namespace TypeExpr

/-- A callback of one argument that returns nothing. -/
def callback (arg : String) (type : TypeExpr) : TypeExpr := .proc [(arg, type)] none

/-- Whether nil belongs to the type by its outermost form. -/
def isNilable : TypeExpr → Bool
  | .nilable _ => true
  | _ => false

end TypeExpr

/-- How an element type is written. -/
def ElementType.text : ElementType → String
  | .attachedClass => "T.attached_class"
  | .typeMember => elementMember

mutual

/-- How a type is written in a signature. -/
def TypeExpr.text : TypeExpr → String
  | .untyped => "T.untyped"
  | .boolean => "T::Boolean"
  | .integer => "Integer"
  | .element e => e.text
  | .nilable inner => "T.nilable(" ++ inner.text ++ ")"
  | .array inner => "T::Array[" ++ inner.text ++ "]"
  | .enumerator inner => "T::Enumerator[" ++ inner.text ++ "]"
  | .proc [] returns => "T.proc" ++ returnText returns
  | .proc (arg :: rest) returns =>
    "T.proc.params(" ++ argumentsText (arg :: rest) ++ ")" ++ returnText returns
  | .typeParameter name => "T.type_parameter(:" ++ name ++ ")"

/-- How the arguments of a callback are written. -/
def argumentsText : List (String × TypeExpr) → String
  | [] => ""
  | [(name, type)] => name ++ ": " ++ type.text
  | (name, type) :: rest => name ++ ": " ++ type.text ++ ", " ++ argumentsText rest

/-- How the result of a callback is written. -/
def returnText : Option TypeExpr → String
  | none => ".void"
  | some type => ".returns(" ++ type.text ++ ")"

end

mutual

/-- The JSON form of a type: a name, or an object of one member. -/
def TypeExpr.toJson : TypeExpr → Json.Value
  | .untyped => .string "untyped"
  | .boolean => .string "boolean"
  | .integer => .string "integer"
  | .element e => .object [("element", .string e.name)]
  | .nilable inner => .object [("nilable", inner.toJson)]
  | .array inner => .object [("array", inner.toJson)]
  | .enumerator inner => .object [("enumerator", inner.toJson)]
  | .proc params returns =>
    .object [("proc", .object [("params", .array (argumentsJson params)),
      ("returns", returnJson returns)])]
  | .typeParameter name => .object [("type_parameter", .string name)]

/-- The JSON form of the arguments of a callback: pairs of a name and a type. -/
def argumentsJson : List (String × TypeExpr) → List Json.Value
  | [] => []
  | (name, type) :: rest => .array [.string name, type.toJson] :: argumentsJson rest

/-- The JSON form of the result of a callback. -/
def returnJson : Option TypeExpr → Json.Value
  | none => .null
  | some type => type.toJson

end

end RecordTyping

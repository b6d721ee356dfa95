import RecordTyping.Declaration

/-!
# Interface files

The text of a declaration file as an interface file of the type checker: a line that asks
for the strictest checks, the comments, and each class with two lines for each of its methods,
the signature and an empty definition.
-/

namespace RecordTyping

/-- A comment line. -/
def commentLine (comment : String) : String := "# " ++ comment ++ "\n"

/-- How a parameter stands in a signature. -/
def Param.signature (p : Param) : String := p.name ++ ": " ++ p.type.text

/-- How a parameter stands in a definition. The default of a parameter that takes one is nil
unless it is given, and that of any other parameter is not written. -/
def Param.definition (p : Param) : String :=
  let default := p.default.getD "nil"
  match p.kind with
  | .positional => p.name
  | .optional => p.name ++ " = " ++ default
  | .splat => "*" ++ p.name
  | .keyword => p.name ++ ": " ++ default
  | .block => "&" ++ p.name

namespace MethodSpec

/-- The parts of a signature: the marks, the type parameters and the parameters, if there are
any, and the result. -/
def signatureParts (m : MethodSpec) : List String :=
  (if m.implementation then ["implementation"] else []) ++
  (if m.overrides then ["override"] else []) ++
  (if m.typeParameters.isEmpty then []
    else ["type_parameters(" ++ ", ".intercalate (m.typeParameters.map (":" ++ ·)) ++ ")"]) ++
  (if m.params.isEmpty then []
    else ["params(" ++ ", ".intercalate (m.params.map Param.signature) ++ ")"]) ++
  ["returns(" ++ m.returns.text ++ ")"]

/-- The line of a method's signature. -/
def signature (m : MethodSpec) : String :=
  "sig \x7b " ++ ".".intercalate m.signatureParts ++ " \x7d"

/-- The line of a method's definition. -/
def definition (m : MethodSpec) : String :=
  let receiver := if m.level.isClass then "self." else ""
  let params := if m.params.isEmpty then ""
    else "(" ++ ", ".intercalate (m.params.map Param.definition) ++ ")"
  "def " ++ receiver ++ m.name ++ params ++ "; end"

/-- The lines of a method. -/
def block (m : MethodSpec) : String := "  " ++ m.signature ++ "\n  " ++ m.definition ++ "\n"

end MethodSpec

namespace ClassDecl

/-- The first line of a class. -/
def heading (c : ClassDecl) : String :=
  match c.superclass with
  | some parent => "class " ++ c.name ++ " < " ++ parent ++ "\n"
  | none => "class " ++ c.name ++ "\n"

/-- The blocks of a class: its element type and its methods. -/
def blocks (c : ClassDecl) : List String :=
  (match c.elementMember with
    | some member =>
      ["  " ++ member.name ++ " = type_member(fixed: " ++ member.fixed.text ++ ")\n"]
    | none => []) ++
  c.methods.map MethodSpec.block

/-- The text of a class, with an empty line between its blocks. -/
def rbi (c : ClassDecl) : String := c.heading ++ "\n".intercalate c.blocks ++ "end\n"

end ClassDecl

namespace DeclarationFile

/-- The text of the classes, with an empty line before each. -/
def rbiClasses (f : DeclarationFile) : String :=
  String.join (f.classes.map fun c => "\n" ++ c.rbi)

/-- The text of the file as an interface file. -/
def rbi (f : DeclarationFile) : String :=
  "# typed: strong\n" ++ String.join (f.comments.map commentLine) ++ f.rbiClasses

end DeclarationFile

end RecordTyping

import RecordTyping.Declaration.Rbi
import RecordTyping.Declaration.Structural
import RecordTyping.Proofs.JsonForms
import RecordTyping.Proofs.TypeText

/-!
# Files by their structural form

The structural form of a file tells everything about it: different declarations have different JSON
forms, none of which has a number in it, and different values without numbers have different texts.
A member that is left out is told from one that is there by the key of the member after it.
-/

namespace RecordTyping

open Json (Value)

/-- A list is told by what each of its values becomes, where that tells the value. -/
theorem map_cancel {α β : Type} {f : α → β} {as bs : List α}
    (each : ∀ a ∈ as, ∀ b, f a = f b → a = b) (same : as.map f = bs.map f) : as = bs := by
  induction as generalizing bs with
  | nil => exact (List.map_eq_nil_iff.1 same.symm).symm
  | cons a as ih =>
    cases bs with
    | nil => cases same
    | cons b bs =>
      obtain ⟨first, others⟩ := List.cons.inj same
      rw [each a List.mem_cons_self b first,
        ih (fun c member => each c (List.mem_cons_of_mem _ member)) others]

/-- An array of values without numbers. -/
theorem array_numberless {α : Type} {toJson : α → Value} (each : ∀ a, (toJson a).Numberless)
    (as : List α) : (Value.array (as.map toJson)).Numberless :=
  .array fun v member => by
    obtain ⟨a, -, rfl⟩ := List.mem_map.1 member
    exact each a

theorem ElementType.name_injective {e e' : ElementType} (same : e.name = e'.name) : e = e' := by
  revert same
  cases e <;> cases e' <;> decide

theorem ParamKind.name_injective {k k' : ParamKind} (same : k.name = k'.name) : k = k' := by
  revert same
  cases k <;> cases k' <;> decide

theorem Category.name_injective {c c' : Category} (same : c.name = c'.name) : c = c' := by
  revert same
  cases c <;> cases c' <;> decide

theorem MethodLevel.name_injective {l l' : MethodLevel} (same : l.name = l'.name) : l = l' := by
  revert same
  cases l <;> cases l' <;> decide

theorem DeclarationGroup.name_injective {g g' : DeclarationGroup} (same : g.name = g'.name) :
    g = g' := by
  revert same
  cases g <;> cases g' <;> decide

/-- The arguments of a callback, each as a pair. -/
theorem argumentsJson_eq (params : List (String × TypeExpr)) :
    argumentsJson params = params.map fun arg => .array [.string arg.1, arg.2.toJson] := by
  induction params with
  | nil => rfl
  | cons arg params ih => rw [argumentsJson, ih]; rfl

namespace TypeExpr

/-- No number is in the JSON form of a type. -/
theorem toJson_numberless (t : TypeExpr) : t.toJson.Numberless := by
  have single (key : String) {v : Value} (inside : v.Numberless) :
      (Value.object [(key, v)]).Numberless := .object (by simpa using inside)
  induction t using nested with
  | untyped => exact .string _
  | boolean => exact .string _
  | integer => exact .string _
  | element e => exact single _ (.string _)
  | nilable inner ih => exact single _ ih
  | array inner ih => exact single _ ih
  | enumerator inner ih => exact single _ ih
  | proc params returns arguments result =>
    have args : (Value.array (argumentsJson params)).Numberless := by
      rw [argumentsJson_eq]
      refine .array fun v member => ?_
      obtain ⟨arg, inside, rfl⟩ := List.mem_map.1 member
      exact .array (by simpa using ⟨.string arg.1, arguments arg inside⟩)
    have returned : (returnJson returns).Numberless := by
      cases returns with
      | none => exact .null
      | some type => exact result type rfl
    exact single _ (.object (by simpa using ⟨args, returned⟩))
  | typeParameter name => exact single _ (.string _)

/-- The JSON form of a type is never null. -/
theorem toJson_ne_null (t : TypeExpr) : t.toJson ≠ .null := by
  cases t <;> simp [toJson]

/-- Different types have different JSON forms. -/
theorem toJson_injective {s t : TypeExpr} (same : s.toJson = t.toJson) : s = t := by
  induction s using nested generalizing t with
  | untyped => cases t <;> simp [toJson] at same ⊢
  | boolean => cases t <;> simp [toJson] at same ⊢
  | integer => cases t <;> simp [toJson] at same ⊢
  | element e =>
    cases t <;> simp [toJson] at same
    rw [ElementType.name_injective same]
  | nilable inner ih =>
    cases t <;> simp [toJson] at same
    rw [ih same]
  | array inner ih =>
    cases t <;> simp [toJson] at same
    rw [ih same]
  | enumerator inner ih =>
    cases t <;> simp [toJson] at same
    rw [ih same]
  | proc params returns arguments result =>
    cases t <;> simp [toJson] at same
    case proc params' returns' =>
    obtain ⟨args, returned⟩ := same
    rw [argumentsJson_eq, argumentsJson_eq] at args
    have params_eq : params = params' := by
      refine map_cancel (fun arg member arg' alike => ?_) args
      simp only [Value.array.injEq, List.cons.injEq, Value.string.injEq, and_true] at alike
      exact Prod.ext alike.1 (arguments arg member alike.2)
    have returns_eq : returns = returns' := by
      cases returns with
      | none =>
        cases returns' with
        | none => rfl
        | some type' => exact absurd returned.symm type'.toJson_ne_null
      | some type =>
        cases returns' with
        | none => exact absurd returned type.toJson_ne_null
        | some type' => rw [result type rfl returned]
    rw [params_eq, returns_eq]
  | typeParameter name =>
    cases t <;> simp [toJson] at same
    rw [same]

end TypeExpr

section Members

variable {α : Type} {key : String} {toJson : α → Value} {value value' : Option α}
  {members members' : List (String × Value)}

/-- A member that may be left out is told where the next member has another key. -/
theorem optionalMember_cancel (injective : ∀ a b, toJson a = toJson b → a = b)
    (other : ∀ m ∈ members.head?, m.1 ≠ key) (other' : ∀ m ∈ members'.head?, m.1 ≠ key)
    (same : optionalMember key toJson value ++ members =
      optionalMember key toJson value' ++ members') : value = value' ∧ members = members' := by
  cases value with
  | none =>
    cases value' with
    | none => exact ⟨rfl, same⟩
    | some b =>
      have front : members = (key, toJson b) :: members' := same
      exact absurd rfl (other (key, toJson b) (by rw [front]; rfl))
  | some a =>
    cases value' with
    | none =>
      have front : (key, toJson a) :: members = members' := same
      exact absurd rfl (other' (key, toJson a) (by rw [← front]; rfl))
    | some b =>
      obtain ⟨first, rest⟩ := List.cons.inj same
      exact ⟨by rw [injective a b (Prod.mk.inj first).2], rest⟩

/-- No number is in a member that may be left out if none is in its value. -/
theorem optionalMember_numberless (each : ∀ a, (toJson a).Numberless) :
    ∀ m ∈ optionalMember key toJson value, m.2.Numberless := by
  intro m member
  cases value with
  | none => cases member
  | some a =>
    obtain rfl := List.mem_singleton.1 member
    exact each a

end Members

/-- No number is in the JSON form of a parameter. -/
theorem Param.toJson_numberless (p : Param) : p.toJson.Numberless := by
  refine .object fun m member => ?_
  rcases List.mem_append.1 member with member | member
  · simp only [List.mem_cons, List.not_mem_nil, or_false] at member
    rcases member with rfl | rfl | rfl
    · exact .string _
    · exact .string _
    · exact p.type.toJson_numberless
  · exact optionalMember_numberless Value.Numberless.string m member

/-- Different parameters have different JSON forms. -/
theorem Param.toJson_injective {p p' : Param} (same : p.toJson = p'.toJson) : p = p' := by
  obtain ⟨name, kind, type, default⟩ := p
  obtain ⟨name', kind', type', default'⟩ := p'
  simp only [toJson, Value.object.injEq, List.cons_append, List.nil_append, List.cons.injEq,
    Prod.mk.injEq, Value.string.injEq, true_and] at same
  obtain ⟨rfl, kind_eq, type_eq, rest⟩ := same
  obtain rfl := ParamKind.name_injective kind_eq
  obtain rfl := TypeExpr.toJson_injective type_eq
  rw [← List.append_nil (optionalMember _ _ default),
    ← List.append_nil (optionalMember _ _ default')] at rest
  obtain ⟨rfl, -⟩ := optionalMember_cancel (fun _ _ => Value.string.inj) (by simp) (by simp) rest
  rfl

namespace MethodSpec

/-- The type parameters of a method, if it has any. -/
def typeParameters? (m : MethodSpec) : Option (List String) :=
  if m.typeParameters.isEmpty then none else some m.typeParameters

theorem typeParameters?_getD (m : MethodSpec) : m.typeParameters?.getD [] = m.typeParameters := by
  rw [typeParameters?]
  split
  case isTrue empty => exact (List.isEmpty_iff.1 empty).symm
  case isFalse => rfl

/-- The members of a method in the order in which they stand. -/
theorem toJson_members (m : MethodSpec) : m.toJson =
    .object (("name", .string m.name) ::
      (optionalMember "category" (fun c => .string c.name) m.category ++
        (("scope", .string m.level.name) :: ("params", .array (m.params.map Param.toJson)) ::
          ("returns", m.returns.toJson) :: ("nullable", .bool m.nullable) ::
          (optionalMember "type_parameters" (fun names => .array (names.map .string))
            m.typeParameters? ++
              [("overrides", .bool m.overrides),
                ("implementation", .bool m.implementation)])))) := by
  have listed : (if m.typeParameters.isEmpty then []
      else [("type_parameters", Value.array (m.typeParameters.map .string))]) =
        optionalMember "type_parameters" (fun names => .array (names.map .string))
          m.typeParameters? := by
    rw [typeParameters?]
    split <;> rfl
  rw [toJson, listed]
  simp only [List.append_assoc, List.cons_append, List.nil_append]

/-- No number is in the JSON form of a method. -/
theorem toJson_numberless (m : MethodSpec) : m.toJson.Numberless := by
  rw [toJson_members]
  refine .object fun n member => ?_
  simp only [List.mem_cons, List.mem_append, List.not_mem_nil, or_false] at member
  rcases member with rfl | member | rfl | rfl | rfl | rfl | member | rfl | rfl
  · exact .string _
  · exact optionalMember_numberless (fun c : Category => .string c.name) n member
  · exact .string _
  · exact array_numberless Param.toJson_numberless m.params
  · exact m.returns.toJson_numberless
  · exact .bool _
  · exact optionalMember_numberless (array_numberless .string) n member
  · exact .bool _
  · exact .bool _

/-- Different methods have different JSON forms. -/
theorem toJson_injective {m m' : MethodSpec} (same : m.toJson = m'.toJson) : m = m' := by
  rw [toJson_members, toJson_members] at same
  obtain ⟨name, category, level, params, returns, nullable, typeParameters, overrides,
    implementation⟩ := m
  obtain ⟨name', category', level', params', returns', nullable', typeParameters', overrides',
    implementation'⟩ := m'
  simp only [Value.object.injEq, List.cons.injEq, Prod.mk.injEq, Value.string.injEq,
    true_and] at same
  obtain ⟨rfl, same⟩ := same
  obtain ⟨rfl, same⟩ := optionalMember_cancel
    (fun _ _ alike => Category.name_injective (Value.string.inj alike)) (by simp) (by simp) same
  simp only [List.cons.injEq, Prod.mk.injEq, Value.string.injEq, Value.array.injEq,
    Value.bool.injEq, true_and] at same
  obtain ⟨level_eq, params_eq, returns_eq, rfl, same⟩ := same
  obtain rfl := MethodLevel.name_injective level_eq
  obtain rfl := map_cancel (fun _ _ _ => Param.toJson_injective) params_eq
  obtain rfl := TypeExpr.toJson_injective returns_eq
  obtain ⟨names_eq, same⟩ := optionalMember_cancel
    (fun _ _ alike => map_cancel (fun _ _ _ => Value.string.inj) (Value.array.inj alike))
    (by simp) (by simp) same
  simp only [List.cons.injEq, Prod.mk.injEq, Value.bool.injEq, true_and, and_true] at same
  obtain ⟨rfl, rfl⟩ := same
  have names := congrArg (fun names => names.getD []) names_eq
  simp only [typeParameters?_getD] at names
  rw [names]

end MethodSpec

/-- No number is in the JSON form of a type member. -/
theorem TypeMember.toJson_numberless (t : TypeMember) : t.toJson.Numberless := by
  refine .object fun m member => ?_
  simp only [List.mem_cons, List.not_mem_nil, or_false] at member
  rcases member with rfl | rfl
  · exact .string _
  · exact t.fixed.toJson_numberless

/-- Different type members have different JSON forms. -/
theorem TypeMember.toJson_injective {t t' : TypeMember} (same : t.toJson = t'.toJson) : t = t' := by
  obtain ⟨name, fixed⟩ := t
  obtain ⟨name', fixed'⟩ := t'
  simp only [toJson, Value.object.injEq, List.cons.injEq, Prod.mk.injEq, Value.string.injEq,
    true_and, and_true] at same
  rw [same.1, TypeExpr.toJson_injective same.2]

namespace ClassDecl

/-- The members of a class in the order in which they stand. -/
theorem toJson_members (c : ClassDecl) : c.toJson =
    .object (("name", .string c.name) :: (optionalMember "superclass" .string c.superclass ++
      (optionalMember "element_member" TypeMember.toJson c.elementMember ++
        [("methods", .array (c.methods.map MethodSpec.toJson))]))) := by
  simp only [toJson, List.append_assoc, List.cons_append, List.nil_append]

/-- No number is in the JSON form of a class. -/
theorem toJson_numberless (c : ClassDecl) : c.toJson.Numberless := by
  rw [toJson_members]
  refine .object fun m member => ?_
  simp only [List.mem_cons, List.mem_append, List.not_mem_nil, or_false] at member
  rcases member with rfl | member | member | rfl
  · exact .string _
  · exact optionalMember_numberless .string m member
  · exact optionalMember_numberless TypeMember.toJson_numberless m member
  · exact array_numberless MethodSpec.toJson_numberless c.methods

/-- Different classes have different JSON forms. -/
theorem toJson_injective {c c' : ClassDecl} (same : c.toJson = c'.toJson) : c = c' := by
  rw [toJson_members, toJson_members] at same
  obtain ⟨name, superclass, elementMember, methods⟩ := c
  obtain ⟨name', superclass', elementMember', methods'⟩ := c'
  simp only [Value.object.injEq, List.cons.injEq, Prod.mk.injEq, Value.string.injEq,
    true_and] at same
  obtain ⟨rfl, same⟩ := same
  have other (key : String) (value : Option TypeMember) (methods : List MethodSpec)
      (apart : key ≠ "element_member" ∧ key ≠ "methods") :
      ∀ m ∈ (optionalMember "element_member" TypeMember.toJson value ++
        [("methods", Value.array (methods.map MethodSpec.toJson))]).head?, m.1 ≠ key := by
    cases value <;> simp [optionalMember, apart.1.symm, apart.2.symm]
  obtain ⟨rfl, after⟩ := optionalMember_cancel (fun _ _ => Value.string.inj)
    (other _ _ _ (by decide)) (other _ _ _ (by decide)) same
  obtain ⟨rfl, last⟩ := optionalMember_cancel (fun _ _ => TypeMember.toJson_injective) (by simp)
    (by simp) after
  simp only [List.cons.injEq, Prod.mk.injEq, Value.array.injEq, true_and, and_true] at last
  rw [map_cancel (fun _ _ _ => MethodSpec.toJson_injective) last]

end ClassDecl

namespace DeclarationFile

/-- No number is in the JSON form of a file. -/
theorem toJson_numberless (f : DeclarationFile) : f.toJson.Numberless := by
  refine .object fun m member => ?_
  simp only [List.mem_cons, List.not_mem_nil, or_false] at member
  rcases member with rfl | rfl | rfl
  · exact .string _
  · exact array_numberless .string f.comments
  · exact array_numberless ClassDecl.toJson_numberless f.classes

/-- Different files have different JSON forms. -/
theorem toJson_injective {f g : DeclarationFile} (same : f.toJson = g.toJson) : f = g := by
  obtain ⟨group, comments, classes⟩ := f
  obtain ⟨group', comments', classes'⟩ := g
  simp only [toJson, Value.object.injEq, List.cons.injEq, Prod.mk.injEq, Value.string.injEq,
    Value.array.injEq, true_and, and_true] at same
  obtain ⟨group_eq, comments_eq, classes_eq⟩ := same
  rw [DeclarationGroup.name_injective group_eq,
    map_cancel (fun _ _ _ => Value.string.inj) comments_eq,
    map_cancel (fun _ _ _ => ClassDecl.toJson_injective) classes_eq]

/-- Different files have different structural texts. -/
theorem structural_injective : Function.Injective structural := by
  intro f g same
  have texts : f.toJson.pretty = g.toJson.pretty := by
    rw [structural, structural, ← String.toList_inj, String.toList_append, String.toList_append,
      List.append_left_inj, String.toList_inj] at same
    exact same
  exact toJson_injective (Json.Value.pretty_injective f.toJson_numberless g.toJson_numberless texts)

/-- The structural form loses nothing: files have the same structural text only if they are the
same, so that their interface text can be had from it. -/
theorem structural_lossless :
    (∀ f g : DeclarationFile, f.structural = g.structural ↔ f = g) ∧
      ∃ interface : String → String, ∀ f : DeclarationFile, interface f.structural = f.rbi := by
  refine ⟨fun f g => structural_injective.eq_iff, ?_⟩
  have inhabited : Nonempty DeclarationFile := ⟨⟨.base, [], []⟩⟩
  obtain ⟨file, restores⟩ := structural_injective.hasLeftInverse
  exact ⟨fun text => (file text).rbi, fun f => congrArg rbi (restores f)⟩

end DeclarationFile

end RecordTyping

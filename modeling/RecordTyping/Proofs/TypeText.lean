import RecordTyping.Proofs.Separation
import RecordTyping.Signature.TypeExpr

/-!
# Types by their text

The text of a type shows where it ends: no text of a type goes on to be the text of another. Names
inside a type end at a colon or a bracket, the arguments of a callback at its bracket, and its
result at a bracket or at the word that says that there is none.
-/

namespace RecordTyping

namespace TypeExpr

/-- Induction over types, in which a callback has the hypothesis for the type of each of its
arguments and for its result. -/
@[elab_as_elim]
theorem nested {motive : TypeExpr → Prop} (untyped : motive .untyped) (boolean : motive .boolean)
    (integer : motive .integer) (element : ∀ e, motive (.element e))
    (nilable : ∀ inner, motive inner → motive (.nilable inner))
    (array : ∀ inner, motive inner → motive (.array inner))
    (enumerator : ∀ inner, motive inner → motive (.enumerator inner))
    (proc : ∀ params returns, (∀ arg ∈ params, motive arg.2) → (∀ type ∈ returns, motive type) →
      motive (.proc params returns))
    (typeParameter : ∀ name, motive (.typeParameter name)) (t : TypeExpr) : motive t :=
  @TypeExpr.rec motive (fun params => ∀ arg ∈ params, motive arg.2)
    (fun returns => ∀ type ∈ returns, motive type) (fun arg => motive arg.2)
    untyped boolean integer element nilable array enumerator proc typeParameter
    (fun _ member => absurd member List.not_mem_nil)
    (fun _ _ first others => List.forall_mem_cons.2 ⟨first, others⟩)
    (fun _ member => absurd member (Option.not_mem_none _))
    (fun _ inside _ member => Option.mem_some.1 member ▸ inside)
    (fun _ _ inside => inside) t

/-- A type in which the names of arguments and of type parameters are words. -/
inductive Named : TypeExpr → Prop where
  | untyped : Named .untyped
  | boolean : Named .boolean
  | integer : Named .integer
  | element (e : ElementType) : Named (.element e)
  | nilable {inner : TypeExpr} (inside : Named inner) : Named (.nilable inner)
  | array {inner : TypeExpr} (inside : Named inner) : Named (.array inner)
  | enumerator {inner : TypeExpr} (inside : Named inner) : Named (.enumerator inner)
  | proc {params : List (String × TypeExpr)} {returns : Option TypeExpr}
    (words : ∀ arg ∈ params, Text.IsWord arg.1.toList) (arguments : ∀ arg ∈ params, Named arg.2)
    (result : ∀ type ∈ returns, Named type) : Named (.proc params returns)
  | typeParameter {name : String} (word : Text.IsWord name.toList) : Named (.typeParameter name)

end TypeExpr

/-- How one argument of a callback is written. -/
def argumentText (arg : String × TypeExpr) : List Char :=
  arg.1.toList ++ ':' :: ' ' :: arg.2.text.toList

/-- How the result of a callback is written after its point. -/
def resultText (returns : Option TypeExpr) : List Char :=
  (returns.elim "void" fun type => "returns(" ++ type.text ++ ")").toList

/-- The arguments of a callback have commas between them. -/
theorem argumentsText_eq (params : List (String × TypeExpr)) :
    (argumentsText params).toList = [',', ' '].intercalate (params.map argumentText) := by
  induction params with
  | nil => rfl
  | cons arg params ih =>
    obtain ⟨name, type⟩ := arg
    cases params with
    | nil =>
      have single : argumentsText [(name, type)] = name ++ ": " ++ type.text := rfl
      simp [single, argumentText]
    | cons next params =>
      have several : argumentsText ((name, type) :: next :: params) =
          name ++ ": " ++ type.text ++ ", " ++ argumentsText (next :: params) := rfl
      rw [several, String.toList_append, ih]
      simp [argumentText]

/-- The result of a callback begins otherwise than its arguments. -/
theorem head?_resultText (returns : Option TypeExpr) (x : List Char) :
    (resultText returns ++ x).head? ≠ some 'p' := by
  cases returns <;> simp [resultText]

/-- A point stands before the result of a callback. -/
theorem returnText_eq (returns : Option TypeExpr) :
    (returnText returns).toList = '.' :: resultText returns := by
  cases returns with
  | none =>
    have written : returnText none = ".void" := rfl
    simp [written, resultText]
  | some type =>
    have written : returnText (some type) = ".returns(" ++ type.text ++ ")" := rfl
    simp [written, resultText]

namespace TypeExpr

/-- The text of a type without parts. -/
@[simp]
theorem text_plain : untyped.text = "T.untyped" ∧ boolean.text = "T::Boolean" ∧
    integer.text = "Integer" ∧ (element .attachedClass).text = "T.attached_class" ∧
    (element .typeMember).text = "Elem" := ⟨rfl, rfl, rfl, rfl, rfl⟩

/-- The text of a type that may be nil. -/
@[simp]
theorem text_nilable (inner : TypeExpr) :
    (nilable inner).text.toList = "T.nilable(".toList ++ inner.text.toList ++ [')'] := by
  have written : (nilable inner).text = "T.nilable(" ++ inner.text ++ ")" := rfl
  simp [written]

/-- The text of an array type. -/
@[simp]
theorem text_array (inner : TypeExpr) :
    (array inner).text.toList = "T::Array[".toList ++ inner.text.toList ++ [']'] := by
  have written : (array inner).text = "T::Array[" ++ inner.text ++ "]" := rfl
  simp [written]

/-- The text of an enumerator type. -/
@[simp]
theorem text_enumerator (inner : TypeExpr) :
    (enumerator inner).text.toList = "T::Enumerator[".toList ++ inner.text.toList ++ [']'] := by
  have written : (enumerator inner).text = "T::Enumerator[" ++ inner.text ++ "]" := rfl
  simp [written]

/-- The text of a callback. -/
@[simp]
theorem text_proc (params : List (String × TypeExpr)) (returns : Option TypeExpr) :
    (proc params returns).text.toList = "T.proc.".toList ++
      (Text.listing "params(".toList ").".toList argumentText params ++ resultText returns) := by
  cases params with
  | nil =>
    have bare : (proc [] returns).text = "T.proc" ++ returnText returns := rfl
    simp [bare, returnText_eq, Text.listing]
  | cons arg params =>
    have full : (proc (arg :: params) returns).text =
        "T.proc.params(" ++ argumentsText (arg :: params) ++ ")" ++ returnText returns := rfl
    simp [full, argumentsText_eq, returnText_eq, Text.listing]

/-- The text of a type parameter. -/
@[simp]
theorem text_typeParameter (name : String) :
    (typeParameter name).text.toList = "T.type_parameter(:".toList ++ name.toList ++ [')'] := by
  have written : (typeParameter name).text = "T.type_parameter(:" ++ name ++ ")" := rfl
  simp [written]

end TypeExpr

section Parts

variable {params params' : List (String × TypeExpr)} {returns returns' : Option TypeExpr}
  {x y : List Char}

/-- Arguments are told apart when their types are. -/
theorem argumentText_toldApart {arg arg' : String × TypeExpr} (word : Text.IsWord arg.1.toList)
    (word' : Text.IsWord arg'.1.toList)
    (type : ∀ z w, arg.2.text.toList ++ z = arg'.2.text.toList ++ w → arg.2 = arg'.2 ∧ z = w) :
    Text.ToldApart Text.EndsItem argumentText id arg arg' := by
  intro z w _ _ same
  simp only [argumentText, List.append_assoc, List.cons_append] at same
  obtain ⟨name, rest⟩ :=
    Text.word_cancel word word' (Text.endsWord_cons rfl) (Text.endsWord_cons rfl) same
  obtain ⟨same_type, after⟩ := type z w (by simpa using rest)
  exact ⟨Prod.ext (String.toList_inj.1 name) same_type, after⟩

/-- No argument begins with the bracket that closes the arguments. -/
theorem argumentText_begins {arg : String × TypeExpr} (word : Text.IsWord arg.1.toList)
    (z : List Char) : (argumentText arg ++ z).head? ≠ some ')' := by
  intro closed
  obtain ⟨rest, split⟩ := List.head?_eq_some_iff.1 closed
  rw [argumentText, List.append_assoc] at split
  exact Text.word_ne_cons word rfl split

/-- Results are told apart when their types are. -/
theorem resultText_cancel
    (type : ∀ r ∈ returns, ∀ r' ∈ returns', ∀ z w,
      r.text.toList ++ z = r'.text.toList ++ w → r = r' ∧ z = w)
    (same : resultText returns ++ x = resultText returns' ++ y) : returns = returns' ∧ x = y := by
  cases returns with
  | none =>
    cases returns' with
    | none => exact ⟨rfl, List.append_cancel_left same⟩
    | some r' => simp [resultText] at same
  | some r =>
    cases returns' with
    | none => simp [resultText] at same
    | some r' =>
      have inside : r.text.toList ++ ')' :: x = r'.text.toList ++ ')' :: y := by
        simpa [resultText] using same
      obtain ⟨rfl, after⟩ := type r rfl r' rfl _ _ inside
      exact ⟨rfl, (List.cons.inj after).2⟩

end Parts

/-- The text of a type shows what type it is and where it ends. -/
theorem TypeExpr.text_cancel {s t : TypeExpr} (named : s.Named) (named' : t.Named)
    {x y : List Char} (same : s.text.toList ++ x = t.text.toList ++ y) : s = t ∧ x = y := by
  induction s using nested generalizing t x y with
  | untyped =>
    cases t with
    | untyped => exact ⟨rfl, List.append_cancel_left same⟩
    | element e => cases e <;> simp at same
    | _ => simp at same
  | boolean =>
    cases t with
    | boolean => exact ⟨rfl, List.append_cancel_left same⟩
    | element e => cases e <;> simp at same
    | _ => simp at same
  | integer =>
    cases t with
    | integer => exact ⟨rfl, List.append_cancel_left same⟩
    | element e => cases e <;> simp at same
    | _ => simp at same
  | element e =>
    cases t with
    | element e' => cases e <;> cases e' <;> simp_all
    | _ => cases e <;> simp at same
  | nilable inner ih =>
    cases t with
    | nilable inner' =>
      cases named with | nilable inside =>
      cases named' with | nilable inside' =>
      obtain ⟨rfl, after⟩ := ih inside inside' (by simpa using same)
      exact ⟨rfl, (List.cons.inj after).2⟩
    | element e => cases e <;> simp at same
    | _ => simp at same
  | array inner ih =>
    cases t with
    | array inner' =>
      cases named with | array inside =>
      cases named' with | array inside' =>
      obtain ⟨rfl, after⟩ := ih inside inside' (by simpa using same)
      exact ⟨rfl, (List.cons.inj after).2⟩
    | element e => cases e <;> simp at same
    | _ => simp at same
  | enumerator inner ih =>
    cases t with
    | enumerator inner' =>
      cases named with | enumerator inside =>
      cases named' with | enumerator inside' =>
      obtain ⟨rfl, after⟩ := ih inside inside' (by simpa using same)
      exact ⟨rfl, (List.cons.inj after).2⟩
    | element e => cases e <;> simp at same
    | _ => simp at same
  | proc params returns arguments result =>
    cases t with
    | proc params' returns' =>
      cases named with | proc words types returned =>
      cases named' with | proc words' types' returned' =>
      rw [text_proc, text_proc, List.append_assoc, List.append_assoc, List.append_assoc,
        List.append_assoc] at same
      obtain ⟨args, rest⟩ := Text.listing_cancel (by rfl) (by rfl)
        (fun arg member arg' member' =>
          argumentText_toldApart (words arg member) (words' arg' member') fun z w alike =>
            arguments arg member (types arg member) (types' arg' member') alike)
        (fun arg member => argumentText_begins (words arg member))
        (fun arg member => argumentText_begins (words' arg member))
        (head?_resultText _ _) (head?_resultText _ _) (List.append_cancel_left same)
      obtain ⟨rfl, after⟩ := resultText_cancel (fun r member r' member' z w alike =>
        result r member (returned r member) (returned' r' member') alike) rest
      rw [List.map_id, List.map_id] at args
      exact ⟨by rw [args], after⟩
    | element e => cases e <;> simp at same
    | _ => simp at same
  | typeParameter name =>
    cases t with
    | typeParameter name' =>
      cases named with | typeParameter word =>
      cases named' with | typeParameter word' =>
      obtain ⟨name_eq, after⟩ := Text.word_cancel word word' (Text.endsWord_cons rfl)
        (Text.endsWord_cons rfl) (show name.toList ++ ')' :: x = name'.toList ++ ')' :: y by
          simpa using same)
      exact ⟨by rw [String.toList_inj.1 name_eq], (List.cons.inj after).2⟩
    | element e => cases e <;> simp at same
    | _ => simp at same

/-- Types are told apart by their texts in front of whatever follows them: equal texts come of the
same type with the same text behind it. So no text of a type is the beginning of another one, and
no type has the text of another. -/
theorem TypeExpr.text_prefixFree {s t : TypeExpr} (named : s.Named) (named' : t.Named) :
    (∀ x y : String, s.text ++ x = t.text ++ y ↔ s = t ∧ x = y) ∧
    (s.text.toList <+: t.text.toList → s = t) := by
  constructor
  · intro x y
    constructor
    · intro same
      have chars : s.text.toList ++ x.toList = t.text.toList ++ y.toList := by
        rw [← String.toList_append, same, String.toList_append]
      obtain ⟨type, rest⟩ := text_cancel named named' chars
      exact ⟨type, String.toList_inj.1 rest⟩
    · rintro ⟨rfl, rfl⟩
      rfl
  · rintro ⟨rest, same⟩
    rw [← List.append_nil t.text.toList] at same
    exact (text_cancel named named' same).1

/-- Two callbacks whose texts agree up to their results are told apart, with whatever behind them,
and so are two types whose texts begin alike. -/
theorem TypeExpr.text_prefixFree_callbacks :
    let plain : TypeExpr := .proc [("e", .array .untyped), ("f", .proc [] none)] none
    let returning : TypeExpr :=
      .proc [("e", .array .untyped), ("f", .proc [] none)] (some (.typeParameter "U"))
    plain.Named ∧ returning.Named ∧ ∀ x y : String, plain.text ++ x ≠ returning.text ++ y ∧
      (nilable plain).text ++ x ≠ (typeParameter "U").text ++ y := by
  intro plain returning
  have word : Text.IsWord "U".toList := by decide
  have words : ∀ arg ∈ [("e", TypeExpr.array .untyped), ("f", .proc [] none)],
      Text.IsWord arg.1.toList := by decide
  have types : ∀ arg ∈ [("e", TypeExpr.array .untyped), ("f", .proc [] none)], arg.2.Named := by
    simp only [List.forall_mem_cons]
    exact ⟨.array .untyped, .proc nofun nofun nofun, nofun⟩
  have named : plain.Named := .proc words types nofun
  have named' : returning.Named :=
    .proc words types fun _ member => Option.mem_some.1 member ▸ .typeParameter word
  have apart : plain ≠ returning := by simp [plain, returning]
  refine ⟨named, named', fun x y => ⟨fun same => ?_, fun same => ?_⟩⟩
  · exact apart (((text_prefixFree named named').1 x y).1 same).1
  · cases (((text_prefixFree (.nilable named) (.typeParameter word)).1 x y).1 same).1

/-- With a bracket in a name the text of a type goes on to be that of another. -/
example : (TypeExpr.typeParameter "U").text ++ ")" = (TypeExpr.typeParameter "U)").text := rfl

end RecordTyping

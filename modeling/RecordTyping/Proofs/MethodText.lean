import RecordTyping.Declaration.Rbi
import RecordTyping.Proofs.TypeText

/-!
# Methods by their text

The two lines of a method tell everything about it that they show: the signature its marks, its type
parameters, the names and types of its parameters and its result, and the definition its level, its
name, and of its parameters the names, the kinds and the defaults. The parts of a signature that may
be left out begin with different letters, and the marks and separators around a name in a
definition tell how the parameter is passed.
-/

namespace RecordTyping

open Text (IsWord EndsWord EndsItem ToldApart Begins marking listing)

/-- A list with separators that ends with a value is the other values with a separator after each,
and then this one. -/
theorem Text.intercalate_concat (sep last : List Char) (others : List (List Char)) :
    sep.intercalate (others ++ [last]) = others.flatMap (· ++ sep) ++ last := by
  induction others with
  | nil => simp
  | cons first others ih =>
    have more : others ++ [last] ≠ [] := by simp
    rw [List.cons_append, List.intercalate_cons_of_ne_nil more, ih, List.flatMap_cons]
    simp only [List.append_assoc]

/-- A mark among the parts of a signature, with the point after it. -/
theorem Text.markingPart (present : Bool) (mark : String) :
    ((if present then [mark] else []).map String.toList).flatMap (· ++ ".".toList) =
      marking present (mark ++ ".").toList := by
  cases present <;> simp [marking]

/-- A list between brackets. -/
theorem Text.listing_toList {α : Type} (opening : String) (write : α → String) (a : α)
    (as : List α) (closing : List Char) :
    (opening ++ ", ".intercalate ((a :: as).map write) ++ ")").toList ++ closing =
      listing opening.toList (')' :: closing) (fun b => (write b).toList) (a :: as) := by
  have items : ((a :: as).map write).map String.toList =
      (a :: as).map (fun b => (write b).toList) := List.map_map
  rw [String.toList_append, String.toList_append, String.toList_intercalate, items]
  simp [listing]

/-- A list between brackets among the parts of a signature, with the point after it. -/
theorem Text.listingPart {α : Type} (opening : String) (write : α → String) (items : List α) :
    ((if items.isEmpty then []
        else [opening ++ ", ".intercalate (items.map write) ++ ")"]).map String.toList).flatMap
          (· ++ ".".toList) =
      listing opening.toList ").".toList (fun a => (write a).toList) items := by
  cases items with
  | nil => rfl
  | cons a items =>
    have part := Text.listing_toList opening write a items ['.']
    simpa using part

namespace MethodSpec

/-- The parts of a signature in the order in which they stand. -/
theorem signature_layout (m : MethodSpec) : m.signature.toList = "sig \x7b ".toList ++
    (marking m.implementation "implementation.".toList ++
    (marking m.overrides "override.".toList ++
    (listing "type_parameters(".toList ").".toList (fun t => (":" ++ t).toList) m.typeParameters ++
    (listing "params(".toList ").".toList (fun p => p.signature.toList) m.params ++
    ("returns(".toList ++ (m.returns.text.toList ++ ") \x7d".toList)))))) := by
  have whole : m.signature = "sig \x7b " ++ ".".intercalate m.signatureParts ++ " \x7d" := rfl
  have parts : m.signatureParts =
      (if m.implementation then ["implementation"] else []) ++
      (if m.overrides then ["override"] else []) ++
      (if m.typeParameters.isEmpty then []
        else ["type_parameters(" ++ ", ".intercalate (m.typeParameters.map (":" ++ ·)) ++ ")"]) ++
      (if m.params.isEmpty then []
        else ["params(" ++ ", ".intercalate (m.params.map Param.signature) ++ ")"]) ++
      ["returns(" ++ m.returns.text ++ ")"] := rfl
  rw [whole, String.toList_append, String.toList_append, String.toList_intercalate, parts,
    List.map_append, List.map_singleton, Text.intercalate_concat]
  simp only [List.map_append, List.flatMap_append]
  simp only [Text.markingPart, Text.listingPart]
  simp

/-- The line of a definition. -/
theorem definition_layout (m : MethodSpec) : m.definition.toList = "def ".toList ++
    ((if m.level.isClass then "self.".toList else []) ++ (m.name.toList ++
    (listing "(".toList ")".toList (fun p => p.definition.toList) m.params ++
      "; end".toList))) := by
  have whole : m.definition = "def " ++ (if m.level.isClass then "self." else "") ++ m.name ++
      (if m.params.isEmpty then ""
        else "(" ++ ", ".intercalate (m.params.map Param.definition) ++ ")") ++ "; end" := rfl
  have receiver : (if m.level.isClass then "self." else "").toList =
      if m.level.isClass then "self.".toList else [] := by split <;> rfl
  have params : (if m.params.isEmpty then ""
      else "(" ++ ", ".intercalate (m.params.map Param.definition) ++ ")").toList =
        listing "(".toList ")".toList (fun p => p.definition.toList) m.params := by
    cases m.params with
    | nil => rfl
    | cons p params =>
      have full := Text.listing_toList "(" Param.definition p params []
      simpa using full
  rw [whole]
  simp only [String.toList_append, receiver, params, List.append_assoc]

end MethodSpec

/-- A parameter whose name and default are words, and whose type is named by words. -/
structure Param.Named (p : Param) : Prop where
  name : IsWord p.name.toList
  type : p.type.Named
  default : ∀ value ∈ p.default, IsWord value.toList

/-- The name of a method: a word that may end with one mark more. -/
def IsMethodName (s : List Char) : Prop :=
  ∃ word mark, s = word ++ mark ∧ IsWord word ∧ mark ∈ [[], ['!'], ['?']]

/-- A method whose names are words. -/
structure MethodSpec.Named (m : MethodSpec) : Prop where
  name : IsMethodName m.name.toList
  params : ∀ p ∈ m.params, p.Named
  returns : m.returns.Named
  typeParameters : ∀ t ∈ m.typeParameters, IsWord t.toList

/-- The parameter as far as it is shown: a default is shown only where a parameter takes one, and
one that is not given is nil. -/
def Param.shown (p : Param) : Param :=
  { p with
    default :=
      if p.kind = .optional ∨ p.kind = .keyword then some (p.default.getD "nil") else none }

/-- What a definition writes before the name of a parameter. -/
def ParamKind.lead : ParamKind → List Char
  | .splat => ['*']
  | .block => ['&']
  | _ => []

/-- What a definition writes between the name of a parameter and its default. -/
def ParamKind.separator : ParamKind → List Char
  | .optional => [' ', '=', ' ']
  | .keyword => [':', ' ']
  | _ => []

/-- The marks around a name tell how the parameter is passed. -/
theorem ParamKind.eq_of_marks {k k' : ParamKind} (lead : k.lead = k'.lead)
    (separator : k.separator = k'.separator) : k = k' := by
  revert lead separator
  cases k <;> cases k' <;> decide

/-- A type parameter ends at a comma or at the bracket. -/
theorem typeParameter_toldApart {t t' : String} (word : IsWord t.toList)
    (word' : IsWord t'.toList) : ToldApart EndsItem (fun t => (":" ++ t).toList) id t t' := by
  intro x y ends ends' same
  have names : t.toList ++ x = t'.toList ++ y := by simpa using same
  obtain ⟨name, after⟩ :=
    Text.word_cancel word word' (Text.endsWord_of_endsItem ends) (Text.endsWord_of_endsItem ends')
      names
  exact ⟨String.toList_inj.1 name, after⟩

namespace Param

variable {p p' : Param} {x y u v : List Char}

/-- A parameter stands in a signature as an argument does in a callback. -/
theorem signature_toList (p : Param) : p.signature.toList = argumentText (p.name, p.type) := by
  have whole : p.signature = p.name ++ ": " ++ p.type.text := rfl
  simp [whole, argumentText]

/-- Parameters in signatures are told apart by their names and types. -/
theorem signature_toldApart (named : p.Named) (named' : p'.Named) :
    ToldApart EndsItem (fun p => p.signature.toList) (fun p : Param => (p.name, p.type)) p p' := by
  intro x y ends ends' same
  simp only [signature_toList] at same
  have arguments : ToldApart EndsItem argumentText id (p.name, p.type) (p'.name, p'.type) :=
    argumentText_toldApart named.name named'.name
      fun z w => TypeExpr.text_cancel named.type named'.type
  exact arguments x y ends ends' same

/-- No parameter of a signature begins with the bracket that closes the parameters. -/
theorem signature_begins (named : p.Named) (z : List Char) :
    (p.signature.toList ++ z).head? ≠ some ')' := by
  have word : IsWord (p.name, p.type).1.toList := named.name
  rw [signature_toList]
  exact argumentText_begins word z

/-- The default as far as it is shown. -/
def shownDefault (p : Param) : List Char := (p.shown.default.elim "" id).toList

theorem definition_toList (p : Param) : p.definition.toList =
    p.kind.lead ++ (p.name.toList ++ (p.kind.separator ++ p.shownDefault)) := by
  obtain ⟨name, kind, type, default⟩ := p
  cases kind <;> simp [definition, ParamKind.lead, ParamKind.separator, shownDefault, shown]

/-- The marks before a name are told apart, since no name begins with one. -/
theorem lead_cancel {k k' : ParamKind} (word : IsWord u) (word' : IsWord v)
    (same : k.lead ++ (u ++ x) = k'.lead ++ (v ++ y)) : k.lead = k'.lead ∧ u ++ x = v ++ y := by
  have star : u ++ x ≠ '*' :: (v ++ y) := Text.word_ne_cons word rfl
  have amp : u ++ x ≠ '&' :: (v ++ y) := Text.word_ne_cons word rfl
  have star' : v ++ y ≠ '*' :: (u ++ x) := Text.word_ne_cons word' rfl
  have amp' : v ++ y ≠ '&' :: (u ++ x) := Text.word_ne_cons word' rfl
  cases k <;> cases k' <;> simp_all [ParamKind.lead]

/-- After its name a parameter without a default shows nothing, and any other an equals sign or a
colon and a word. -/
theorem default_cases (named : p.Named) :
    (p.kind.separator = [] ∧ p.shownDefault = []) ∨
      ((p.kind.separator = [' ', '=', ' '] ∨ p.kind.separator = [':', ' ']) ∧
        IsWord p.shownDefault) := by
  have word : IsWord (p.default.getD "nil").toList := by
    cases given : p.default with
    | none => exact show IsWord "nil".toList by decide
    | some value => exact named.default value given
  obtain ⟨name, kind, type, default⟩ := p
  cases kind with
  | optional => exact .inr ⟨.inl rfl, word⟩
  | keyword => exact .inr ⟨.inr rfl, word⟩
  | _ => exact .inl ⟨rfl, rfl⟩

/-- Defaults are told apart in front of what ends a parameter. -/
theorem default_cancel (named : p.Named) (named' : p'.Named) (ends : EndsItem x)
    (ends' : EndsItem y)
    (same : p.kind.separator ++ (p.shownDefault ++ x) =
      p'.kind.separator ++ (p'.shownDefault ++ y)) :
    p.kind.separator = p'.kind.separator ∧ p.shownDefault = p'.shownDefault ∧ x = y := by
  have endsWord := Text.endsWord_of_endsItem ends
  have endsWord' := Text.endsWord_of_endsItem ends'
  rcases default_cases named with ⟨sep, none⟩ | ⟨sep | sep, word⟩ <;>
    rcases default_cases named' with ⟨sep', none'⟩ | ⟨sep' | sep', word'⟩ <;>
    rw [sep, sep'] at same ⊢
  · rw [none, none'] at same ⊢
    exact ⟨rfl, rfl, same⟩
  · rw [none] at same
    exact absurd same (ends.ne_cons (by decide))
  · rw [none] at same
    exact absurd same (ends.ne_cons (by decide))
  · rw [none'] at same
    exact absurd same.symm (ends'.ne_cons (by decide))
  · exact ⟨rfl, Text.word_cancel word word' endsWord endsWord' (List.append_cancel_left same)⟩
  · cases same
  · rw [none'] at same
    exact absurd same.symm (ends'.ne_cons (by decide))
  · cases same
  · exact ⟨rfl, Text.word_cancel word word' endsWord endsWord' (List.append_cancel_left same)⟩

/-- The name of a parameter ends before what is written after it. -/
theorem endsWord_default (named : p.Named) (ends : EndsItem x) :
    EndsWord (p.kind.separator ++ (p.shownDefault ++ x)) := by
  rcases default_cases named with ⟨sep, none⟩ | ⟨sep | sep, -⟩
  · rw [sep, none]
    exact Text.endsWord_of_endsItem ends
  · rw [sep]
    exact Text.endsWord_cons rfl
  · rw [sep]
    exact Text.endsWord_cons rfl

/-- Parameters in definitions are told apart by their names, kinds and shown defaults. -/
theorem definition_toldApart (named : p.Named) (named' : p'.Named) :
    ToldApart EndsItem (fun p => p.definition.toList)
      (fun p : Param => (p.name, p.kind, p.shownDefault)) p p' := by
  intro x y ends ends' same
  simp only [definition_toList, List.append_assoc] at same
  obtain ⟨lead, same⟩ := lead_cancel named.name named'.name same
  obtain ⟨name, same⟩ := Text.word_cancel named.name named'.name (endsWord_default named ends)
    (endsWord_default named' ends') same
  obtain ⟨separator, default, after⟩ := default_cancel named named' ends ends' same
  have kind := ParamKind.eq_of_marks lead separator
  exact ⟨Prod.ext (String.toList_inj.1 name) (Prod.ext kind default), after⟩

/-- No parameter of a definition begins with the bracket that closes the parameters. -/
theorem definition_begins (named : p.Named) (z : List Char) :
    (p.definition.toList ++ z).head? ≠ some ')' := by
  intro closed
  obtain ⟨rest, split⟩ := List.head?_eq_some_iff.1 closed
  rw [definition_toList, List.append_assoc, List.append_assoc] at split
  cases kind : p.kind with
  | splat | block => simp [kind, ParamKind.lead] at split
  | _ =>
    rw [kind] at split
    exact Text.word_ne_cons named.name rfl split

end Param

namespace MethodSpec

variable {m m' : MethodSpec} {x y : List Char}

/-- A signature tells the marks, the type parameters, the names and types of the parameters and the
result. -/
theorem signature_cancel (named : m.Named) (named' : m'.Named)
    (same : m.signature.toList ++ x = m'.signature.toList ++ y) :
    (m.implementation = m'.implementation ∧ m.overrides = m'.overrides ∧
      m.typeParameters = m'.typeParameters ∧
      m.params.map (fun p => (p.name, p.type)) = m'.params.map (fun p => (p.name, p.type)) ∧
      m.returns = m'.returns) ∧ x = y := by
  rw [signature_layout, signature_layout] at same
  simp only [List.append_assoc] at same
  -- Each part that may be left out begins with a character that no later part begins with.
  have result (m : MethodSpec) (z : List Char) :
      Begins ['r'] ("returns(".toList ++ (m.returns.text.toList ++ (") \x7d".toList ++ z))) :=
    ⟨'r', List.mem_cons_self, rfl⟩
  have params (m : MethodSpec) (z : List Char) := Text.begins_listing ").".toList
    (fun p => p.signature.toList) m.params (show "params(".toList.head? = _ from rfl) (result m z)
  have typeParameters (m : MethodSpec) (z : List Char) := Text.begins_listing ").".toList
    (fun t => (":" ++ t).toList) m.typeParameters
    (show "type_parameters(".toList.head? = _ from rfl) (params m z)
  have overrides (m : MethodSpec) (z : List Char) := Text.begins_marking m.overrides
    (show "override.".toList.head? = _ from rfl) (typeParameters m z)
  obtain ⟨implementation, same⟩ := Text.marking_cancel rfl ((overrides m x).ne (by decide))
    ((overrides m' y).ne (by decide)) (List.append_cancel_left same)
  obtain ⟨overrides, same⟩ := Text.marking_cancel rfl ((typeParameters m x).ne (by decide))
    ((typeParameters m' y).ne (by decide)) same
  obtain ⟨typeParameters, same⟩ := Text.listing_cancel rfl rfl
    (fun t member t' member' => typeParameter_toldApart (named.typeParameters t member)
      (named'.typeParameters t' member'))
    (fun t _ z => by simp) (fun t _ z => by simp) ((params m x).ne (by decide))
    ((params m' y).ne (by decide)) same
  obtain ⟨params, same⟩ := Text.listing_cancel rfl rfl
    (fun p member p' member' => Param.signature_toldApart (named.params p member)
      (named'.params p' member'))
    (fun p member => Param.signature_begins (named.params p member))
    (fun p member => Param.signature_begins (named'.params p member))
    ((result m x).ne (by decide)) ((result m' y).ne (by decide)) same
  obtain ⟨returns, same⟩ := TypeExpr.text_cancel named.returns named'.returns
    (List.append_cancel_left same)
  rw [List.map_id, List.map_id] at typeParameters
  exact ⟨⟨implementation, overrides, typeParameters, params, returns⟩, List.append_cancel_left same⟩

/-- What follows the name of a method in its definition. -/
theorem begins_params (m : MethodSpec) (x : List Char) : Begins ['(', ';']
    (listing "(".toList ")".toList (fun p => p.definition.toList) m.params ++
      ("; end".toList ++ x)) :=
  Text.begins_listing ")".toList _ m.params rfl ⟨';', List.mem_cons_self, rfl⟩

end MethodSpec

section MethodName

variable {name name' x y : List Char}

/-- After the word of its name a method goes on with a mark of the name, a bracket or the end. -/
theorem begins_mark {mark : List Char} (known : mark ∈ [[], ['!'], ['?']])
    (after : Begins ['(', ';'] x) : Begins ['!', '?', '(', ';'] (mark ++ x) := by
  obtain ⟨c, member, front⟩ := after
  simp only [List.mem_cons, List.not_mem_nil, or_false] at known
  rcases known with rfl | rfl | rfl
  · exact ⟨c, by simp_all, front⟩
  · exact ⟨'!', by decide, rfl⟩
  · exact ⟨'?', by decide, rfl⟩

/-- The names of methods are told apart in front of their parameters. -/
theorem methodName_cancel (named : IsMethodName name) (named' : IsMethodName name')
    (begins : Begins ['(', ';'] x) (begins' : Begins ['(', ';'] y)
    (same : name ++ x = name' ++ y) : name = name' ∧ x = y := by
  obtain ⟨word, mark, rfl, isWord, known⟩ := named
  obtain ⟨word', mark', rfl, isWord', known'⟩ := named'
  rw [List.append_assoc, List.append_assoc] at same
  obtain ⟨rfl, rest⟩ := Text.word_cancel isWord isWord'
    ((begins_mark known begins).endsWord (by decide))
    ((begins_mark known' begins').endsWord (by decide)) same
  simp only [List.mem_cons, List.not_mem_nil, or_false] at known known'
  rcases known with rfl | rfl | rfl <;> rcases known' with rfl | rfl | rfl
  · exact ⟨rfl, rest⟩
  · exact absurd rest (begins.ne_cons (by decide))
  · exact absurd rest (begins.ne_cons (by decide))
  · exact absurd rest.symm (begins'.ne_cons (by decide))
  · exact ⟨rfl, (List.cons.inj rest).2⟩
  · cases rest
  · exact absurd rest.symm (begins'.ne_cons (by decide))
  · cases rest
  · exact ⟨rfl, (List.cons.inj rest).2⟩

/-- The receiver of class-level methods is no part of a name: no name goes on with a point. -/
theorem receiver_ne (named : IsMethodName name) (begins : Begins ['(', ';'] x) :
    name ++ x ≠ "self.".toList ++ y := by
  obtain ⟨word, mark, rfl, isWord, known⟩ := named
  rw [List.append_assoc]
  intro same
  have self : IsWord "self".toList := by decide
  have point : "self.".toList ++ y = "self".toList ++ '.' :: y := rfl
  have after := begins_mark known begins
  obtain ⟨-, rest⟩ := Text.word_cancel isWord self (after.endsWord (by decide))
    (Text.endsWord_cons rfl) (same.trans point)
  exact absurd rest (after.ne_cons (by decide))

end MethodName

namespace MethodSpec

variable {m m' : MethodSpec} {x y : List Char}

/-- A definition tells the level and the name of the method and, of its parameters, the names, the
kinds and the defaults that are shown. -/
theorem definition_cancel (named : m.Named) (named' : m'.Named)
    (same : m.definition.toList ++ x = m'.definition.toList ++ y) :
    (m.level = m'.level ∧ m.name = m'.name ∧
      m.params.map (fun p => (p.name, p.kind, p.shownDefault)) =
        m'.params.map (fun p => (p.name, p.kind, p.shownDefault))) ∧ x = y := by
  rw [definition_layout, definition_layout] at same
  simp only [List.append_assoc] at same
  replace same := List.append_cancel_left same
  have level : m.level = m'.level := by
    cases class_ : m.level <;> cases class' : m'.level
    · rfl
    · simp only [class_, class', MethodLevel.isClass, Bool.false_eq_true, ↓reduceIte,
        List.nil_append] at same
      exact absurd same.symm (receiver_ne named'.name (begins_params m' y))
    · simp only [class_, class', MethodLevel.isClass, Bool.false_eq_true, ↓reduceIte,
        List.nil_append] at same
      exact absurd same (receiver_ne named.name (begins_params m x))
    · rfl
  rw [level] at same
  obtain ⟨name, same⟩ := methodName_cancel named.name named'.name (begins_params m x)
    (begins_params m' y) (List.append_cancel_left same)
  have finish (z : List Char) : Begins [';'] ("; end".toList ++ z) := ⟨';', List.mem_cons_self, rfl⟩
  obtain ⟨params, same⟩ := Text.listing_cancel (show "(".toList.head? = some '(' from rfl) rfl
    (fun p member p' member' => Param.definition_toldApart (named.params p member)
      (named'.params p' member'))
    (fun p member => Param.definition_begins (named.params p member))
    (fun p member => Param.definition_begins (named'.params p member))
    ((finish x).ne (by decide)) ((finish y).ne (by decide)) same
  exact ⟨⟨level, String.toList_inj.1 name, params⟩, List.append_cancel_left same⟩

end MethodSpec

end RecordTyping

import RecordTyping.Proofs.ParameterNames

/-!
# Interface files by their text

The text of an interface file tells its comments and, of its classes, everything that is shown.
-/

namespace RecordTyping

open Text (IsWord ToldApart Begins)

/-- A method that is made by naming it with its level and its result and then adding to it. -/
inductive MethodSpec.Made : MethodSpec → Prop where
  | make (name : String) (level : MethodLevel) (returns : TypeExpr) :
    Made (MethodSpec.make name level returns)
  | inCategory {m : MethodSpec} (made : Made m) (category : Category) : Made (m.inCategory category)
  | withParams {m : MethodSpec} (made : Made m) (params : List Param) : Made (m.withParams params)
  | withTypeParameter {m : MethodSpec} (made : Made m) (name : String) :
    Made (m.withTypeParameter name)
  | overriding {m : MethodSpec} (made : Made m) : Made m.overriding
  | implementing {m : MethodSpec} (made : Made m) : Made m.implementing

/-- Whether a method may return nil is said by its result, whatever was added to it. -/
theorem MethodSpec.Made.nullable {m : MethodSpec} (made : m.Made) :
    m.nullable = m.returns.isNilable := by
  induction made with
  | make => rfl
  | inCategory _ _ ih => exact ih
  | withParams _ _ ih => exact ih
  | withTypeParameter _ _ ih => exact ih
  | overriding _ ih => exact ih
  | implementing _ ih => exact ih

/-- The method as far as it is shown: its category is not. -/
def MethodSpec.shown (m : MethodSpec) : MethodSpec :=
  { m with category := none, params := m.params.map Param.shown }

/-- The class as far as it is shown. -/
def ClassDecl.shown (c : ClassDecl) : ClassDecl :=
  { c with methods := c.methods.map MethodSpec.shown }

/-- A method that is made of words. -/
structure MethodSpec.Legible (m : MethodSpec) : Prop where
  made : m.Made
  named : m.Named

/-- A file of declarations of host classes with legible methods, and with comments of one line. -/
structure DeclarationFile.Legible (f : DeclarationFile) : Prop where
  comments : ∀ comment ∈ f.comments, '\n' ∉ comment.toList
  classes : ∃ signatures : List ClassSignatures,
    f.classes = signatures.map ClassSignatures.declaration ∧
      ∀ s ∈ signatures, ∀ m ∈ s.methods, m.Legible

section Params

variable {p p' : Param} {params params' : List Param}

/-- A parameter is shown by its name and its type, its kind and its default. -/
theorem Param.shown_eq (typed : (p.name, p.type) = (p'.name, p'.type))
    (passed : (p.name, p.kind, p.shownDefault) = (p'.name, p'.kind, p'.shownDefault)) :
    p.shown = p'.shown := by
  obtain ⟨name, kind, type, default⟩ := p
  obtain ⟨name', kind', type', default'⟩ := p'
  obtain ⟨rfl, rfl⟩ := Prod.mk.inj typed
  obtain ⟨-, passed⟩ := Prod.mk.inj passed
  obtain ⟨rfl, given⟩ := Prod.mk.inj passed
  have same := String.toList_inj.1 given
  cases kind with
  | optional | keyword =>
    have value : default.getD "nil" = default'.getD "nil" := same
    simp [Param.shown, value]
  | _ => simp [Param.shown]

/-- Parameters are shown by what the signature and the definition tell of them. -/
theorem Param.map_shown_eq
    (typed : params.map (fun p => (p.name, p.type)) = params'.map (fun p => (p.name, p.type)))
    (passed : params.map (fun p => (p.name, p.kind, p.shownDefault)) =
      params'.map (fun p => (p.name, p.kind, p.shownDefault))) :
    params.map Param.shown = params'.map Param.shown := by
  induction params generalizing params' with
  | nil =>
    cases params' with
    | nil => rfl
    | cons => cases typed
  | cons p params ih =>
    cases params' with
    | nil => cases typed
    | cons p' params' =>
      obtain ⟨first, others⟩ := List.cons.inj typed
      obtain ⟨first', others'⟩ := List.cons.inj passed
      rw [List.map_cons, List.map_cons, Param.shown_eq first first', ih others others']

end Params

namespace MethodSpec

variable {m m' : MethodSpec} {x y : List Char}

/-- The lines of a method. -/
theorem block_toList (m : MethodSpec) : m.block.toList = ' ' :: ' ' ::
    (m.signature.toList ++ '\n' :: ' ' :: ' ' :: (m.definition.toList ++ ['\n'])) := by
  have whole : m.block = "  " ++ m.signature ++ "\n  " ++ m.definition ++ "\n" := rfl
  simp [whole]

/-- The lines of a method tell what is shown of it, and where they end. -/
theorem block_cancel (legible : m.Legible) (legible' : m'.Legible)
    (same : m.block.toList ++ x = m'.block.toList ++ y) : m.shown = m'.shown ∧ x = y := by
  rw [block_toList, block_toList] at same
  simp only [List.cons_append, List.append_assoc, List.cons.injEq, true_and,
    List.nil_append] at same
  obtain ⟨⟨implementation, overrides, typeParameters, typed, returns⟩, same⟩ :=
    signature_cancel legible.named legible'.named same
  simp only [List.cons.injEq, true_and] at same
  obtain ⟨⟨level, name, passed⟩, same⟩ := definition_cancel legible.named legible'.named same
  have params := Param.map_shown_eq typed passed
  have nullable : m.nullable = m'.nullable := by
    rw [legible.made.nullable, legible'.made.nullable, returns]
  refine ⟨?_, (List.cons.inj same).2⟩
  simp only [shown, name, level, params, returns, nullable, typeParameters, overrides,
    implementation]

end MethodSpec

/-- A list is written as the list of what its values are written by. -/
theorem Text.listing_map {α β : Type} (opening closing : List Char) (write : β → List Char)
    (f : α → β) (items : List α) : Text.listing opening closing write (items.map f) =
      Text.listing opening closing (fun a => write (f a)) items := by
  simp [Text.listing, Function.comp_def]

/-- What is not shown of a parameter is not in its definition. -/
theorem Param.shown_definition (p : Param) : p.shown.definition = p.definition := by
  obtain ⟨name, kind, type, default⟩ := p
  cases kind <;> rfl

/-- What is not shown of a method is not in its lines. -/
theorem MethodSpec.shown_block (m : MethodSpec) : m.shown.block = m.block := by
  have signature : m.shown.signature.toList = m.signature.toList := by
    rw [signature_layout, signature_layout, shown, Text.listing_map]
    rfl
  have definition : m.shown.definition.toList = m.definition.toList := by
    rw [definition_layout, definition_layout, shown, Text.listing_map]
    simp only [Param.shown_definition]
  rw [← String.toList_inj, block_toList, block_toList, signature, definition]

/-- What is not shown of a class is not in its text. -/
theorem ClassDecl.shown_rbi (c : ClassDecl) : c.shown.rbi = c.rbi := by
  have methods : c.shown.methods.map MethodSpec.block = c.methods.map MethodSpec.block := by
    rw [shown, List.map_map]
    exact List.map_congr_left fun m _ => m.shown_block
  have blocks : c.shown.blocks = c.blocks := by
    rw [ClassDecl.blocks, methods]
    rfl
  rw [ClassDecl.rbi, blocks]
  rfl

/-- The first line of a host class. -/
def HostClass.heading : HostClass → String
  | .baseRecord => "class ActiveRecord::Base\n"
  | .relation => "class ActiveRecord::Relation\n"
  | .associationRelation => "class ActiveRecord::AssociationRelation < ActiveRecord::Relation\n"
  | .collectionProxy =>
    "class ActiveRecord::Associations::CollectionProxy < ActiveRecord::Relation\n"

/-- The line that declares the element type of a relation. -/
def elementLine : String := "  Elem = type_member(fixed: T.untyped)\n"

namespace ClassSignatures

variable {s s' : ClassSignatures} {x y : List Char}

/-- The first line of a class tells its host class. -/
theorem heading_cancel {h h' : HostClass} (same : h.heading.toList ++ x = h'.heading.toList ++ y) :
    h = h' ∧ x = y := by
  have apart (h h' : HostClass) (prior : h.heading.toList <+: h'.heading.toList) : h = h' := by
    revert prior
    cases h <;> cases h' <;> decide
  have first : h.heading.toList <+: h'.heading.toList ++ y := ⟨x, same⟩
  have host : h = h' := by
    rcases List.prefix_or_prefix_of_prefix first (List.prefix_append _ y) with prior | prior
    · exact apart h h' prior
    · exact (apart h' h prior).symm
  subst host
  exact ⟨rfl, List.append_cancel_left same⟩

/-- A class has its methods between its first line and its end, with an empty line between two of
them. -/
theorem rbi_base (methods : List MethodSpec) : (declaration ⟨.baseRecord, methods⟩).rbi.toList =
    HostClass.baseRecord.heading.toList ++
      (['\n'].intercalate (methods.map fun m => m.block.toList) ++ "end\n".toList) := by
  have whole : (declaration ⟨.baseRecord, methods⟩).rbi = HostClass.baseRecord.heading ++
      "\n".intercalate (methods.map MethodSpec.block) ++ "end\n" := rfl
  rw [whole, String.toList_append, String.toList_append, String.toList_intercalate, List.map_map,
    List.append_assoc]
  rfl

/-- A relation has a line for its element type before its methods. -/
theorem rbi_relation (relation : s.host.isRelation = true) :
    s.declaration.rbi.toList = s.host.heading.toList ++ (elementLine.toList ++
      (s.methods.flatMap (fun m => ['\n'] ++ m.block.toList) ++ "end\n".toList)) := by
  have whole : s.declaration.rbi = s.host.heading ++
      "\n".intercalate (elementLine :: s.methods.map MethodSpec.block) ++ "end\n" := by
    obtain ⟨host, methods⟩ := s
    cases host with
    | baseRecord => cases relation
    | _ => rfl
  have blocks : (elementLine :: s.methods.map MethodSpec.block).map String.toList =
      (elementLine :: s.methods.map MethodSpec.block).map fun block => block.toList := rfl
  rw [whole, String.toList_append, String.toList_append, String.toList_intercalate, blocks,
    Text.intercalate_cons, List.flatMap_map]
  simp only [List.append_assoc]
  rfl

/-- What follows the lines of a method is what its lines end. -/
theorem block_toldApart {m m' : MethodSpec} (legible : m.Legible) (legible' : m'.Legible) :
    ToldApart (fun _ => True) (fun m => m.block.toList) MethodSpec.shown m m' :=
  fun _ _ _ _ same => MethodSpec.block_cancel legible legible' same

/-- A class begins with its first line. -/
theorem heading_prefix (s : ClassSignatures) :
    ∃ body, s.declaration.rbi.toList = s.host.heading.toList ++ body := by
  obtain ⟨host, methods⟩ := s
  cases host with
  | baseRecord => exact ⟨_, rbi_base methods⟩
  | _ => exact ⟨_, rbi_relation rfl⟩

/-- A method begins with a blank, and its class ends with a letter. -/
theorem block_head (m : MethodSpec) (z : List Char) : (m.block.toList ++ z).head? ≠ some 'e' := by
  rw [MethodSpec.block_toList, List.cons_append, List.head?_cons]
  decide

/-- The methods of a class are told apart from one another, and from the end of the class. -/
theorem methods_cancel {methods methods' : List MethodSpec}
    (legible : ∀ m ∈ methods, m.Legible) (legible' : ∀ m ∈ methods', m.Legible)
    (same : ['\n'].intercalate (methods.map fun m => m.block.toList) ++ ("end\n".toList ++ x) =
      ['\n'].intercalate (methods'.map fun m => m.block.toList) ++ ("end\n".toList ++ y)) :
    methods.map MethodSpec.shown = methods'.map MethodSpec.shown ∧ x = y := by
  obtain ⟨methods, same⟩ := Text.intercalate_cancel (fun z => z.head? = some 'e')
    (fun m member m' member' => block_toldApart (legible m member) (legible' m' member'))
    (fun _ _ => trivial) (fun z => ⟨trivial, by simp⟩) (fun m _ => block_head m)
    (fun m _ => block_head m) rfl rfl same
  exact ⟨methods, List.append_cancel_left same⟩

/-- The methods of a relation are told apart likewise, each with the empty line before it. -/
theorem separatedMethods_cancel {methods methods' : List MethodSpec}
    (legible : ∀ m ∈ methods, m.Legible) (legible' : ∀ m ∈ methods', m.Legible)
    (same : methods.flatMap (fun m => ['\n'] ++ m.block.toList) ++ ("end\n".toList ++ x) =
      methods'.flatMap (fun m => ['\n'] ++ m.block.toList) ++ ("end\n".toList ++ y)) :
    methods.map MethodSpec.shown = methods'.map MethodSpec.shown ∧ x = y := by
  have each : ∀ m ∈ methods, ∀ m' ∈ methods',
      ToldApart (fun _ => True) (fun m => ['\n'] ++ m.block.toList) MethodSpec.shown m m' := by
    intro m member m' member' z w _ _ alike
    exact MethodSpec.block_cancel (legible m member) (legible' m' member') (List.cons.inj alike).2
  have next (m : MethodSpec) (z : List Char) :
      True ∧ ¬(['\n'] ++ m.block.toList ++ z).head? = some 'e' := ⟨trivial, by simp⟩
  obtain ⟨methods, same⟩ := Text.flatMap_cancel (fun z => z.head? = some 'e') each
    (fun _ _ => trivial) (fun m _ => next m) (fun m _ => next m) rfl rfl same
  exact ⟨methods, List.append_cancel_left same⟩

/-- The text of a class tells its host class and what is shown of its methods. -/
theorem rbi_cancel (legible : ∀ m ∈ s.methods, m.Legible) (legible' : ∀ m ∈ s'.methods, m.Legible)
    (same : s.declaration.rbi.toList ++ x = s'.declaration.rbi.toList ++ y) :
    s.declaration.shown = s'.declaration.shown ∧ x = y := by
  have host : s.host = s'.host := by
    obtain ⟨body, split⟩ := heading_prefix s
    obtain ⟨body', split'⟩ := heading_prefix s'
    rw [split, split', List.append_assoc, List.append_assoc] at same
    exact (heading_cancel same).1
  obtain ⟨host, methods⟩ := s
  obtain ⟨_, methods'⟩ := s'
  subst host
  -- A relation has the line of its element type before its methods, so that each of them follows
  -- an empty line; in the base class only those after the first do.
  have told : methods.map MethodSpec.shown = methods'.map MethodSpec.shown ∧ x = y := by
    cases relation : host.isRelation with
    | true =>
      rw [rbi_relation relation, rbi_relation relation] at same
      simp only [List.append_assoc] at same
      exact separatedMethods_cancel legible legible'
        (List.append_cancel_left (List.append_cancel_left same))
    | false =>
      have base : host = .baseRecord := by cases host <;> first | rfl | cases relation
      subst base
      rw [rbi_base, rbi_base] at same
      simp only [List.append_assoc] at same
      exact methods_cancel legible legible' (List.append_cancel_left same)
  refine ⟨?_, told.2⟩
  simp only [ClassDecl.shown, declaration, told.1]

end ClassSignatures

namespace DeclarationFile

/-- A comment ends at its line feed. -/
theorem commentLine_toldApart {comment comment' : String} (line : '\n' ∉ comment.toList)
    (line' : '\n' ∉ comment'.toList) :
    ToldApart (fun _ => True) (fun c => (commentLine c).toList) id comment comment' := by
  intro x y _ _ same
  have lines : comment.toList ++ '\n' :: x = comment'.toList ++ '\n' :: y := by
    simpa [commentLine] using same
  have split := congrArg (List.splitOn '\n') lines
  rw [List.splitOn_append_cons_self_of_not_mem line,
    List.splitOn_append_cons_self_of_not_mem line'] at split
  have text : comment.toList = comment'.toList := (List.cons.inj split).1
  rw [text] at lines
  exact ⟨String.toList_inj.1 text, (List.cons.inj (List.append_cancel_left lines)).2⟩

variable {f g : DeclarationFile}

/-- The file as a line, its comments and its classes. -/
theorem rbi_toList (f : DeclarationFile) : f.rbi.toList = "# typed: strong\n".toList ++
    (f.comments.flatMap (fun c => (commentLine c).toList) ++
      f.classes.flatMap (fun c => '\n' :: c.rbi.toList)) := by
  have whole : f.rbi =
      "# typed: strong\n" ++ String.join (f.comments.map commentLine) ++ f.rbiClasses := rfl
  rw [whole, rbiClasses]
  simp [List.flatMap_map]

/-- The classes of a file are told apart. -/
theorem classes_cancel {signatures signatures' : List ClassSignatures}
    (legible : ∀ s ∈ signatures, ∀ m ∈ s.methods, m.Legible)
    (legible' : ∀ s ∈ signatures', ∀ m ∈ s.methods, m.Legible)
    (same : signatures.flatMap (fun s => '\n' :: s.declaration.rbi.toList) =
      signatures'.flatMap (fun s => '\n' :: s.declaration.rbi.toList)) :
    signatures.map (fun s => s.declaration.shown) =
      signatures'.map (fun s => s.declaration.shown) := by
  have each : ∀ s ∈ signatures, ∀ s' ∈ signatures', ToldApart (fun _ => True)
      (fun s => '\n' :: s.declaration.rbi.toList) (fun s => s.declaration.shown) s s' := by
    intro s member s' member' x y _ _ alike
    exact ClassSignatures.rbi_cancel (legible s member) (legible' s' member')
      (List.cons.inj alike).2
  have next (s : ClassSignatures) (z : List Char) :
      True ∧ '\n' :: s.declaration.rbi.toList ++ z ≠ [] := ⟨trivial, by simp⟩
  have ended : signatures.flatMap (fun s => '\n' :: s.declaration.rbi.toList) ++ [] =
      signatures'.flatMap (fun s => '\n' :: s.declaration.rbi.toList) ++ [] := by rw [same]
  exact (Text.flatMap_cancel (fun z => z = []) each (fun _ _ => trivial)
    (fun s _ => next s) (fun s _ => next s) rfl rfl ended).1

/-- What is not shown of the classes is not in the file. -/
theorem rbi_of_shown (comments : f.comments = g.comments)
    (classes : f.classes.map ClassDecl.shown = g.classes.map ClassDecl.shown) : f.rbi = g.rbi := by
  have written (h : DeclarationFile) : h.classes.flatMap (fun c => '\n' :: c.rbi.toList) =
      (h.classes.map ClassDecl.shown).flatMap (fun c => '\n' :: c.rbi.toList) := by
    rw [List.flatMap_map]
    simp only [ClassDecl.shown_rbi]
  rw [← String.toList_inj, rbi_toList, rbi_toList, written f, written g, comments, classes]

/-- Files have the same text only if they have the same comments and show the same of their
classes. -/
theorem rbi_cancel (legible : f.Legible) (legible' : g.Legible) (same : f.rbi = g.rbi) :
    f.comments = g.comments ∧ f.classes.map ClassDecl.shown = g.classes.map ClassDecl.shown := by
  obtain ⟨signatures, declared, methods⟩ := legible.classes
  obtain ⟨signatures', declared', methods'⟩ := legible'.classes
  have classes (s : List ClassSignatures) :
      (s.map ClassSignatures.declaration).flatMap (fun c => '\n' :: c.rbi.toList) =
        s.flatMap (fun s => '\n' :: s.declaration.rbi.toList) := List.flatMap_map ..
  have after (s : List ClassSignatures) :
      (s.flatMap fun s => '\n' :: s.declaration.rbi.toList).head? ≠ some '#' := by
    cases s <;> simp
  have comment (c : String) (z : List Char) :
      True ∧ ¬((commentLine c).toList ++ z).head? ≠ some '#' := ⟨trivial, by simp [commentLine]⟩
  rw [← String.toList_inj, rbi_toList, rbi_toList, declared, declared', classes, classes] at same
  obtain ⟨comments, rest⟩ := Text.flatMap_cancel (fun z => z.head? ≠ some '#')
    (fun c member c' member' =>
      commentLine_toldApart (legible.comments c member) (legible'.comments c' member'))
    (fun _ _ => trivial) (fun c _ => comment c) (fun c _ => comment c)
    (after signatures) (after signatures') (List.append_cancel_left same)
  rw [List.map_id, List.map_id] at comments
  refine ⟨comments, ?_⟩
  rw [declared, declared', List.map_map, List.map_map]
  exact classes_cancel methods methods' rest

/-- Interface files lose nothing that they show, and their lines agree: files have the same text
exactly if they have the same comments and show the same of their classes, and both lines of a
method name its parameters, in their order. -/
theorem rbi_lossless :
    (∀ f g : DeclarationFile, f.Legible → g.Legible →
      (f.rbi = g.rbi ↔ f.comments = g.comments ∧
        f.classes.map ClassDecl.shown = g.classes.map ClassDecl.shown)) ∧
    ∀ f : DeclarationFile, f.Legible → ∀ c ∈ f.classes, ∀ m ∈ c.methods,
      signatureLabels m.signature.toList = m.params.map (fun p => p.name.toList) ∧
        definitionNames m.definition.toList = m.params.map fun p => p.name.toList := by
  constructor
  · intro f g legible legible'
    constructor
    · exact rbi_cancel legible legible'
    · rintro ⟨comments, classes⟩
      exact rbi_of_shown comments classes
  · intro f legible c member m method
    obtain ⟨signatures, declared, methods⟩ := legible.classes
    rw [declared] at member
    obtain ⟨s, listed, rfl⟩ := List.mem_map.1 member
    have named := (methods s listed m method).named
    exact ⟨MethodSpec.signatureLabels_eq named, MethodSpec.definitionNames_eq named⟩

end DeclarationFile

/-- A method that takes any arguments, a flag with a default and a callback that is given arrays. -/
def visitMethod (category : Category) (default : Option String) : MethodSpec :=
  ((MethodSpec.make "visit!" .instanceLevel (.nilable (.element .typeMember))).withParams
    [.splat "args" .untyped, ⟨"strict", .keyword, .boolean, default⟩,
      .block "block" (.proc [("batch", .array (.element .typeMember))] (some .integer))]).inCategory
    category

/-- A file in which a relation declares this method. -/
def visitFile (category : Category) (default : Option String) : DeclarationFile where
  group := .relation
  comments := ["Generated."]
  classes := [ClassSignatures.declaration ⟨.collectionProxy, [visitMethod category default]⟩]

theorem visitMethod_legible (category : Category) {default : Option String}
    (word : ∀ value ∈ default, IsWord value.toList) : (visitMethod category default).Legible where
  made := ((MethodSpec.Made.make _ _ _).withParams _).inCategory category
  named := by
    have item : TypeExpr.Named (.element .typeMember) := .element _
    have batch : ∀ arg ∈ [("batch", TypeExpr.array (.element .typeMember))],
        IsWord arg.1.toList ∧ arg.2.Named := by
      intro arg member
      obtain rfl := List.mem_singleton.1 member
      have word : IsWord "batch".toList := by decide
      exact ⟨word, .array item⟩
    have name : "visit!".toList = "visit".toList ++ ['!'] := by decide
    refine ⟨⟨"visit".toList, ['!'], name, by decide, by decide⟩, ?_, .nilable item,
      by simp [visitMethod, MethodSpec.inCategory, MethodSpec.withParams, MethodSpec.make]⟩
    intro p member
    have params : p ∈ [Param.splat "args" .untyped, ⟨"strict", .keyword, .boolean, default⟩,
      .block "block" (.proc [("batch", .array (.element .typeMember))] (some .integer))] := member
    simp only [List.mem_cons, List.not_mem_nil, or_false] at params
    rcases params with rfl | rfl | rfl
    · have args : IsWord "args".toList := by decide
      exact ⟨args, .untyped, by simp [Param.splat]⟩
    · have strict : IsWord "strict".toList := by decide
      exact ⟨strict, .boolean, word⟩
    · have block : IsWord "block".toList := by decide
      refine ⟨block, .proc (fun arg member => (batch arg member).1)
        (fun arg member => (batch arg member).2) ?_, by simp [Param.block]⟩
      intro type returned
      obtain rfl := Option.mem_some.1 returned
      exact .integer

theorem visitFile_legible (category : Category) {default : Option String}
    (word : ∀ value ∈ default, IsWord value.toList) : (visitFile category default).Legible where
  comments := by
    intro comment member
    obtain rfl := List.mem_singleton.1 member
    decide
  classes := by
    refine ⟨[⟨.collectionProxy, [visitMethod category default]⟩], rfl, ?_⟩
    intro s member m method
    obtain rfl := List.mem_singleton.1 member
    obtain rfl := List.mem_singleton.1 method
    exact visitMethod_legible category word

/-- A category and a default that nothing else than nil is given for make no difference to the
file, and any other default does. -/
theorem visitFile_told :
    (visitFile .finder none).rbi = (visitFile .builder (some "nil")).rbi ∧
      (visitFile .finder none).rbi ≠ (visitFile .finder (some "true")).rbi ∧
      signatureLabels (visitMethod .finder none).signature.toList =
        definitionNames (visitMethod .finder none).definition.toList := by
  have absent : (visitFile .finder none).Legible := visitFile_legible _ (by simp)
  have nil : (visitFile .builder (some "nil")).Legible :=
    visitFile_legible _ fun value given =>
      Option.mem_some.1 given ▸ show IsWord "nil".toList by decide
  have true_ : (visitFile .finder (some "true")).Legible :=
    visitFile_legible _ fun value given =>
      Option.mem_some.1 given ▸ show IsWord "true".toList by decide
  obtain ⟨told, agree⟩ := DeclarationFile.rbi_lossless
  refine ⟨(told _ _ absent nil).2 ⟨rfl, rfl⟩, fun same => ?_, ?_⟩
  · have classes := ((told _ _ absent true_).1 same).2
    have defaults := congrArg
      (fun cs => cs.map fun c : ClassDecl => c.methods.map fun m => m.params.map Param.default)
      classes
    revert defaults
    decide
  · obtain ⟨signature, definition⟩ := agree _ absent _ (List.mem_singleton.2 rfl) _
      (List.mem_singleton.2 rfl)
    exact signature.trans definition.symm

end RecordTyping

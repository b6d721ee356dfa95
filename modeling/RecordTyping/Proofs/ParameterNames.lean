import RecordTyping.Proofs.MethodText

/-!
# The names of parameters

Two readers that take the names of the parameters off the two lines of a method. In a signature
they are the labels inside one pair of brackets: deeper ones belong to callbacks. In a definition
they are the first words after the opening bracket and after each comma. On the lines of one method
both readers find the same names, in the order of the parameters.
-/

namespace RecordTyping

open Text (IsWord isWordChar marking listing)

/-- What is read of a signature: how many brackets are open, the text since the last bracket or
blank, and the labels so far. -/
structure LabelReading where
  depth : Nat
  text : List Char
  labels : List (List Char)
deriving DecidableEq

namespace LabelReading

/-- One character more. A text before a blank is a label if it ends with a colon. -/
def step (r : LabelReading) (c : Char) : LabelReading :=
  if c = '(' ∨ c = '[' then ⟨r.depth + 1, [], r.labels⟩
  else if c = ')' ∨ c = ']' then ⟨r.depth - 1, [], r.labels⟩
  else if c = ' ' then
    ⟨r.depth, [], if r.depth = 1 ∧ r.text.getLast? = some ':' then r.labels ++ [r.text.dropLast]
      else r.labels⟩
  else ⟨r.depth, r.text ++ [c], r.labels⟩

/-- A character that is no bracket and no blank. -/
def isPlain (c : Char) : Bool := c ∉ ['(', '[', ')', ']', ' ']

/-- The reading of a text. -/
def read (r : LabelReading) (text : List Char) : LabelReading := text.foldl step r

variable {depth : Nat} {text word : List Char} {labels : List (List Char)}

@[simp]
theorem read_nil (r : LabelReading) : r.read [] = r := rfl

@[simp]
theorem read_append (r : LabelReading) (x y : List Char) : r.read (x ++ y) = (r.read x).read y :=
  List.foldl_append

theorem read_cons (r : LabelReading) (c : Char) (x : List Char) :
    r.read (c :: x) = (r.step c).read x := rfl

/-- A text without brackets and blanks is kept. -/
theorem read_plain (plain : word.all isPlain = true) :
    read ⟨depth, text, labels⟩ word = ⟨depth, text ++ word, labels⟩ := by
  induction word generalizing text with
  | nil => simp
  | cons c word ih =>
    rw [List.all_cons, Bool.and_eq_true] at plain
    have other := plain.1
    simp only [isPlain, List.mem_cons, List.not_mem_nil, or_false, not_or,
      decide_eq_true_eq] at other
    have kept : step ⟨depth, text, labels⟩ c = ⟨depth, text ++ [c], labels⟩ := by
      simp [step, other]
    rw [read_cons, kept, ih plain.2]
    simp

/-- A word is kept. -/
theorem read_word (isWord : IsWord word) :
    read ⟨depth, text, labels⟩ word = ⟨depth, text ++ word, labels⟩ := by
  refine read_plain (List.all_eq_true.2 fun c member => decide_eq_true fun mark => ?_)
  have marks : ['(', '[', ')', ']', ' '].any isWordChar = false := by decide
  exact List.any_eq_false.1 marks c mark (isWord.2 c member)

/-- Between two values of a list nothing is a label. -/
theorem read_comma : read ⟨depth, text, labels⟩ [',', ' '] = ⟨depth, [], labels⟩ := by
  simp [read_cons, step]

section Lists

variable {α : Type} {write : α → List Char} {name : α → List (List Char)}

/-- The values of a list after its first one are read one after the other. -/
theorem read_others (items : List α) (each : ∀ a ∈ items, ∀ labels, ∃ text',
      read ⟨depth, [], labels⟩ (write a) = ⟨depth, text', labels ++ name a⟩) :
    ∀ text labels, ∃ text',
      read ⟨depth, text, labels⟩ (items.flatMap fun a => [',', ' '] ++ write a) =
        ⟨depth, text', labels ++ items.flatMap name⟩ := by
  induction items with
  | nil => exact fun text labels => ⟨text, by simp⟩
  | cons a items ih =>
    intro text labels
    obtain ⟨text', first⟩ := each a List.mem_cons_self labels
    obtain ⟨text'', others⟩ := ih (fun b member => each b (List.mem_cons_of_mem _ member))
      text' (labels ++ name a)
    refine ⟨text'', ?_⟩
    rw [List.flatMap_cons, read_append, read_append, read_comma, first, others, List.flatMap_cons,
      List.append_assoc]

/-- The labels of a list with commas are those of its values. -/
theorem read_intercalate (items : List α) (each : ∀ a ∈ items, ∀ labels, ∃ text',
      read ⟨depth, [], labels⟩ (write a) = ⟨depth, text', labels ++ name a⟩)
    (labels : List (List Char)) :
    ∃ text', read ⟨depth, [], labels⟩ ([',', ' '].intercalate (items.map write)) =
      ⟨depth, text', labels ++ items.flatMap name⟩ := by
  cases items with
  | nil => exact ⟨[], by simp⟩
  | cons a items =>
    obtain ⟨text', first⟩ := each a List.mem_cons_self labels
    obtain ⟨text'', others⟩ := read_others items
      (fun b member => each b (List.mem_cons_of_mem _ member)) text' (labels ++ name a)
    refine ⟨text'', ?_⟩
    rw [Text.intercalate_cons, read_append, first, others, List.flatMap_cons, List.append_assoc]

end Lists

/-- A text in brackets after a word. -/
theorem read_bracketed {inside : List Char} {found : List (List Char)} {opening closing : Char}
    (plain : word.all isPlain = true)
    (opens : opening = '(' ∨ opening = '[') (closes : closing = ')' ∨ closing = ']')
    (middle : ∃ text', read ⟨depth + 1, [], labels⟩ inside = ⟨depth + 1, text', found⟩) :
    read ⟨depth, text, labels⟩ (word ++ opening :: (inside ++ [closing])) = ⟨depth, [], found⟩ := by
  obtain ⟨text', middle⟩ := middle
  have opened : step ⟨depth, text ++ word, labels⟩ opening = ⟨depth + 1, [], labels⟩ := by
    simp [step, opens]
  have closed : step ⟨depth + 1, text', found⟩ closing = ⟨depth, [], found⟩ := by
    rcases closes with rfl | rfl <;> simp [step]
  rw [read_append, read_plain plain, read_cons, opened, read_append, middle, read_cons, closed,
    read_nil]

/-- The labels of a list in brackets are those of its values. -/
theorem read_listing {α : Type} {write : α → List Char} {name : α → List (List Char)}
    {opening : List Char} (front : opening = word ++ ['('])
    (plain : word.all isPlain = true) (items : List α)
    (each : ∀ a ∈ items, ∀ labels, ∃ text',
      read ⟨depth + 1, [], labels⟩ (write a) = ⟨depth + 1, text', labels ++ name a⟩) :
    ∃ text', read ⟨depth, text, labels⟩ (listing opening ").".toList write items) =
      ⟨depth, text', labels ++ items.flatMap name⟩ := by
  cases items with
  | nil => exact ⟨text, by simp [listing]⟩
  | cons a items =>
    have whole : listing opening ").".toList write (a :: items) =
        word ++ '(' :: ([',', ' '].intercalate ((a :: items).map write) ++ [')']) ++ ['.'] := by
      simp [listing, front]
    have point : ['.'].all isPlain = true := by decide
    rw [whole, read_append, read_bracketed plain (.inl rfl) (.inl rfl)
      (read_intercalate (a :: items) each labels), read_plain point]
    exact ⟨_, rfl⟩

/-- The label of an argument counts inside one pair of brackets. -/
theorem read_argument {arg : String × TypeExpr} (isWord : IsWord arg.1.toList)
    (type : ∀ text labels, ∃ text',
      read ⟨depth, text, labels⟩ arg.2.text.toList = ⟨depth, text', labels⟩)
    (labels : List (List Char)) : ∃ text', read ⟨depth, [], labels⟩ (argumentText arg) =
      ⟨depth, text', labels ++ if depth = 1 then [arg.1.toList] else []⟩ := by
  have colon : read ⟨depth, arg.1.toList, labels⟩ [':', ' '] =
      ⟨depth, [], labels ++ if depth = 1 then [arg.1.toList] else []⟩ := by
    by_cases inside : depth = 1 <;> simp [read_cons, step, inside]
  have whole : argumentText arg = arg.1.toList ++ ([':', ' '] ++ arg.2.text.toList) := rfl
  obtain ⟨text', typed⟩ := type [] (labels ++ if depth = 1 then [arg.1.toList] else [])
  refine ⟨text', ?_⟩
  rw [whole, read_append, read_word isWord, List.nil_append, read_append, colon, typed]

/-- Nothing inside a result is a label. -/
theorem read_result {returns : Option TypeExpr}
    (type : ∀ t ∈ returns, ∃ text',
      read ⟨depth + 1, [], labels⟩ t.text.toList = ⟨depth + 1, text', labels⟩) :
    ∃ text', read ⟨depth, text, labels⟩ (resultText returns) = ⟨depth, text', labels⟩ := by
  cases returns with
  | none => exact ⟨_, read_plain (by decide)⟩
  | some t =>
    have whole : resultText (some t) = "returns".toList ++ '(' :: (t.text.toList ++ [')']) := by
      simp [resultText]
    rw [whole]
    exact ⟨[], read_bracketed (by decide) (.inl rfl) (.inl rfl) (type t rfl)⟩

/-- Nothing inside a type is a label where the type itself stands in brackets. -/
theorem read_type {t : TypeExpr} (named : t.Named) (depth : Nat) (text : List Char)
    (labels : List (List Char)) :
    ∃ text', read ⟨depth + 1, text, labels⟩ t.text.toList = ⟨depth + 1, text', labels⟩ := by
  induction t using TypeExpr.nested generalizing depth text labels with
  | untyped => exact ⟨_, read_plain (by decide)⟩
  | boolean => exact ⟨_, read_plain (by decide)⟩
  | integer => exact ⟨_, read_plain (by decide)⟩
  | element e => cases e <;> exact ⟨_, read_plain (by decide)⟩
  | nilable inner ih =>
    cases named with | nilable inside =>
    have whole : (TypeExpr.nilable inner).text.toList =
        "T.nilable".toList ++ '(' :: (inner.text.toList ++ [')']) := by simp
    rw [whole]
    exact ⟨[], read_bracketed (by decide) (.inl rfl) (.inl rfl) (ih inside _ _ _)⟩
  | array inner ih =>
    cases named with | array inside =>
    have whole : (TypeExpr.array inner).text.toList =
        "T::Array".toList ++ '[' :: (inner.text.toList ++ [']']) := by simp
    rw [whole]
    exact ⟨[], read_bracketed (by decide) (.inr rfl) (.inr rfl) (ih inside _ _ _)⟩
  | enumerator inner ih =>
    cases named with | enumerator inside =>
    have whole : (TypeExpr.enumerator inner).text.toList =
        "T::Enumerator".toList ++ '[' :: (inner.text.toList ++ [']']) := by simp
    rw [whole]
    exact ⟨[], read_bracketed (by decide) (.inr rfl) (.inr rfl) (ih inside _ _ _)⟩
  | proc params returns arguments result =>
    cases named with | proc words types returned =>
    have front : "T.proc.".toList.all isPlain = true := by decide
    have list : ∃ text', read ⟨depth + 1, text ++ "T.proc.".toList, labels⟩
        (listing "params(".toList ").".toList argumentText params) =
          ⟨depth + 1, text', labels ++ params.flatMap fun _ => []⟩ := by
      have front : "params(".toList = "params".toList ++ ['('] := rfl
      refine read_listing front (by decide) params fun arg member labels => ?_
      obtain ⟨text', passed⟩ := read_argument (words arg member)
        (fun text labels => arguments arg member (types arg member) (depth + 1) text labels) labels
      exact ⟨text', by simpa using passed⟩
    obtain ⟨text', list⟩ := list
    have none_found : (params.flatMap fun _ => ([] : List (List Char))) = [] := by simp
    rw [TypeExpr.text_proc, read_append, read_plain front, read_append, list, none_found,
      List.append_nil]
    exact read_result fun t member => result t member (returned t member) (depth + 1) [] labels
  | typeParameter name =>
    cases named with | typeParameter isWord =>
    have whole : (TypeExpr.typeParameter name).text.toList =
        "T.type_parameter".toList ++ '(' :: (':' :: name.toList ++ [')']) := by simp
    have label : read ⟨depth + 2, [], labels⟩ (':' :: name.toList) =
        ⟨depth + 2, ':' :: name.toList, labels⟩ := by
      have colon : step ⟨depth + 2, [], labels⟩ ':' = ⟨depth + 2, [':'], labels⟩ := by simp [step]
      rw [read_cons, colon, read_word isWord]
      rfl
    rw [whole]
    exact ⟨[], read_bracketed (by decide) (.inl rfl) (.inl rfl) ⟨_, label⟩⟩

/-- The type parameters of a method are no labels: their colons stand before them. -/
theorem read_typeParameters {names : List String} (words : ∀ t ∈ names, IsWord t.toList) :
    ∃ text', read ⟨0, text, labels⟩
      (listing "type_parameters(".toList ").".toList (fun t => (":" ++ t).toList) names) =
        ⟨0, text', labels⟩ := by
  have front : "type_parameters(".toList = "type_parameters".toList ++ ['('] := rfl
  have each : ∀ t ∈ names, ∀ labels, ∃ text',
      read ⟨1, [], labels⟩ (":" ++ t).toList = ⟨1, text', labels ++ []⟩ := by
    intro t member labels
    have whole : (":" ++ t).toList = ':' :: t.toList := by simp
    have colon : step ⟨1, [], labels⟩ ':' = ⟨1, [':'], labels⟩ := rfl
    exact ⟨_, by rw [whole, read_cons, colon, read_word (words t member), List.append_nil]⟩
  obtain ⟨text', list⟩ := read_listing front (by decide) names each
  exact ⟨text', by rw [list]; simp⟩

/-- The parameters of a method are labels. -/
theorem read_params {params : List Param} (named : ∀ p ∈ params, p.Named) :
    ∃ text', read ⟨0, text, labels⟩
      (listing "params(".toList ").".toList (fun p => p.signature.toList) params) =
        ⟨0, text', labels ++ params.map fun p => p.name.toList⟩ := by
  have front : "params(".toList = "params".toList ++ ['('] := rfl
  have each : ∀ p ∈ params, ∀ labels, ∃ text',
      read ⟨1, [], labels⟩ p.signature.toList = ⟨1, text', labels ++ [p.name.toList]⟩ := by
    intro p member labels
    have isWord : IsWord (p.name, p.type).1.toList := (named p member).name
    rw [Param.signature_toList]
    exact read_argument isWord (read_type (named p member).type 0) labels
  rw [List.map_eq_flatMap]
  exact read_listing front (by decide) params each

/-- A mark that may be left out is no label. -/
theorem read_marking (present : Bool) (word : List Char)
    (plain : word.all isPlain = true) :
    ∃ text', read ⟨depth, text, labels⟩ (marking present word) = ⟨depth, text', labels⟩ := by
  cases present with
  | true => exact ⟨_, read_plain plain⟩
  | false => exact ⟨text, rfl⟩

end LabelReading

/-- The labels in a signature. -/
def signatureLabels (text : List Char) : List (List Char) :=
  (LabelReading.read ⟨0, [], []⟩ text).labels

open LabelReading in
/-- The labels in the signature of a method are the names of its parameters. -/
theorem MethodSpec.signatureLabels_eq {m : MethodSpec} (named : m.Named) :
    signatureLabels m.signature.toList = m.params.map fun p => p.name.toList := by
  have start : read ⟨0, [], []⟩ "sig \x7b ".toList = ⟨0, [], []⟩ := by decide
  have result : "returns(".toList ++ (m.returns.text.toList ++ ") \x7d".toList) =
      "returns".toList ++ '(' :: (m.returns.text.toList ++ [')']) ++ [' ', '\x7d'] := by simp
  have returned (text : List Char) (labels : List (List Char)) :
      read ⟨0, text, labels⟩ ("returns".toList ++ '(' :: (m.returns.text.toList ++ [')'])) =
        ⟨0, [], labels⟩ :=
    read_bracketed (by decide) (.inl rfl) (.inl rfl) (read_type named.returns 0 [] labels)
  have finish (labels : List (List Char)) :
      read ⟨0, [], labels⟩ [' ', '\x7d'] = ⟨0, ['\x7d'], labels⟩ := rfl
  obtain ⟨_, implementation⟩ := read_marking m.implementation "implementation.".toList (by decide)
  obtain ⟨_, overrides⟩ := read_marking m.overrides "override.".toList (by decide)
  obtain ⟨_, typeParameters⟩ := read_typeParameters named.typeParameters
  obtain ⟨_, params⟩ := read_params named.params
  rw [signatureLabels, signature_layout, read_append, start, read_append, implementation,
    read_append, overrides, read_append, typeParameters, read_append, params, result, read_append,
    returned, finish]
  rfl

/-- What is read of a definition: the word that is being read where a name may stand, and the names
so far. -/
structure NameReading where
  word : Option (List Char)
  names : List (List Char)
deriving DecidableEq

namespace NameReading

/-- One character more. A name may stand after the opening bracket and after a comma, where other
marks may come before it. -/
def step (r : NameReading) (c : Char) : NameReading :=
  if isWordChar c then ⟨r.word.map (· ++ [c]), r.names⟩
  else ⟨if c = '(' ∨ c = ',' ∨ r.word = some [] then some [] else none,
    r.names ++ (r.word.filter (· ≠ [])).toList⟩

/-- A character after which no name may stand. -/
def isPlain (c : Char) : Bool := c ∉ ['(', ',']

/-- The reading of a text. -/
def read (r : NameReading) (text : List Char) : NameReading := text.foldl step r

variable {word : List Char} {names : List (List Char)}

theorem read_append (r : NameReading) (x y : List Char) : r.read (x ++ y) = (r.read x).read y :=
  List.foldl_append

theorem read_cons (r : NameReading) (c : Char) (x : List Char) :
    r.read (c :: x) = (r.step c).read x := rfl

/-- Where no name may stand, a text without brackets and commas is passed over. -/
theorem read_outside {text : List Char} (plain : text.all isPlain = true) :
    read ⟨none, names⟩ text = ⟨none, names⟩ := by
  induction text with
  | nil => rfl
  | cons c text ih =>
    rw [List.all_cons, Bool.and_eq_true] at plain
    have other := plain.1
    simp only [isPlain, List.mem_cons, List.not_mem_nil, or_false, not_or,
      decide_eq_true_eq] at other
    have passed : step ⟨none, names⟩ c = ⟨none, names⟩ := by
      simp [step, other]
    rw [read_cons, passed, ih plain.2]

/-- A word is read where a name may stand. -/
theorem read_word {text : List Char} (isWord : ∀ c ∈ word, isWordChar c = true) :
    read ⟨some text, names⟩ word = ⟨some (text ++ word), names⟩ := by
  induction word generalizing text with
  | nil => rw [List.append_nil]; rfl
  | cons c word ih =>
    have letter : step ⟨some text, names⟩ c = ⟨some (text ++ [c]), names⟩ := by
      simp [step, isWord c List.mem_cons_self]
    rw [read_cons, letter, ih fun d member => isWord d (List.mem_cons_of_mem _ member),
      List.append_assoc]
    rfl

/-- No character of a word is a bracket or a comma. -/
theorem plain_of_word (isWord : ∀ c ∈ word, isWordChar c = true) : word.all isPlain = true := by
  refine List.all_eq_true.2 fun c member => decide_eq_true fun mark => ?_
  have marks : ['(', ','].any isWordChar = false := by decide
  exact List.any_eq_false.1 marks c mark (isWord c member)

/-- A name is found when something else than a word follows it. -/
theorem step_name {c : Char} (nonempty : word ≠ []) (mark : isWordChar c = false) :
    step ⟨some word, names⟩ c =
      ⟨if c = '(' ∨ c = ',' then some [] else none, names ++ [word]⟩ := by
  simp [step, mark, nonempty]

/-- A parameter is found by its name once it has ended. -/
theorem read_param {p : Param} (named : p.Named) (names : List (List Char)) {c : Char}
    (ends : c = ',' ∨ c = ')') : read ⟨some [], names⟩ (p.definition.toList ++ [c]) =
      ⟨if c = ',' then some [] else none, names ++ [p.name.toList]⟩ := by
  have lead : read ⟨some [], names⟩ p.kind.lead = ⟨some [], names⟩ := by
    cases p.kind <;> simp [ParamKind.lead, read, step, isWordChar]
  have name : read ⟨some [], names⟩ p.name.toList = ⟨some p.name.toList, names⟩ := by
    rw [read_word named.name.2, List.nil_append]
  have mark : isWordChar c = false := by rcases ends with rfl | rfl <;> rfl
  have bracket : c ≠ '(' := by rcases ends with rfl | rfl <;> decide
  have close (found : List (List Char)) :
      read ⟨none, found⟩ [c] = ⟨if c = ',' then some [] else none, found⟩ := by
    simp [read, step, mark, bracket]
  have default (blank : Char) (rest : List Char) (other : isWordChar blank = false)
      (front : ¬(blank = '(' ∨ blank = ',')) (plain : rest.all isPlain = true)
      (isWord : IsWord p.shownDefault) :
      read ⟨some p.name.toList, names⟩ (blank :: rest ++ (p.shownDefault ++ [c])) =
        ⟨if c = ',' then some [] else none, names ++ [p.name.toList]⟩ := by
    rw [List.cons_append, read_cons, step_name named.name.1 other, if_neg front, read_append,
      read_outside plain, read_append, read_outside (plain_of_word isWord.2), close]
  rw [Param.definition_toList]
  simp only [List.append_assoc]
  rw [read_append, lead, read_append, name]
  rcases Param.default_cases named with ⟨sep, shown⟩ | ⟨sep | sep, isWord⟩
  · have ended : step ⟨some p.name.toList, names⟩ c = _ := step_name named.name.1 mark
    rw [sep, shown]
    simpa [read, bracket] using ended
  · rw [sep]
    exact default ' ' ['=', ' '] rfl (by decide) (by decide) isWord
  · rw [sep]
    exact default ':' [' '] rfl (by decide) (by decide) isWord

/-- Parameters are found by their names, in their order. -/
theorem read_params {p : Param} {params : List Param} (named : ∀ q ∈ p :: params, q.Named)
    (names : List (List Char)) : read ⟨some [], names⟩
      ([',', ' '].intercalate ((p :: params).map fun q => q.definition.toList) ++ [')']) =
        ⟨none, names ++ (p :: params).map fun q => q.name.toList⟩ := by
  induction params generalizing p names with
  | nil =>
    have last := read_param (named p List.mem_cons_self) names (.inr rfl)
    simpa using last
  | cons q params ih =>
    have first := read_param (named p List.mem_cons_self) names (.inl rfl)
    have others := ih (p := q) (fun r member => named r (List.mem_cons_of_mem _ member))
      (names ++ [p.name.toList])
    have blank (found : List (List Char)) : step ⟨some [], found⟩ ' ' = ⟨some [], found⟩ := by
      simp [step, isWordChar]
    have whole (d e : List Char) (ds : List (List Char)) :
        [',', ' '].intercalate (d :: e :: ds) ++ [')'] =
          (d ++ [',']) ++ ' ' :: ([',', ' '].intercalate (e :: ds) ++ [')']) := by
      simp [List.intercalate_cons_cons]
    rw [List.map_cons, List.map_cons, whole, read_append, first, if_pos rfl, read_cons, blank]
    rw [List.map_cons] at others
    rw [others]
    simp

end NameReading

/-- The names in a definition. -/
def definitionNames (text : List Char) : List (List Char) :=
  (NameReading.read ⟨none, []⟩ text).names

/-- The text before the brackets of a definition has no brackets and no commas. -/
theorem MethodSpec.plain_receiver (m : MethodSpec) :
    (if m.level.isClass then "self.".toList else []).all NameReading.isPlain = true := by
  cases m.level <;> decide

/-- The name of a method has no brackets and no commas. -/
theorem plain_methodName {name : List Char} (named : IsMethodName name) :
    name.all NameReading.isPlain = true := by
  obtain ⟨word, mark, rfl, isWord, known⟩ := named
  have marks : [[], ['!'], ['?']].all (fun mark => mark.all NameReading.isPlain) = true := by decide
  rw [List.all_append, NameReading.plain_of_word isWord.2, List.all_eq_true.1 marks mark known]
  rfl

open NameReading in
/-- The names in the definition of a method are the names of its parameters. -/
theorem MethodSpec.definitionNames_eq {m : MethodSpec} (named : m.Named) :
    definitionNames m.definition.toList = m.params.map fun p => p.name.toList := by
  have finish (names : List (List Char)) :
      read ⟨none, names⟩ "; end".toList = ⟨none, names⟩ := read_outside (by decide)
  have params : read ⟨none, []⟩
      (listing "(".toList ")".toList (fun p => p.definition.toList) m.params) =
        ⟨none, m.params.map fun p => p.name.toList⟩ := by
    cases list : m.params with
    | nil => rfl
    | cons p params =>
      have opened : step ⟨none, []⟩ '(' = ⟨some [], []⟩ := rfl
      have each : ∀ q ∈ p :: params, q.Named := fun q member => named.params q (list ▸ member)
      have whole : listing "(".toList ")".toList (fun p => p.definition.toList) (p :: params) =
          '(' :: ([',', ' '].intercalate ((p :: params).map fun q => q.definition.toList) ++
            [')']) := rfl
      rw [whole, read_cons, opened, read_params each []]
      rfl
  have front : "def ".toList.all isPlain = true := by decide
  rw [definitionNames, definition_layout, read_append, read_outside front, read_append,
    read_outside m.plain_receiver, read_append, read_outside (plain_methodName named.name),
    read_append, params, finish]

end RecordTyping

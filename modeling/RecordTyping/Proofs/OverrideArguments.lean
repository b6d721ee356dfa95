import RecordTyping.Overrides
import RecordTyping.Proofs.Blanks
import RecordTyping.Proofs.Overrides
import RecordTyping.Proofs.Traversal

/-!
# Overrides given as arguments

An argument gives a field an expression in one way: its first equals sign divides it, and on each
side stands a text with nothing but blanks around it. What is written in this form is read back,
however many equals signs the expression has and whatever blanks stand around the one that divides.
Any other argument is refused as it was given. Of arguments that mention fields repeatedly the
last expression of each field counts, at the place of its first mention.
-/

namespace RecordTyping

/-- An argument gives a field an expression when the text before its first equals sign is the field
with blanks around it, the text after it the expression with blanks around it, and neither of the
two is empty or has blanks at its ends. -/
def Gives (argument field expression : String) : Prop :=
  ∃ before after, argument.toList = before ++ '=' :: after ∧ '=' ∉ before ∧
    Text.Pads field.toList before ∧ Text.Pads expression.toList after ∧
    field ≠ "" ∧ expression ≠ ""

section Reading

variable {s before after : List Char} {argument field expression : String}

/-- A text is divided at its first equals sign. -/
theorem splitAssignment?_first (fresh : '=' ∉ before) (after : List Char) :
    splitAssignment? (before ++ '=' :: after) = some (before, after) := by
  have run : ∀ c ∈ before, decide (c ≠ '=') = true :=
    fun c member => decide_eq_true fun same => fresh (same ▸ member)
  have ends : ∀ c ∈ ('=' :: after).head?, decide (c ≠ '=') = false := by simp
  rw [splitAssignment?, Text.dropWhile_run run ends, Text.takeWhile_run run ends]

/-- A text without an equals sign is not divided. -/
theorem splitAssignment?_missing (missing : '=' ∉ s) : splitAssignment? s = none := by
  have all : ∀ c ∈ s, decide (c ≠ '=') = true :=
    fun c member => decide_eq_true fun same => missing (same ▸ member)
  rw [splitAssignment?, List.dropWhile_eq_nil_iff.2 all]

/-- The two parts of a text are those before and after its first equals sign. -/
theorem splitAssignment?_eq_some : splitAssignment? s = some (before, after) ↔
    s = before ++ '=' :: after ∧ '=' ∉ before := by
  constructor
  · intro divided
    by_cases present : '=' ∈ s
    · obtain ⟨front, back, rfl, fresh⟩ := List.eq_append_cons_of_mem present
      rw [splitAssignment?_first fresh] at divided
      cases divided
      exact ⟨rfl, fresh⟩
    · rw [splitAssignment?_missing present] at divided
      cases divided
  · rintro ⟨rfl, fresh⟩
    exact splitAssignment?_first fresh after

/-- The two parts of an argument are read without the blanks around them, unless one of them has
nothing else. -/
theorem readOverride_divided (divided : splitAssignment? argument.toList = some (before, after)) :
    readOverride argument =
      if Text.trim before = [] ∨ Text.trim after = [] then .error ⟨argument⟩
      else .ok (String.ofList (Text.trim before), String.ofList (Text.trim after)) := by
  simp only [readOverride, divided, Bool.or_eq_true, List.isEmpty_iff]

/-- An argument that is not divided is refused. -/
theorem readOverride_undivided (undivided : splitAssignment? argument.toList = none) :
    readOverride argument = .error ⟨argument⟩ := by
  simp only [readOverride, undivided]

/-- The text around which the blanks of a part stand is empty or not as a list of characters. -/
theorem pads_iff {part : List Char} {text : String} :
    Text.Pads text.toList part ∧ text ≠ "" ↔
      Text.trim part ≠ [] ∧ String.ofList (Text.trim part) = text := by
  rw [← Text.trim_eq_iff]
  constructor
  · rintro ⟨core, present⟩
    rw [core, String.ofList_toList]
    exact ⟨fun empty => present (String.toList_eq_nil_iff.1 empty), rfl⟩
  · rintro ⟨present, rfl⟩
    rw [String.toList_ofList]
    exact ⟨rfl, fun empty => present (by simpa using empty)⟩

/-- An argument is read exactly as what it gives. -/
theorem readOverride_eq_ok :
    readOverride argument = .ok (field, expression) ↔ Gives argument field expression := by
  constructor
  · intro read
    cases divided : splitAssignment? argument.toList with
    | none =>
      rw [readOverride_undivided divided] at read
      cases read
    | some parts =>
      obtain ⟨before, after⟩ := parts
      rw [readOverride_divided divided] at read
      split at read
      · cases read
      · next present =>
        rw [not_or] at present
        cases read
        obtain ⟨whole, fresh⟩ := splitAssignment?_eq_some.1 divided
        obtain ⟨front, named⟩ := pads_iff.2 ⟨present.1, rfl⟩
        obtain ⟨back, valued⟩ := pads_iff.2 ⟨present.2, rfl⟩
        exact ⟨before, after, whole, fresh, front, back, named, valued⟩
  · rintro ⟨before, after, whole, fresh, front, back, named, valued⟩
    obtain ⟨present, rfl⟩ := pads_iff.1 ⟨front, named⟩
    obtain ⟨present', rfl⟩ := pads_iff.1 ⟨back, valued⟩
    rw [readOverride_divided (splitAssignment?_eq_some.2 ⟨whole, fresh⟩),
      if_neg (not_or.2 ⟨present, present'⟩)]

/-- A refused argument is named as it was given. -/
theorem readOverride_fault {e : OverrideFault} (refused : readOverride argument = .error e) :
    e = ⟨argument⟩ := by
  cases divided : splitAssignment? argument.toList with
  | none =>
    rw [readOverride_undivided divided] at refused
    exact (Except.error.inj refused).symm
  | some parts =>
    rw [readOverride_divided divided] at refused
    split at refused
    · exact (Except.error.inj refused).symm
    · cases refused

/-- An argument is refused exactly if it gives nothing. -/
theorem readOverride_eq_error : readOverride argument = .error ⟨argument⟩ ↔
    ∀ field expression, ¬Gives argument field expression := by
  constructor
  · intro refused field expression gives
    rw [readOverride_eq_ok.2 gives] at refused
    cases refused
  · intro nothing
    cases read : readOverride argument with
    | ok pair => exact absurd (readOverride_eq_ok.1 read) (nothing pair.1 pair.2)
    | error e => rw [readOverride_fault read]

end Reading

/-- An override as it may be written: a field without an equals sign and an expression, neither of
which is empty or has blanks at its ends, with blanks on both sides of an equals sign. -/
structure WrittenOverride where
  field : String
  beforeSign : List Char
  afterSign : List Char
  expression : String
  fieldPresent : field ≠ "" := by decide
  fieldEnds : Text.Unpadded field.toList := by decide
  fieldUnsigned : '=' ∉ field.toList := by decide
  expressionPresent : expression ≠ "" := by decide
  expressionEnds : Text.Unpadded expression.toList := by decide
  beforeBlank : beforeSign.all Text.isBlank = true := by decide
  afterBlank : afterSign.all Text.isBlank = true := by decide

namespace WrittenOverride

/-- The argument that is written. -/
def text (w : WrittenOverride) : String :=
  w.field ++ String.ofList w.beforeSign ++ "=" ++ String.ofList w.afterSign ++ w.expression

/-- The field and the expression that are meant. -/
def pair (w : WrittenOverride) : String × String := (w.field, w.expression)

/-- A written override gives its field its expression. -/
theorem gives (w : WrittenOverride) : Gives w.text w.field w.expression := by
  refine ⟨w.field.toList ++ w.beforeSign, w.afterSign ++ w.expression.toList, by simp [text], ?_,
    ⟨w.fieldEnds, [], w.beforeSign, rfl, by simp, List.all_eq_true.1 w.beforeBlank⟩,
    ⟨w.expressionEnds, w.afterSign, [], by simp, List.all_eq_true.1 w.afterBlank, by simp⟩,
    w.fieldPresent, w.expressionPresent⟩
  intro sign
  rcases List.mem_append.1 sign with inField | inBlanks
  · exact w.fieldUnsigned inField
  · exact absurd (List.all_eq_true.1 w.beforeBlank _ inBlanks) (by decide)

/-- A written override is read back. -/
theorem readOverride_text (w : WrittenOverride) : readOverride w.text = .ok w.pair :=
  readOverride_eq_ok.2 w.gives

end WrittenOverride

/-- An argument is read as a field and an expression exactly if it gives the one the other, and is
refused otherwise, quoted as it was given. Written overrides are read back, and a list of them
makes a map of overrides in which the fields stand in the order of their first mentions, each with
the expression of its last mention. -/
theorem override_arguments_exact :
    (∀ argument field expression, readOverride argument = .ok (field, expression) ↔
      Gives argument field expression) ∧
    (∀ argument, (∀ field expression, ¬Gives argument field expression) →
      ∃ e, readOverride argument = .error e ∧
        e.message = "expected field=expression, got '" ++ argument ++ "'") ∧
    (∀ w : WrittenOverride, readOverride w.text = .ok (w.field, w.expression)) ∧
    ∀ arguments : List WrittenOverride,
      let mentions := arguments.map WrittenOverride.pair
      (arguments.map WrittenOverride.text).mapM readOverride = .ok mentions ∧
      (Overrides.ofList mentions).keys = (mentions.map Prod.fst).eraseDups ∧
      ∀ field expression, (Overrides.ofList mentions).get? field = some expression ↔
        ∃ before after, mentions = before ++ (field, expression) :: after ∧
          field ∉ after.map Prod.fst := by
  refine ⟨fun _ _ _ => readOverride_eq_ok, fun argument nothing => ?_,
    WrittenOverride.readOverride_text, fun arguments => ⟨?_, Overrides.keys_ofList _,
      Overrides.get?_ofList_eq_some _⟩⟩
  · exact ⟨_, readOverride_eq_error.2 nothing, rfl⟩
  · rw [Traversal.mapM_eq_ok, List.forall₂_map_left_iff, List.forall₂_map_right_iff,
      List.forall₂_same]
    exact fun w _ => w.readOverride_text

/-- The owner of a widget, by an expression with an equals sign. -/
def ownerOverride : WrittenOverride where
  field := "owner"
  beforeSign := [' ', '\t']
  afterSign := [' ']
  expression := "o.name = A"

/-- The owner again, by an expression that begins with an equals sign. -/
def ownerOverrideAgain : WrittenOverride where
  field := "owner"
  beforeSign := ['\u3000']
  afterSign := []
  expression := "=>"

/-- The identity of a widget. -/
def identityOverride : WrittenOverride where
  field := "id"
  beforeSign := []
  afterSign := []
  expression := "w.id"

/-- Of three arguments two mention the same field, which stays first and has the later expression. A
field of blanks alone is refused. -/
theorem override_arguments_exact_repeated :
    let mentions := [("owner", "o.name = A"), ("id", "w.id"), ("owner", "=>")]
    ["owner \t= o.name = A", "id=w.id", "owner\u3000==>"].mapM readOverride = .ok mentions ∧
      (Overrides.ofList mentions).keys = ["owner", "id"] ∧
      (Overrides.ofList mentions).get? "owner" = some "=>" ∧
    ∃ e, readOverride " = id" = .error e ∧
      e.message = "expected field=expression, got ' = id'" := by
  intro mentions
  obtain ⟨-, refused, -, collected⟩ := override_arguments_exact
  obtain ⟨read, keys, each⟩ := collected [ownerOverride, identityOverride, ownerOverrideAgain]
  refine ⟨read, keys, (each "owner" "=>").2 ?_, refused _ (readOverride_eq_error.1 rfl)⟩
  exact ⟨[("owner", "o.name = A"), ("id", "w.id")], [], rfl, List.not_mem_nil⟩

end RecordTyping

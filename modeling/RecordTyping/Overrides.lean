import RecordTyping.Text.Blank

/-!
# Overrides

An override makes a field of a record come from an expression instead of the column of its
name. The overrides of a projection keep the order in which their fields were first mentioned;
a field that is mentioned again keeps its place and takes the new expression. As an argument an
override is a field and an expression with an equals sign between them. The first equals sign
counts, blanks around both sides do not, and neither side may be empty.
-/

namespace RecordTyping

namespace Overrides

/-- Puts a pair in the place of the one of its key, or at the end. -/
def insertEntry (field expression : String) : List (String × String) → List (String × String)
  | [] => [(field, expression)]
  | (f, e) :: rest =>
    if f = field then (field, expression) :: rest
    else (f, e) :: insertEntry field expression rest

/-- A field that is mentioned again keeps its place, and a new one comes last. -/
theorem insertEntry_keys (field expression : String) (entries : List (String × String)) :
    (insertEntry field expression entries).map Prod.fst =
      if field ∈ entries.map Prod.fst then entries.map Prod.fst
      else entries.map Prod.fst ++ [field] := by
  induction entries with
  | nil => rfl
  | cons entry rest ih =>
    obtain ⟨f, e⟩ := entry
    by_cases same : f = field
    · simp [insertEntry, same]
    · simp only [insertEntry, same, ↓reduceIte, List.map_cons, ih, List.mem_cons,
        Ne.symm same, false_or]
      split <;> rfl

/-- A mention leaves the fields distinct. -/
theorem insertEntry_distinct (field expression : String) {entries : List (String × String)}
    (distinct : (entries.map Prod.fst).Nodup) :
    ((insertEntry field expression entries).map Prod.fst).Nodup := by
  rw [insertEntry_keys]
  split
  · exact distinct
  · rename_i fresh
    rw [List.nodup_append]
    refine ⟨distinct, by simp, ?_⟩
    rintro key known last here rfl
    exact fresh (List.mem_singleton.1 here ▸ known)

end Overrides

/-- Fields with the expressions they come from. -/
structure Overrides where
  entries : List (String × String)
  /-- No field is overridden twice. -/
  distinct : (entries.map Prod.fst).Nodup
deriving DecidableEq, Repr

namespace Overrides

/-- No overrides. -/
def empty : Overrides := ⟨[], List.nodup_nil⟩

/-- Makes a field come from an expression. -/
def insert (o : Overrides) (field expression : String) : Overrides :=
  ⟨insertEntry field expression o.entries, insertEntry_distinct field expression o.distinct⟩

/-- The overrides with one more mention, for building them in one expression. -/
def adding (o : Overrides) (field expression : String) : Overrides := o.insert field expression

/-- The overrides of a list of mentions. -/
def ofList (mentions : List (String × String)) : Overrides :=
  mentions.foldl (fun o (field, expression) => o.insert field expression) empty

/-- The expression of a field. -/
def get? (o : Overrides) (field : String) : Option String :=
  (o.entries.find? fun entry => entry.1 == field).map Prod.snd

/-- Whether a field is overridden. -/
def contains (o : Overrides) (field : String) : Bool := (o.get? field).isSome

/-- The overridden fields. -/
def keys (o : Overrides) : List String := o.entries.map Prod.fst

/-- The number of overridden fields. -/
def size (o : Overrides) : Nat := o.entries.length

/-- Whether no field is overridden. -/
def isEmpty (o : Overrides) : Bool := o.entries.isEmpty

end Overrides

/-! ## Overrides as arguments -/

/-- An argument that is no override. -/
structure OverrideFault where
  argument : String
deriving DecidableEq, Repr

/-- The wording of an argument that is no override. -/
def OverrideFault.message (e : OverrideFault) : String :=
  "expected field=expression, got '" ++ e.argument ++ "'"

/-- The texts before and after the first equals sign. -/
def splitAssignment? (s : List Char) : Option (List Char × List Char) :=
  match s.dropWhile (· ≠ '=') with
  | _ :: after => some (s.takeWhile (· ≠ '='), after)
  | [] => none

/-- The field and the expression of an argument. -/
def readOverride (argument : String) : Except OverrideFault (String × String) :=
  match splitAssignment? argument.toList with
  | some (before, after) =>
    let field := Text.trim before
    let expression := Text.trim after
    if field.isEmpty || expression.isEmpty then .error ⟨argument⟩
    else .ok (String.ofList field, String.ofList expression)
  | none => .error ⟨argument⟩

end RecordTyping

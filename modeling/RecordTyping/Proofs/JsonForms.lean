import RecordTyping.Proofs.JsonReading

/-!
# The forms of JSON values

A value without numbers is read from its compact form and from its pretty form, which differ in the
blanks between brackets, items and members only. Different values therefore have different forms.
-/

namespace RecordTyping.Json.Value

/-- Induction over values, in which a container has the hypothesis for each value in it. -/
@[elab_as_elim]
theorem nested {motive : Value → Prop} (null : motive .null) (bool : ∀ b, motive (.bool b))
    (integer : ∀ n, motive (.integer n)) (double : ∀ d, motive (.double d))
    (string : ∀ s, motive (.string s))
    (array : ∀ items, (∀ v ∈ items, motive v) → motive (.array items))
    (object : ∀ members, (∀ m ∈ members, motive m.2) → motive (.object members)) (v : Value) :
    motive v :=
  @Value.rec motive (fun items => ∀ v ∈ items, motive v) (fun members => ∀ m ∈ members, motive m.2)
    (fun m => motive m.2) null bool integer double string array object
    (fun _ member => absurd member List.not_mem_nil)
    (fun _ _ first others => List.forall_mem_cons.2 ⟨first, others⟩)
    (fun _ member => absurd member List.not_mem_nil)
    (fun _ _ first others => List.forall_mem_cons.2 ⟨first, others⟩)
    (fun _ _ inside => inside) v

/-- A value without numbers. -/
inductive Numberless : Value → Prop where
  | null : Numberless .null
  | bool (b : Bool) : Numberless (.bool b)
  | string (s : String) : Numberless (.string s)
  | array {items : List Value} (inside : ∀ v ∈ items, Numberless v) : Numberless (.array items)
  | object {members : List (String × Value)} (inside : ∀ m ∈ members, Numberless m.2) :
    Numberless (.object members)

/-- A member in the compact form. -/
def memberText (m : String × Value) : List Char :=
  (renderString m.1).toList ++ ':' :: m.2.render.toList

/-- The items of an array in the compact form. -/
theorem renderItems_toList (items : List Value) :
    (renderItems items).toList = [','].intercalate (items.map fun v => v.render.toList) := by
  induction items with
  | nil => rfl
  | cons v items ih =>
    cases items with
    | nil => simp [renderItems]
    | cons w items =>
      rw [renderItems, String.toList_append, ih]
      · simp [List.intercalate_cons_cons]
      · exact List.cons_ne_nil _ _

/-- The members of an object in the compact form. -/
theorem renderMembers_toList (members : List (String × Value)) :
    (renderMembers members).toList = [','].intercalate (members.map memberText) := by
  induction members with
  | nil => rfl
  | cons m members ih =>
    cases members with
    | nil => simp [renderMembers, memberText]
    | cons n members =>
      rw [renderMembers, String.toList_append, ih]
      · simp [memberText, List.intercalate_cons_cons]
      · exact List.cons_ne_nil _ _

/-- An item in the pretty form, on its own line. -/
def itemLine (depth : Nat) (v : Value) : List Char :=
  (indentation depth).toList ++ (v.prettyAt depth).toList

/-- A member in the pretty form, on its own line. -/
def memberLine (depth : Nat) (m : String × Value) : List Char :=
  (indentation depth).toList ++
    ((renderString m.1).toList ++ ':' :: ' ' :: (m.2.prettyAt depth).toList)

/-- The items of an array in the pretty form. -/
theorem prettyItems_toList (depth : Nat) (items : List Value) :
    (prettyItems depth items).toList = [',', '\n'].intercalate (items.map (itemLine depth)) := by
  induction items with
  | nil => rfl
  | cons v items ih =>
    cases items with
    | nil => simp [prettyItems, itemLine]
    | cons w items =>
      rw [prettyItems, String.toList_append, ih]
      · simp [itemLine, List.intercalate_cons_cons]
      · exact List.cons_ne_nil _ _

/-- The members of an object in the pretty form. -/
theorem prettyMembers_toList (depth : Nat) (members : List (String × Value)) :
    (prettyMembers depth members).toList =
      [',', '\n'].intercalate (members.map (memberLine depth)) := by
  induction members with
  | nil => rfl
  | cons m members ih =>
    cases members with
    | nil => simp [prettyMembers, memberLine]
    | cons n members =>
      rw [prettyMembers, String.toList_append, ih]
      · simp [memberLine, List.intercalate_cons_cons]
      · exact List.cons_ne_nil _ _

/-- A value without numbers is read from its compact form. -/
theorem reads_render {v : Value} (numberless : v.Numberless) : v.Reads v.render.toList := by
  have none : ∀ c ∈ ([] : List Char), isBlank c = true := fun c member => nomatch member
  induction v using nested with
  | null => exact reads_null
  | bool b => exact reads_bool b
  | integer => cases numberless
  | double => cases numberless
  | string s => exact reads_string s
  | array items ih =>
    cases numberless with | array inside =>
    have written : (array items).render.toList = '[' ::
        ([] ++ ([','].intercalate (items.map fun v => v.render.toList) ++ ([] ++ [']']))) := by
      simp [render, renderItems_toList]
    cases items with
    | nil =>
      have empty : (array []).render.toList = ['[', ']'] := by simp [written]
      rw [empty]
      exact reads_array_nil
    | cons v items =>
      rw [written]
      exact reads_array none none none fun w member => ih w member (inside w member)
  | object members ih =>
    cases numberless with | object inside =>
    have written : (object members).render.toList =
        '\x7b' :: ([] ++ ([','].intercalate (members.map memberText) ++ ([] ++ ['\x7d']))) := by
      simp [render, renderMembers_toList]
    cases members with
    | nil =>
      have empty : (object []).render.toList = ['\x7b', '\x7d'] := by simp [written]
      rw [empty]
      exact reads_object_nil
    | cons m members =>
      rw [written]
      exact reads_object none none none fun n member =>
        ⟨[], n.2.render.toList, none, ih n member (inside n member),
          by rw [List.nil_append, memberText]⟩

/-- The blanks before a line. -/
theorem indentation_blank (depth : Nat) : ∀ c ∈ (indentation depth).toList, isBlank c = true := by
  intro c member
  rw [indentation, String.toList_ofList] at member
  rw [List.eq_of_mem_replicate member]
  rfl

/-- A value without numbers is read from its pretty form, at any depth. -/
theorem reads_pretty {v : Value} (numberless : v.Numberless) (depth : Nat) :
    v.Reads (v.prettyAt depth).toList := by
  have line : ∀ c ∈ ['\n'], isBlank c = true := List.all_eq_true.1 rfl
  have close (depth : Nat) : ∀ c ∈ '\n' :: (indentation depth).toList, isBlank c = true :=
    List.forall_mem_cons.2 ⟨rfl, indentation_blank depth⟩
  induction v using nested generalizing depth with
  | null => exact reads_null
  | bool b => exact reads_bool b
  | integer => cases numberless
  | double => cases numberless
  | string s => exact reads_string s
  | array items ih =>
    cases numberless with | array inside =>
    cases items with
    | nil =>
      have written : ((array []).prettyAt depth).toList = ['[', ']'] := by simp [prettyAt]
      rw [written]
      exact reads_array_nil
    | cons v items =>
      have written : ((array (v :: items)).prettyAt depth).toList =
          '[' :: (['\n'] ++ ([',', '\n'].intercalate ((v :: items).map (itemLine (depth + 1))) ++
            ('\n' :: (indentation depth).toList ++ [']']))) := by
        simp [prettyAt, prettyItems_toList]
      rw [written]
      exact reads_array line line (close depth) fun w member =>
        (ih w member (inside w member) (depth + 1)).padded (indentation_blank (depth + 1))
  | object members ih =>
    cases numberless with | object inside =>
    cases members with
    | nil =>
      have written : ((object []).prettyAt depth).toList = ['\x7b', '\x7d'] := by simp [prettyAt]
      rw [written]
      exact reads_object_nil
    | cons m members =>
      have written : ((object (m :: members)).prettyAt depth).toList =
          '\x7b' :: (['\n'] ++ ([',', '\n'].intercalate
            ((m :: members).map (memberLine (depth + 1))) ++
              ('\n' :: (indentation depth).toList ++ ['\x7d']))) := by
        simp [prettyAt, prettyMembers_toList]
      have blank : ∀ c ∈ [' '], isBlank c = true := List.all_eq_true.1 rfl
      rw [written]
      exact reads_object line line (close depth) fun n member =>
        ⟨_, _, indentation_blank (depth + 1),
          (ih n member (inside n member) (depth + 1)).padded blank, rfl⟩

/-- Values without numbers have different pretty forms. -/
theorem pretty_injective {v w : Value} (numberless : v.Numberless) (numberless' : w.Numberless)
    (same : v.pretty = w.pretty) : v = w := by
  have read := (reads_pretty numberless 0).read (2 * v.pretty.toList.length)
    (max v.nesting w.nesting) [] (Nat.le_refl _) (Nat.le_max_left _ _)
  have read' := (reads_pretty numberless' 0).read (2 * v.pretty.toList.length)
    (max v.nesting w.nesting) [] (by rw [same]; exact Nat.le_refl _) (Nat.le_max_right _ _)
  change readValue true _ _ (v.pretty.toList ++ []) = _ at read
  change readValue true _ _ (w.pretty.toList ++ []) = _ at read'
  rw [← same, read] at read'
  cases read'
  rfl

end RecordTyping.Json.Value

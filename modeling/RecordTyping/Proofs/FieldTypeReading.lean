import RecordTyping.FieldType
import RecordTyping.Proofs.JsonForms
import RecordTyping.Proofs.JsonNesting

/-!
# Reading types back

A type is read back from its JSON form, from the text as from a value that has been read already, as
long as the form is nested no deeper than allowed. Conversely no type that is read has a JSON form
that is nested deeper than what it was read from: a plain type may carry something that says
nothing, and is then nested deeper in the text than in its JSON form.
-/

namespace RecordTyping

open Json (Value)
open Traversal (map_eq_ok mapError_eq_ok bind_eq_ok)

/-- A string is read behind its opening quotation mark. -/
theorem Json.readText_written (expected s : String) (rest : List Char) :
    readText expected ((renderString s).toList ++ rest) = .ok (s, rest) := by
  have quoted : skipBlanks ((renderString s).toList ++ rest) =
      '"' :: (s.toList.flatMap escapeChar ++ '"' :: rest) := by
    rw [renderString_toList, List.cons_append, skipBlanks_cons rfl, List.append_assoc]
    rfl
  rw [readText, quoted]
  change (readString true _).map _ = _
  rw [readString_escaped]
  change Except.ok (String.ofList s.toList, rest) = _
  rw [String.ofList_toList]

namespace FieldType

/-- No number is in the JSON form of a type. -/
theorem toJson_numberless (t : FieldType) : t.toJson.Numberless := by
  induction t with
  | nilable inner ih => exact .object (by simpa using ih)
  | array inner ih => exact .object (by simpa using ih)
  | _ => exact .string _

/-- A type is nested by one object deeper than the type inside it. -/
theorem toJson_nesting_nilable (inner : FieldType) :
    (nilable inner).toJson.nesting = inner.toJson.nesting + 1 := by
  simp [toJson, Value.nesting, Value.membersNesting]

/-- A type is nested by one object deeper than the type inside it. -/
theorem toJson_nesting_array (inner : FieldType) :
    (array inner).toJson.nesting = inner.toJson.nesting + 1 := by
  simp [toJson, Value.nesting, Value.membersNesting]

section Choices

variable {name : String}

/-- What a name stands for is listed. -/
theorem choose_eq_ok {choice : Choice} (chosen : choose name = .ok choice) :
    (name, choice) ∈ choices := by
  unfold choose at chosen
  split at chosen
  case h_1 found =>
    cases chosen
    obtain ⟨before, after, split, -⟩ := List.lookup_eq_some_iff.1 found
    rw [split]
    exact List.mem_append_right before List.mem_cons_self
  case h_2 => cases chosen

/-- A plain type holds no containers. -/
theorem plain_nesting {ty : FieldType} (chosen : choose name = .ok (.plain ty)) :
    ty.toJson.nesting = 0 := by
  have listed := choose_eq_ok chosen
  simp only [choices, List.mem_cons, Prod.mk.injEq, List.not_mem_nil, or_false, Choice.plain.injEq,
    reduceCtorEq, and_false] at listed
  rcases listed with ⟨-, rfl⟩ | ⟨-, rfl⟩ | ⟨-, rfl⟩ | ⟨-, rfl⟩ | ⟨-, rfl⟩ | ⟨-, rfl⟩ | ⟨-, rfl⟩
  all_goals rfl

/-- A type that is made of another is nested by one object deeper than it. -/
theorem wrapper_nesting {wrap : FieldType → FieldType}
    (chosen : choose name = .ok (.wrapper wrap)) (inner : FieldType) :
    (wrap inner).toJson.nesting = inner.toJson.nesting + 1 := by
  have listed := choose_eq_ok chosen
  simp only [choices, List.mem_cons, Prod.mk.injEq, List.not_mem_nil, or_false,
    Choice.wrapper.injEq, reduceCtorEq, and_false, false_or] at listed
  rcases listed with ⟨-, rfl⟩ | ⟨-, rfl⟩
  · exact toJson_nesting_nilable inner
  · exact toJson_nesting_array inner

/-- A bare name stands for a type without containers. -/
theorem ofName_nesting {t : FieldType} (read : ofName name = .ok t) : t.toJson.nesting = 0 := by
  obtain ⟨choice, chosen, read⟩ := bind_eq_ok.1 read
  cases choice with
  | plain ty =>
    cases read
    exact plain_nesting chosen
  | wrapper wrap => cases read

end Choices

section Text

variable {name : String} {depth : Nat} {rest : List Char}

/-- A plain type is read from its name. -/
theorem reader_name {t : FieldType} (known : ofName name = .ok t) :
    reader depth ((Json.renderString name).toList ++ rest) = .ok (t, rest) := by
  have quoted : Json.skipBlanks ((Json.renderString name).toList ++ rest) =
      '"' :: (name.toList.flatMap Json.escapeChar ++ '"' :: rest) := by
    rw [Json.renderString_toList, List.cons_append, Json.skipBlanks_cons rfl, List.append_assoc]
    rfl
  rw [reader, quoted]
  simp only [Json.readString_escaped, Traversal.ok_bind, String.ofList_toList, known]
  rfl

/-- A type that is made of another is read from an object of one member. -/
theorem reader_wrapped {wrap : FieldType → FieldType} (known : choose name = .ok (.wrapper wrap))
    {inner : FieldType} {text : List Char}
    (inside : ∀ rest, reader depth (text ++ rest) = .ok (inner, rest)) :
    reader (depth + 1) ('\x7b' :: ((Json.renderString name).toList ++
      ':' :: (text ++ '\x7d' :: rest))) = .ok (wrap inner, rest) := by
  have opened (s : List Char) : Json.skipBlanks ('\x7b' :: s) = '\x7b' :: s :=
    Json.skipBlanks_cons rfl
  have closed : Json.skipBlanks ('\x7d' :: rest) = '\x7d' :: rest := Json.skipBlanks_cons rfl
  have shape : shaped (choose name) = .ok (.wrapper wrap) := mapError_eq_ok.2 known
  rw [reader, opened]
  simp only [Json.readText_written, Traversal.ok_bind, shape, Json.expectColon_cons, inside,
    Except.map, closed]
  rfl

/-- A type is read from the text of its JSON form. -/
theorem reader_written (t : FieldType) (fits : t.toJson.nesting ≤ depth) (rest : List Char) :
    reader depth (t.toJson.render.toList ++ rest) = .ok (t, rest) := by
  induction t generalizing depth rest with
  | nilable inner ih =>
    rw [toJson_nesting_nilable] at fits
    obtain ⟨depth, rfl⟩ : ∃ n, depth = n + 1 := ⟨depth - 1, by omega⟩
    have written : (nilable inner).toJson.render.toList ++ rest =
        '\x7b' :: ((Json.renderString "nilable").toList ++
          ':' :: (inner.toJson.render.toList ++ '\x7d' :: rest)) := by
      simp [toJson, Value.render, Json.renderMembers]
    rw [written]
    exact reader_wrapped rfl (ih (by omega))
  | array inner ih =>
    rw [toJson_nesting_array] at fits
    obtain ⟨depth, rfl⟩ : ∃ n, depth = n + 1 := ⟨depth - 1, by omega⟩
    have written : (array inner).toJson.render.toList ++ rest =
        '\x7b' :: ((Json.renderString "array").toList ++
          ':' :: (inner.toJson.render.toList ++ '\x7d' :: rest)) := by
      simp [toJson, Value.render, Json.renderMembers]
    rw [written]
    exact reader_wrapped rfl (ih (by omega))
  | _ => exact reader_name rfl

end Text

/-- A type that is read from a text is nested no deeper than allowed. -/
theorem reader_nesting {t : FieldType} {depth : Nat} {s rest : List Char}
    (read : reader depth s = .ok (t, rest)) : t.toJson.nesting ≤ depth := by
  rw [reader] at read
  split at read
  case h_1 =>
    obtain ⟨⟨name, after⟩, -, read⟩ := bind_eq_ok.1 read
    obtain ⟨ty, named, same⟩ := bind_eq_ok.1 read
    cases same
    rw [ofName_nesting (mapError_eq_ok.1 named)]
    exact Nat.zero_le _
  case h_2 =>
    cases depth with
    | zero => cases read
    | succ depth =>
      obtain ⟨⟨name, afterName⟩, -, read⟩ := bind_eq_ok.1 read
      obtain ⟨choice, chosen, read⟩ := bind_eq_ok.1 read
      obtain ⟨afterColon, -, read⟩ := bind_eq_ok.1 read
      have known := mapError_eq_ok.1 chosen
      -- Whatever the name stands for, only a brace may follow, and the type is passed on.
      cases choice with
      | plain plain =>
        obtain ⟨⟨ty, after⟩, made, read⟩ := bind_eq_ok.1 read
        obtain ⟨_, -, same⟩ := map_eq_ok.1 made
        cases same
        dsimp only at read
        split at read
        · cases read
          rw [plain_nesting known]
          exact Nat.zero_le _
        · cases read
      | wrapper wrap =>
        obtain ⟨⟨ty, after⟩, made, read⟩ := bind_eq_ok.1 read
        obtain ⟨⟨inner, _⟩, inside, same⟩ := map_eq_ok.1 made
        cases same
        dsimp only at read
        split at read
        · cases read
          rw [wrapper_nesting known]
          exact Nat.succ_le_succ (reader_nesting inside)
        · cases read
  case h_3 => cases read
termination_by depth

/-- A type is had from the value of its JSON form. -/
theorem ofJson_toJson (t : FieldType) : ofJson t.toJson = .ok t := by
  induction t with
  | nilable inner ih =>
    have chosen : choose "nilable" = .ok (.wrapper nilable) := rfl
    rw [toJson, ofJson, chosen]
    simp only [Traversal.ok_bind, ih]
    rfl
  | array inner ih =>
    have chosen : choose "array" = .ok (.wrapper array) := rfl
    rw [toJson, ofJson, chosen]
    simp only [Traversal.ok_bind, ih]
    rfl
  | _ => rfl

/-- A type that is had from a value is nested no deeper than the value. -/
theorem ofJson_nesting {t : FieldType} {v : Value} (read : ofJson v = .ok t) :
    t.toJson.nesting ≤ v.nesting := by
  induction v using Value.nested generalizing t with
  | string name =>
    rw [ofName_nesting read]
    exact Nat.zero_le _
  | object members ih =>
    match members, read with
    | [], read => cases read
    | _ :: _ :: _, read => cases read
    | [(name, value)], read =>
      have inside {u : FieldType} (given : ofJson value = .ok u) :=
        ih (name, value) List.mem_cons_self given
      have deep : (Value.object [(name, value)]).nesting = value.nesting + 1 := by
        simp [Value.nesting, Value.membersNesting]
      rw [ofJson] at read
      obtain ⟨choice, chosen, read⟩ := bind_eq_ok.1 read
      cases choice with
      | plain ty =>
        have given : ty = t := by
          dsimp only at read
          split at read
          · cases read
            rfl
          · cases read
            rfl
          · cases read
        rw [← given, plain_nesting chosen]
        exact Nat.zero_le _
      | wrapper wrap =>
        obtain ⟨inner, given, same⟩ := bind_eq_ok.1 read
        cases same
        rw [wrapper_nesting chosen, deep]
        exact Nat.succ_le_succ (inside given)
  | _ => cases read

end FieldType

end RecordTyping

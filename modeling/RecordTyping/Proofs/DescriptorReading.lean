import RecordTyping.Proofs.FieldTypeReading
import RecordTyping.Schema.Json

/-!
# Reading descriptors back

A descriptor is read back from the text of its JSON form, its fields and variants in their order, as
long as the form is nested no deeper than allowed.
-/

namespace RecordTyping

open Json (Value)
open Traversal (mapError_eq_ok)

namespace FieldDecl

/-- A field is had from the value of its JSON form. -/
theorem ofJson_toJson (d : FieldDecl) : ofJson d.toJson = .ok d := by
  obtain ⟨name, type⟩ := d
  have gathered : List.foldlM gather ⟨none, none⟩ [("name", .string name), ("type", type.toJson)] =
      .ok ⟨some name, some type⟩ := by
    simp only [List.foldlM_cons, List.foldlM_nil, gather, Value.asText, FieldType.ofJson_toJson,
      Traversal.ok_bind]
    rfl
  rw [toJson, ofJson, gathered]
  rfl

/-- No number is in the JSON form of a field. -/
theorem toJson_numberless (d : FieldDecl) : d.toJson.Numberless := by
  refine .object fun m member => ?_
  simp only [List.mem_cons, List.not_mem_nil, or_false] at member
  rcases member with rfl | rfl
  · exact .string _
  · exact d.type.toJson_numberless

end FieldDecl

namespace TypeKind

/-- A kind is had from the value of its label. -/
theorem labelOf_name (label : KindLabel) : labelOf (.string label.name) = .ok label := by
  cases label <;> rfl

/-- What belongs to a kind is one member, which has neither the key of the name nor that of the
kind. -/
theorem toMembers_eq (kind : TypeKind) : ∃ key value, kind.toMembers = [(key, value)] ∧
    key ≠ "name" ∧ key ≠ "kind" ∧ value.Numberless := by
  cases kind with
  | record schema =>
    refine ⟨"fields", _, rfl, by decide, by decide, .array fun v member => ?_⟩
    obtain ⟨d, -, rfl⟩ := List.mem_map.1 member
    exact d.toJson_numberless
  | scalar type => exact ⟨"type", _, rfl, by decide, by decide, type.toJson_numberless⟩
  | enumeration variants =>
    refine ⟨"variants", _, rfl, by decide, by decide, .array fun v member => ?_⟩
    obtain ⟨s, -, rfl⟩ := List.mem_map.1 member
    exact .string s

/-- A kind is had from the members of its JSON form. -/
theorem ofMembers_toMembers (kind : TypeKind) :
    ofMembers (("kind", .string kind.label.name) :: kind.toMembers) = .ok kind := by
  have split : splitLabel none (("kind", .string kind.label.name) :: kind.toMembers) =
      .ok (kind.label, kind.toMembers) := by
    obtain ⟨key, value, members, -, other, -⟩ := kind.toMembers_eq
    have rest : splitLabel (some kind.label) [(key, value)] = .ok (kind.label, [(key, value)]) := by
      rw [splitLabel, if_neg other]
      rfl
    rw [members, splitLabel, if_pos rfl]
    simp only [labelOf_name, Traversal.ok_bind, rest]
  rw [ofMembers, split]
  cases kind with
  | record schema =>
    have only : readOnly "fields" (fun v => do
        (← v.asSequence "a sequence").mapM FieldDecl.ofJson) none (record schema).toMembers =
          .ok schema.fields := by
      rw [toMembers, readOnly, if_pos rfl]
      simp only [Value.asSequence, Traversal.ok_bind,
        Traversal.mapM_restores FieldDecl.ofJson_toJson]
      rfl
    simp only [Traversal.ok_bind, label, only]
    rfl
  | scalar type =>
    have only : readOnly "type" FieldType.ofJson none (scalar type).toMembers = .ok type := by
      rw [toMembers, readOnly, if_pos rfl]
      simp only [FieldType.ofJson_toJson, Traversal.ok_bind]
      rfl
    simp only [Traversal.ok_bind, label, only]
    rfl
  | enumeration variants =>
    have only : readOnly "variants" (fun v => do
        (← v.asSequence "a sequence").mapM (Value.asText "a string")) none
          (enumeration variants).toMembers = .ok variants := by
      have each (s : String) : Value.asText "a string" (.string s) = .ok s := rfl
      rw [toMembers, readOnly, if_pos rfl]
      simp only [Value.asSequence, Traversal.ok_bind, Traversal.mapM_restores each]
      rfl
    simp only [Traversal.ok_bind, label, only]
    rfl

end TypeKind

section Fields

variable {σ : Type} {field : σ → String → Except Json.ReadError (Json.Reader σ)}
  {reader : Json.Reader σ} {gathered gathered' : σ} {key : String} {value s rest : List Char}

/-- A key is found where no blanks stand before it. -/
theorem Json.expectKey_bare : Json.expectKey ((Json.renderString key).toList ++ s) =
    .ok (key.toList.flatMap Json.escapeChar ++ '"' :: s) := by
  have none : ∀ c ∈ ([] : List Char), Json.isBlank c = true := fun c member => nomatch member
  have bare : Json.expectKey ([] ++ ((Json.renderString key).toList ++ s)) = _ :=
    Json.expectKey_written none key
  rwa [List.nil_append] at bare

/-- A member in front of others is gathered by the reader of its key. -/
theorem Json.readFields_next (asked : field gathered key = .ok reader)
    (given : reader (value ++ ',' :: s) = .ok (gathered', ',' :: s)) (fuel : Nat) :
    Json.readFields field (fuel + 1) gathered
      ((Json.renderString key).toList ++ ':' :: (value ++ ',' :: s)) =
        Json.readFields field fuel gathered' s := by
  have comma : Json.skipBlanks (',' :: s) = ',' :: s := Json.skipBlanks_cons rfl
  rw [Json.readFields]
  simp only [Json.expectKey_bare, Json.readString_escaped, String.ofList_toList, asked,
    Json.expectColon_cons, given, comma, Traversal.ok_bind]

/-- The last member is gathered by the reader of its key. -/
theorem Json.readFields_last (asked : field gathered key = .ok reader)
    (given : reader (value ++ '\x7d' :: rest) = .ok (gathered', '\x7d' :: rest)) (fuel : Nat) :
    Json.readFields field (fuel + 1) gathered
      ((Json.renderString key).toList ++ ':' :: (value ++ '\x7d' :: rest)) =
        .ok (gathered', rest) := by
  have closed : Json.skipBlanks ('\x7d' :: rest) = '\x7d' :: rest := Json.skipBlanks_cons rfl
  rw [Json.readFields]
  simp only [Json.expectKey_bare, Json.readString_escaped, String.ofList_toList, asked,
    Json.expectColon_cons, given, closed, Traversal.ok_bind]
  rfl

/-- The members of an object are gathered from the first key on. -/
theorem Json.readObject_key : Json.readObject field gathered ((Json.renderString key).toList ++ s) =
    Json.readFields field (((Json.renderString key).toList ++ s).length + 1) gathered
      ((Json.renderString key).toList ++ s) := by
  rw [Json.readObject, Json.renderString_toList, List.cons_append, Json.skipBlanks_cons rfl]
  rfl

end Fields

namespace TypeDescriptor

section Text

variable {depth : Nat} {rest : List Char}

/-- The name of a descriptor is read into its place. -/
theorem readMember_name (others : List (String × Value)) :
    readMember depth ⟨none, others⟩ "name" = .ok fun s =>
      (Json.readText "a string" s).map fun (name, rest) => (⟨some name, others⟩, rest) := rfl

/-- Any other member of a descriptor is kept as it is. -/
theorem readMember_other {key : String} (other : key ≠ "name") (found : Gathered) :
    readMember depth found key = .ok fun s =>
      (Value.reader depth s).map fun (v, rest) =>
        (⟨found.name, (key, v) :: found.others⟩, rest) := by
  rw [readMember, if_neg other]

/-- A value is read from its compact form. -/
theorem reader_render {v : Value} (numberless : v.Numberless) (fits : v.nesting ≤ depth) :
    Value.reader depth (v.render.toList ++ rest) = .ok (v, rest) := by
  have enough : 2 * v.render.toList.length ≤ 2 * (v.render.toList ++ rest).length + 2 := by
    rw [List.length_append]
    omega
  exact (Value.reads_render numberless).read _ _ _ enough fits

/-- The members after the name are gathered as they are. -/
theorem readFields_others {m : String × Value} {members : List (String × Value)}
    (other : ∀ n ∈ m :: members, n.1 ≠ "name")
    (numberless : ∀ n ∈ m :: members, n.2.Numberless)
    (shallow : ∀ n ∈ m :: members, n.2.nesting ≤ depth) (found : Gathered) (fuel : Nat)
    (enough : members.length < fuel) :
    Json.readFields (readMember depth) fuel found
      ([','].intercalate ((m :: members).map Value.memberText) ++ '\x7d' :: rest) =
        .ok (⟨found.name, (m :: members).reverse ++ found.others⟩, rest) := by
  obtain ⟨fuel, rfl⟩ : ∃ n, fuel = n + 1 := ⟨fuel - 1, by omega⟩
  have asked : readMember depth found m.1 = _ :=
    readMember_other (other m List.mem_cons_self) found
  have given (s : List Char) : Value.reader depth (m.2.render.toList ++ s) = .ok (m.2, s) :=
    reader_render (numberless m List.mem_cons_self) (shallow m List.mem_cons_self)
  induction members generalizing m found fuel with
  | nil =>
    have text : [','].intercalate ([m].map Value.memberText) ++ '\x7d' :: rest =
        (Json.renderString m.1).toList ++ ':' :: (m.2.render.toList ++ '\x7d' :: rest) := by
      simp [Value.memberText]
    rw [text]
    exact Json.readFields_last asked (by simp only [given]; rfl) fuel
  | cons n members ih =>
    have text : [','].intercalate ((m :: n :: members).map Value.memberText) ++ '\x7d' :: rest =
        (Json.renderString m.1).toList ++ ':' :: (m.2.render.toList ++
          ',' :: ([','].intercalate ((n :: members).map Value.memberText) ++ '\x7d' :: rest)) := by
      simp [Value.memberText, List.intercalate_cons_cons]
    rw [List.length_cons] at enough
    obtain ⟨fuel, rfl⟩ : ∃ n, fuel = n + 1 := ⟨fuel - 1, by omega⟩
    have next : n ∈ m :: n :: members := by simp
    rw [text, Json.readFields_next asked (by simp only [given]; rfl),
      ih (fun u member => other u (List.mem_cons_of_mem _ member))
        (fun u member => numberless u (List.mem_cons_of_mem _ member))
        (fun u member => shallow u (List.mem_cons_of_mem _ member)) _ fuel (by omega)
        (readMember_other (other n next) _)
        (fun s => reader_render (numberless n next) (shallow n next))]
    simp

/-- A descriptor is nested by one object deeper than what belongs to its kind. -/
theorem toJson_nesting_le (t : TypeDescriptor) :
    t.toJson.nesting ≤ depth + 1 ↔ ∀ m ∈ t.kind.toMembers, m.2.nesting ≤ depth := by
  have name : (Value.string t.name).nesting ≤ depth := Nat.zero_le _
  have kind : (Value.string t.kind.label.name).nesting ≤ depth := Nat.zero_le _
  rw [toJson, Value.nesting, Nat.add_le_add_iff_right, Value.membersNesting_le,
    List.forall_mem_cons, List.forall_mem_cons]
  exact ⟨fun all => all.2.2, fun payload => ⟨name, kind, payload⟩⟩

/-- The members of a descriptor are gathered from its text. -/
theorem readObject_written (t : TypeDescriptor)
    (shallow : ∀ m ∈ t.kind.toMembers, m.2.nesting ≤ depth) :
    Json.readObject (readMember depth) ⟨none, []⟩ ((Json.renderMembers (("name", .string t.name) ::
      ("kind", .string t.kind.label.name) :: t.kind.toMembers)).toList ++ '\x7d' :: rest) =
        .ok (⟨some t.name, (("kind", .string t.kind.label.name) :: t.kind.toMembers).reverse⟩,
          rest) := by
  obtain ⟨key, value, members, other, -, numberless⟩ := t.kind.toMembers_eq
  rw [members] at shallow ⊢
  have others : ∀ n ∈ [("kind", Value.string t.kind.label.name), (key, value)],
      n.1 ≠ "name" ∧ n.2.Numberless ∧ n.2.nesting ≤ depth := by
    intro n member
    simp only [List.mem_cons, List.not_mem_nil, or_false] at member
    rcases member with rfl | rfl
    · exact ⟨show "kind" ≠ "name" by decide, .string _, Nat.zero_le _⟩
    · exact ⟨other, numberless, shallow _ (by simp)⟩
  have text : (Json.renderMembers [("name", Value.string t.name),
      ("kind", .string t.kind.label.name), (key, value)]).toList ++ '\x7d' :: rest =
        (Json.renderString "name").toList ++ ':' :: ((Json.renderString t.name).toList ++
          ',' :: ([','].intercalate ([("kind", Value.string t.kind.label.name), (key, value)].map
            Value.memberText) ++ '\x7d' :: rest)) := by
    simp [Json.renderMembers, Value.render, Value.memberText, List.intercalate_cons_cons]
  rw [text, Json.readObject_key, Json.readFields_next (readMember_name []) (by
      simp only [Json.readText_written]; rfl),
    readFields_others (fun n member => (others n member).1) (fun n member => (others n member).2.1)
      (fun n member => (others n member).2.2)]
  · simp
  · rw [Json.renderString_toList]
    simp only [List.length_append, List.length_cons, List.length_nil]
    omega

/-- A descriptor is read from the text of its JSON form. -/
theorem reader_written (t : TypeDescriptor) (fits : t.toJson.nesting ≤ depth) :
    reader depth (t.toJson.render.toList ++ rest) = .ok (t, rest) := by
  obtain ⟨depth, rfl⟩ : ∃ n, depth = n + 1 := by
    rw [toJson, Value.nesting] at fits
    exact ⟨depth - 1, by omega⟩
  rw [toJson_nesting_le] at fits
  have text : t.toJson.render.toList ++ rest = '\x7b' :: ((Json.renderMembers
      (("name", .string t.name) :: ("kind", .string t.kind.label.name) ::
        t.kind.toMembers)).toList ++ '\x7d' :: rest) := by
    simp [toJson, Value.render]
  have opened (s : List Char) : Json.skipBlanks ('\x7b' :: s) = '\x7b' :: s :=
    Json.skipBlanks_cons rfl
  have resolved : Gathered.resolve ⟨some t.name,
      (("kind", .string t.kind.label.name) :: t.kind.toMembers).reverse⟩ = .ok t := by
    rw [Gathered.resolve]
    simp only [List.reverse_reverse, TypeKind.ofMembers_toMembers, Traversal.ok_bind]
    rfl
  have shaped : FieldType.shaped (Gathered.resolve ⟨some t.name,
      (("kind", .string t.kind.label.name) :: t.kind.toMembers).reverse⟩) = .ok t :=
    mapError_eq_ok.2 resolved
  rw [text, reader, opened]
  simp only [readObject_written t fits, Traversal.ok_bind, shaped]
  rfl

end Text

end TypeDescriptor

end RecordTyping

import RecordTyping.Proofs.DescriptorReading

/-!
# Reading and writing descriptors

A descriptor may be given in several forms: its keys in any order and among unknown ones, its fields
as objects or as pairs, a plain type with something that says nothing. Whatever form it was read
from, its own JSON form is nested no deeper, so that writing it and reading it again changes
nothing.
-/

namespace RecordTyping

open Json (Value)
open Traversal (map_eq_ok mapError_eq_ok bind_eq_ok mapM_ok_results)

section Fields

variable {σ : Type} {field : σ → String → Except Json.ReadError (Json.Reader σ)}
  {gathered gathered' : σ} {s rest : List Char}

/-- What every member preserves holds of what is gathered from all of them. -/
theorem Json.readFields_invariant {inv : σ → Prop}
    (step : ∀ gathered key reader s gathered' rest, inv gathered → field gathered key = .ok reader →
      reader s = .ok (gathered', rest) → inv gathered') {fuel : Nat} (start : inv gathered)
    (read : Json.readFields field fuel gathered s = .ok (gathered', rest)) : inv gathered' := by
  induction fuel generalizing gathered s with
  | zero => cases read
  | succ fuel ih =>
    rw [Json.readFields] at read
    obtain ⟨_, -, read⟩ := bind_eq_ok.1 read
    obtain ⟨⟨key, _⟩, -, read⟩ := bind_eq_ok.1 read
    obtain ⟨reader, asked, read⟩ := bind_eq_ok.1 read
    obtain ⟨_, -, read⟩ := bind_eq_ok.1 read
    obtain ⟨⟨next, after⟩, given, read⟩ := bind_eq_ok.1 read
    have kept := step _ _ _ _ _ _ start asked given
    dsimp only at read
    split at read
    · exact ih kept read
    · cases read
      exact kept
    · cases read

/-- What every member preserves holds of what is gathered from an object. -/
theorem Json.readObject_invariant {inv : σ → Prop}
    (step : ∀ gathered key reader s gathered' rest, inv gathered → field gathered key = .ok reader →
      reader s = .ok (gathered', rest) → inv gathered') (start : inv gathered)
    (read : Json.readObject field gathered s = .ok (gathered', rest)) : inv gathered' := by
  rw [Json.readObject] at read
  split at read
  · cases read
    exact start
  · exact Json.readFields_invariant step start read

end Fields

namespace FieldDecl

variable {depth : Nat}

/-- No member makes the type of a field nested deeper than the member. -/
theorem gather_nesting {found found' : KeyPair String FieldType} {m : String × Value}
    (kept : ∀ type ∈ found.second, type.toJson.nesting ≤ depth) (shallow : m.2.nesting ≤ depth)
    (read : gather found m = .ok found') :
    ∀ type ∈ found'.second, type.toJson.nesting ≤ depth := by
  unfold gather at read
  split at read
  case h_1 =>
    split at read
    · cases read
    · obtain ⟨_, -, same⟩ := bind_eq_ok.1 read
      cases same
      exact kept
  case h_2 =>
    split at read
    · cases read
    · obtain ⟨type, given, same⟩ := bind_eq_ok.1 read
      cases same
      intro _ member
      obtain rfl := Option.mem_some.1 member
      exact Nat.le_trans (FieldType.ofJson_nesting given) shallow
  case h_3 =>
    cases read
    exact kept

/-- No members make the type of a field nested deeper than them. -/
theorem foldlM_gather_nesting {found found' : KeyPair String FieldType}
    {members : List (String × Value)} (kept : ∀ type ∈ found.second, type.toJson.nesting ≤ depth)
    (shallow : ∀ m ∈ members, m.2.nesting ≤ depth)
    (read : members.foldlM gather found = .ok found') :
    ∀ type ∈ found'.second, type.toJson.nesting ≤ depth := by
  induction members generalizing found with
  | nil =>
    cases read
    exact kept
  | cons m members ih =>
    rw [List.foldlM_cons] at read
    obtain ⟨next, first, others⟩ := bind_eq_ok.1 read
    exact ih (gather_nesting kept (shallow m List.mem_cons_self) first)
      (fun n member => shallow n (List.mem_cons_of_mem _ member)) others

/-- A field that is had from a value is nested no deeper than the value. -/
theorem ofJson_nesting {d : FieldDecl} {v : Value} (read : ofJson v = .ok d) :
    d.toJson.nesting ≤ v.nesting := by
  have deep : d.toJson.nesting = d.type.toJson.nesting + 1 := by
    simp [toJson, Value.nesting, Value.membersNesting]
  rw [deep]
  cases v with
  | object members =>
    obtain ⟨found, gathered, read⟩ := bind_eq_ok.1 read
    have inside := foldlM_gather_nesting (by simp)
      (Value.membersNesting_le.1 (Nat.le_refl (Value.membersNesting members))) gathered
    split at read
    · cases read
    · cases read
    case h_3 name type _ given =>
      cases read
      exact Nat.succ_le_succ (inside type given)
  | array items =>
    rcases items with _ | ⟨name, _ | ⟨type, _ | ⟨next, rest⟩⟩⟩
    · cases read
    · obtain ⟨_, -, read⟩ := bind_eq_ok.1 read
      cases read
    · obtain ⟨_, -, read⟩ := bind_eq_ok.1 read
      obtain ⟨_, given, same⟩ := bind_eq_ok.1 read
      cases same
      have inside := Value.itemsNesting_le.1 (Nat.le_refl (Value.itemsNesting [name, type])) type
        (by simp)
      exact Nat.succ_le_succ (Nat.le_trans (FieldType.ofJson_nesting given) inside)
    · obtain ⟨_, -, read⟩ := bind_eq_ok.1 read
      obtain ⟨_, -, read⟩ := bind_eq_ok.1 read
      cases read
  | _ => cases read

end FieldDecl

namespace TypeKind

/-- A member that gives the kind may be the first only, and any other is kept. -/
theorem splitLabel_cons (label : Option KindLabel) (m : String × Value)
    (members : List (String × Value)) : splitLabel label (m :: members) =
      if m.1 = "kind" then
        match label with
        | some _ => .error (.duplicateField "kind")
        | none => do splitLabel (some (← labelOf m.2)) members
      else do
        let (label, others) ← splitLabel label members
        return (label, m :: others) := by
  cases label <;> rw [splitLabel]

/-- Splitting the label off keeps only members that were there. -/
theorem splitLabel_members {label : Option KindLabel} {members : List (String × Value)}
    {kind : KindLabel} {others : List (String × Value)}
    (split : splitLabel label members = .ok (kind, others)) : ∀ m ∈ others, m ∈ members := by
  induction members generalizing label others with
  | nil =>
    cases label with
    | none => cases split
    | some label =>
      cases split
      exact fun m member => member
  | cons m members ih =>
    rw [splitLabel_cons] at split
    split at split
    · cases label with
      | some label => cases split
      | none =>
        obtain ⟨_, -, split⟩ := bind_eq_ok.1 split
        exact fun n member => List.mem_cons_of_mem _ (ih split n member)
    · obtain ⟨⟨_, kept⟩, later, same⟩ := bind_eq_ok.1 split
      cases same
      intro n member
      rcases List.mem_cons.1 member with rfl | member
      · exact List.mem_cons_self
      · exact List.mem_cons_of_mem _ (ih later n member)

/-- A member of the key may be the first of it only, and any other is passed over. -/
theorem readOnly_cons {α : Type} (key : String) (read : Value → Except ShapeError α)
    (found : Option α) (m : String × Value) (members : List (String × Value)) :
    readOnly key read found (m :: members) =
      if m.1 = key then
        match found with
        | some _ => .error (.duplicateField key)
        | none => do readOnly key read (some (← read m.2)) members
      else readOnly key read found members := by
  cases found <;> rw [readOnly]

/-- What is read under a key comes from one of its values. -/
theorem readOnly_value {α : Type} {key : String} {read : Value → Except ShapeError α}
    {found : Option α} {members : List (String × Value)} {a : α}
    (given : readOnly key read found members = .ok a) :
    found = some a ∨ ∃ m ∈ members, read m.2 = .ok a := by
  induction members generalizing found with
  | nil =>
    cases found with
    | none => cases given
    | some b =>
      cases given
      exact .inl rfl
  | cons m members ih =>
    rw [readOnly_cons] at given
    split at given
    · cases found with
      | some b => cases given
      | none =>
        obtain ⟨b, here, given⟩ := bind_eq_ok.1 given
        rcases ih given with same | ⟨n, member, later⟩
        · obtain rfl := Option.some.inj same
          exact .inr ⟨m, List.mem_cons_self, here⟩
        · exact .inr ⟨n, List.mem_cons_of_mem _ member, later⟩
    · rcases ih given with same | ⟨n, member, later⟩
      · exact .inl same
      · exact .inr ⟨n, List.mem_cons_of_mem _ member, later⟩

/-- An array of values that are read from the items of another one is nested no deeper than it. -/
theorem sequence_nesting {α : Type} {read : Value → Except ShapeError α} {write : α → Value}
    {v : Value} {results : List α}
    (each : ∀ item a, read item = .ok a → (write a).nesting ≤ item.nesting)
    (given : (v.asSequence "a sequence" >>= fun items => items.mapM read) = .ok results) :
    (Value.array (results.map write)).nesting ≤ v.nesting := by
  obtain ⟨items, sequence, given⟩ := bind_eq_ok.1 given
  cases v with
  | array all =>
    cases sequence
    refine Nat.succ_le_succ (Value.itemsNesting_le.2 fun w member => ?_)
    obtain ⟨a, listed, rfl⟩ := List.mem_map.1 member
    obtain ⟨item, inside, made⟩ := mapM_ok_results given a listed
    exact Nat.le_trans (each item a made)
      (Value.itemsNesting_le.1 (Nat.le_refl (Value.itemsNesting items)) item inside)
  | _ => cases sequence

/-- What belongs to a kind is nested no deeper than the members that it is had from. -/
theorem ofMembers_nesting {members : List (String × Value)} {kind : TypeKind} {depth : Nat}
    (shallow : ∀ m ∈ members, m.2.nesting ≤ depth) (read : ofMembers members = .ok kind) :
    ∀ m ∈ kind.toMembers, m.2.nesting ≤ depth := by
  obtain ⟨⟨label, others⟩, split, read⟩ := bind_eq_ok.1 read
  have kept := splitLabel_members split
  have bounded {α : Type} {key : String} {read : Value → Except ShapeError α} {a : α} {v : Value}
      (given : readOnly key read none others = .ok a)
      (each : ∀ w, read w = .ok a → v.nesting ≤ w.nesting) : v.nesting ≤ depth := by
    rcases readOnly_value given with absent | ⟨m, member, here⟩
    · cases absent
    · exact Nat.le_trans (each m.2 here) (shallow m (kept m member))
  intro m member
  cases label with
  | record =>
    obtain ⟨fields, given, same⟩ := bind_eq_ok.1 read
    cases same
    obtain rfl := List.mem_singleton.1 member
    exact bounded given fun w => sequence_nesting fun _ _ => FieldDecl.ofJson_nesting
  | scalar =>
    obtain ⟨type, given, same⟩ := bind_eq_ok.1 read
    cases same
    obtain rfl := List.mem_singleton.1 member
    exact bounded given fun w => FieldType.ofJson_nesting
  | enumeration =>
    obtain ⟨variants, given, same⟩ := bind_eq_ok.1 read
    cases same
    obtain rfl := List.mem_singleton.1 member
    exact bounded given fun w => sequence_nesting fun _ _ _ => Nat.zero_le _

end TypeKind

namespace TypeDescriptor

/-- No member that is gathered is nested deeper than allowed. -/
theorem readMember_nesting {depth : Nat} (found : Gathered) (key : String)
    (reader : Json.Reader Gathered) (s : List Char) (found' : Gathered) (rest : List Char)
    (kept : ∀ m ∈ found.others, m.2.nesting ≤ depth)
    (asked : readMember depth found key = .ok reader) (read : reader s = .ok (found', rest)) :
    ∀ m ∈ found'.others, m.2.nesting ≤ depth := by
  unfold readMember at asked
  split at asked
  · split at asked
    · cases asked
    · cases asked
      obtain ⟨_, -, same⟩ := map_eq_ok.1 read
      cases same
      exact kept
  · cases asked
    obtain ⟨⟨v, _⟩, given, same⟩ := map_eq_ok.1 read
    cases same
    exact List.forall_mem_cons.2 ⟨Json.Value.reader_nesting given, kept⟩

/-- A descriptor that is read from a text is nested no deeper than allowed. -/
theorem reader_nesting {t : TypeDescriptor} {depth : Nat} {s rest : List Char}
    (read : reader depth s = .ok (t, rest)) : t.toJson.nesting ≤ depth := by
  rw [reader] at read
  split at read
  case h_2 => cases read
  case h_1 inside _ =>
    cases depth with
    | zero => cases read
    | succ depth =>
      obtain ⟨⟨found, after⟩, gathered, read⟩ := bind_eq_ok.1 read
      obtain ⟨descriptor, shaped, same⟩ := bind_eq_ok.1 read
      cases same
      have resolved := mapError_eq_ok.1 shaped
      have shallow := Json.readObject_invariant readMember_nesting
        (fun _ member => absurd member List.not_mem_nil) gathered
      unfold Gathered.resolve at resolved
      split at resolved
      · cases resolved
      · obtain ⟨kind, made, same⟩ := bind_eq_ok.1 resolved
        cases same
        rw [toJson_nesting_le]
        exact TypeKind.ofMembers_nesting
          (fun m member => shallow m (List.mem_reverse.1 member)) made

end TypeDescriptor

section Texts

variable {α : Type} {reader : Json.Reader α} {s : String} {a : α}

/-- What is read of a whole text is taken off its front. -/
theorem Json.readAll_reader (read : Json.readAll reader s = .ok a) :
    ∃ rest, reader s.toList = .ok (a, rest) := by
  obtain ⟨⟨v, rest⟩, taken, read⟩ := bind_eq_ok.1 read
  dsimp only at read
  split at read
  · cases read
    exact ⟨rest, taken⟩
  · cases read

/-- What is taken off the front of a text with nothing after it is what is read of the text. -/
theorem Json.readAll_of_reader (taken : reader (s.toList ++ []) = .ok (a, [])) :
    Json.readAll reader s = .ok a := by
  rw [List.append_nil] at taken
  rw [Json.readAll, taken]
  rfl

end Texts

/-- A type is read back from its text exactly when its JSON form is nested no deeper than
allowed. -/
theorem FieldType.read_render (t : FieldType) :
    FieldType.read t.toJson.render = .ok t ↔ t.toJson.nesting ≤ Json.nestingAllowance := by
  constructor
  · intro read
    obtain ⟨rest, taken⟩ := Json.readAll_reader read
    exact FieldType.reader_nesting taken
  · intro fits
    exact Json.readAll_of_reader (FieldType.reader_written t fits [])

/-- A descriptor is read back from its text exactly when its JSON form is nested no deeper than
allowed. -/
theorem TypeDescriptor.read_render (t : TypeDescriptor) :
    TypeDescriptor.read t.toJson.render = .ok t ↔ t.toJson.nesting ≤ Json.nestingAllowance := by
  constructor
  · intro read
    obtain ⟨rest, taken⟩ := Json.readAll_reader read
    exact TypeDescriptor.reader_nesting taken
  · intro fits
    exact Json.readAll_of_reader (TypeDescriptor.reader_written t fits)

/-- Descriptors and types are read back from their texts, exactly as far as the reader lets
containers be nested, and writing a descriptor that was read, in whatever form, and reading it again
changes nothing. -/
theorem descriptor_roundTrip :
    (∀ t : TypeDescriptor, TypeDescriptor.read t.toJson.render = .ok t ↔
      t.toJson.nesting ≤ Json.nestingAllowance) ∧
    (∀ t : FieldType, FieldType.read t.toJson.render = .ok t ↔
      t.toJson.nesting ≤ Json.nestingAllowance) ∧
    ∀ (s : String) (t : TypeDescriptor), TypeDescriptor.read s = .ok t →
      TypeDescriptor.read t.toJson.render = .ok t := by
  refine ⟨TypeDescriptor.read_render, FieldType.read_render, fun s t read => ?_⟩
  obtain ⟨rest, taken⟩ := Json.readAll_reader read
  exact (TypeDescriptor.read_render t).2 (TypeDescriptor.reader_nesting taken)

/-- The text of a record with a field as a pair, unknown keys and the name at the end. -/
def looseText : String :=
  "\x7b\"fields\": [[\"id\", \x7b\"integer\": null\x7d], " ++
    "\x7b\"type\": \x7b\"nilable\": \"string\"\x7d, \"note\": 1, \"name\": \"title\"\x7d], " ++
    "\"more\": [], \"kind\": \"record\", \"name\": \"Row\"\x7d"

/-- The record of this text. -/
def looseDescriptor : TypeDescriptor :=
  ⟨"Row", .record ⟨[⟨"id", .integer⟩, ⟨"title", .nilable .string⟩]⟩⟩

/-- The record is read from this text, and from its own text again. -/
theorem descriptor_roundTrip_loose : TypeDescriptor.read looseText = .ok looseDescriptor ∧
    TypeDescriptor.read looseDescriptor.toJson.render = .ok looseDescriptor := by
  have read : TypeDescriptor.read looseText = .ok looseDescriptor := by decide +kernel
  exact ⟨read, descriptor_roundTrip.2.2 looseText looseDescriptor read⟩

end RecordTyping

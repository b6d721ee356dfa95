import RecordTyping.Proofs.JsonReading
import RecordTyping.Proofs.Traversal

/-!
# Nesting of what is read

A reader that may nest containers up to an allowance returns no value that is nested deeper.
-/

namespace RecordTyping.Json

open Traversal (map_eq_ok bind_eq_ok)

/-- A double that may be missing holds no containers. -/
theorem double_nesting {d : Option Binary64} {v : Value} (given : d.map .double = some v) :
    v.nesting = 0 := by
  obtain ⟨_, -, rfl⟩ := Option.map_eq_some_iff.1 given
  rfl

/-- A number holds no containers. -/
theorem NumberText.value?_nesting {t : NumberText} {v : Value} (given : t.value? = some v) :
    v.nesting = 0 := by
  unfold value? at given
  split at given
  case h_1 =>
    by_cases zero : (t.negative && ((Text.digitsValue t.whole : Int) = 0 : Bool)) = true
    · rw [if_pos zero] at given
      cases given
      rfl
    · rw [if_neg zero] at given
      split at given
      · cases given
        rfl
      · exact double_nesting given
  case h_2 => exact double_nesting given

theorem readNumber_nesting {strict : Bool} {s rest : List Char} {v : Value}
    (read : readNumber strict s = .ok (v, rest)) : v.nesting = 0 := by
  obtain ⟨⟨t, after⟩, -, read⟩ := bind_eq_ok.1 read
  dsimp only at read
  split at read
  case h_1 number given =>
    cases read
    exact NumberText.value?_nesting given
  case h_2 =>
    split at read
    · cases read
    · cases read
      rfl

section Steps

variable {strict : Bool} {fuel depth : Nat} {s rest : List Char}

/-- A value is nested no deeper than allowed if this holds of what is inside it. -/
theorem readValue_nesting_step
    (items : ∀ depth s vs rest, readItems strict fuel depth s = .ok (vs, rest) →
      ∀ v ∈ vs, v.nesting ≤ depth)
    (members : ∀ depth s ms rest, readMembers strict fuel depth s = .ok (ms, rest) →
      ∀ m ∈ ms, m.2.nesting ≤ depth)
    {v : Value} (read : readValue strict (fuel + 1) depth s = .ok (v, rest)) :
    v.nesting ≤ depth := by
  rw [readValue] at read
  split at read
  case h_1 => cases read
  case h_2 | h_3 | h_4 | h_5 =>
    obtain ⟨_, -, same⟩ := map_eq_ok.1 read
    cases same
    exact Nat.zero_le _
  case h_6 =>
    cases depth with
    | zero => cases read
    | succ depth =>
      dsimp only at read
      split at read
      · cases read
        exact Nat.succ_le_succ (Nat.zero_le _)
      · obtain ⟨_, inside, same⟩ := map_eq_ok.1 read
        cases same
        exact Nat.succ_le_succ (Value.itemsNesting_le.2 (items _ _ _ _ inside))
  case h_7 =>
    cases depth with
    | zero => cases read
    | succ depth =>
      dsimp only at read
      split at read
      · cases read
        exact Nat.succ_le_succ (Nat.zero_le _)
      · obtain ⟨_, inside, same⟩ := map_eq_ok.1 read
        cases same
        exact Nat.succ_le_succ (Value.membersNesting_le.2 (members _ _ _ _ inside))
  case h_8 =>
    split at read
    · rw [readNumber_nesting read]
      exact Nat.zero_le _
    · cases read

/-- Items are nested no deeper than allowed if this holds of values and of the further items. -/
theorem readItems_nesting_step
    (values : ∀ depth s v rest, readValue strict fuel depth s = .ok (v, rest) → v.nesting ≤ depth)
    (items : ∀ depth s vs rest, readItems strict fuel depth s = .ok (vs, rest) →
      ∀ v ∈ vs, v.nesting ≤ depth)
    {vs : List Value} (read : readItems strict (fuel + 1) depth s = .ok (vs, rest)) :
    ∀ v ∈ vs, v.nesting ≤ depth := by
  rw [readItems] at read
  obtain ⟨⟨first, after⟩, found, read⟩ := bind_eq_ok.1 read
  have here := values _ _ _ _ found
  dsimp only at read
  split at read
  · obtain ⟨⟨others, after⟩, later, same⟩ := bind_eq_ok.1 read
    cases same
    exact List.forall_mem_cons.2 ⟨here, items _ _ _ _ later⟩
  · cases read
    exact List.forall_mem_singleton.2 here
  · cases read

/-- Members are nested no deeper than allowed if this holds of values and of the further
members. -/
theorem readMembers_nesting_step
    (values : ∀ depth s v rest, readValue strict fuel depth s = .ok (v, rest) → v.nesting ≤ depth)
    (members : ∀ depth s ms rest, readMembers strict fuel depth s = .ok (ms, rest) →
      ∀ m ∈ ms, m.2.nesting ≤ depth)
    {ms : List (String × Value)} (read : readMembers strict (fuel + 1) depth s = .ok (ms, rest)) :
    ∀ m ∈ ms, m.2.nesting ≤ depth := by
  rw [readMembers] at read
  obtain ⟨_, -, read⟩ := bind_eq_ok.1 read
  obtain ⟨⟨key, _⟩, -, read⟩ := bind_eq_ok.1 read
  obtain ⟨_, -, read⟩ := bind_eq_ok.1 read
  obtain ⟨⟨first, after⟩, found, read⟩ := bind_eq_ok.1 read
  have here := values _ _ _ _ found
  dsimp only at read
  split at read
  · obtain ⟨⟨others, after⟩, later, same⟩ := bind_eq_ok.1 read
    cases same
    exact List.forall_mem_cons.2 ⟨here, members _ _ _ _ later⟩
  · cases read
    exact List.forall_mem_singleton.2 here
  · cases read

end Steps

/-- What is read is nested no deeper than allowed. -/
theorem read_nesting (strict : Bool) (fuel : Nat) :
    (∀ depth s v rest, readValue strict fuel depth s = .ok (v, rest) → v.nesting ≤ depth) ∧
    (∀ depth s vs rest, readItems strict fuel depth s = .ok (vs, rest) →
      ∀ v ∈ vs, v.nesting ≤ depth) ∧
    ∀ depth s ms rest, readMembers strict fuel depth s = .ok (ms, rest) →
      ∀ m ∈ ms, m.2.nesting ≤ depth := by
  -- Each of the three readers calls the others with less fuel, so the bounds go through together.
  induction fuel with
  | zero =>
    refine ⟨fun _ _ _ _ read => ?_, fun _ _ _ _ read => ?_, fun _ _ _ _ read => ?_⟩ <;> cases read
  | succ fuel ih =>
    obtain ⟨values, items, members⟩ := ih
    exact ⟨fun _ _ _ _ => readValue_nesting_step items members,
      fun _ _ _ _ => readItems_nesting_step values items,
      fun _ _ _ _ => readMembers_nesting_step values members⟩

/-- A value that is taken off the front of a text is nested no deeper than allowed. -/
theorem Value.reader_nesting {depth : Nat} {s rest : List Char} {v : Value}
    (read : Value.reader depth s = .ok (v, rest)) : v.nesting ≤ depth :=
  (read_nesting true _).1 _ _ _ _ read

end RecordTyping.Json

import Mathlib.Data.List.Perm.Basic
import RecordTyping.Json.Value

/-!
# Entries under distinct names

Overrides, records and objects are lists of values under names. Where the names are distinct, the
search for a name finds exactly the entry of that name, and sorting the entries by their names
keeps every one of them.
-/

namespace RecordTyping.Entries

variable {α : Type}

/-- The search for a name finds nothing exactly when no entry has it. -/
theorem find?_eq_none (entries : List (String × α)) (key : String) :
    (entries.find? fun entry => entry.1 == key).map Prod.snd = none ↔
      key ∉ entries.map Prod.fst := by
  rw [Option.map_eq_none_iff, List.find?_eq_none, List.mem_map]
  constructor
  · rintro missing ⟨entry, member, same⟩
    exact missing entry member (by simpa using same)
  · intro absent entry member same
    exact absent ⟨entry, member, by simpa using same⟩

/-- Among distinct names the search finds exactly the value under the name. -/
theorem find?_eq_some {entries : List (String × α)} (distinct : (entries.map Prod.fst).Nodup)
    (key : String) (value : α) :
    (entries.find? fun entry => entry.1 == key).map Prod.snd = some value ↔
      (key, value) ∈ entries := by
  induction entries with
  | nil => simp
  | cons entry rest ih =>
    obtain ⟨name, first⟩ := entry
    rw [List.map_cons, List.nodup_cons] at distinct
    by_cases same : name = key
    · subst same
      have absent : (name, value) ∉ rest :=
        fun member => distinct.1 (List.mem_map.2 ⟨_, member, rfl⟩)
      simp [absent, eq_comm]
    · rw [List.find?_cons_of_neg (by simpa using same), ih distinct.2, List.mem_cons]
      simp [Ne.symm same]

/-- A member of a new name is put among the others. -/
theorem insertSorted_perm (key : String) (value : α) {members : List (String × α)}
    (fresh : key ∉ members.map Prod.fst) :
    (Json.insertSorted key value members).Perm ((key, value) :: members) := by
  induction members with
  | nil => exact List.Perm.refl _
  | cons member rest ih =>
    obtain ⟨name, first⟩ := member
    rw [List.map_cons, List.mem_cons, not_or] at fresh
    simp only [Json.insertSorted, fresh.1, ↓reduceIte]
    split
    · exact List.Perm.refl _
    · exact ((ih fresh.2).cons _).trans (List.Perm.swap _ _ _)

/-- Sorting members onto a list of members keeps all of both when the names are distinct. -/
theorem foldl_insertSorted_perm (members sorted : List (String × α))
    (distinct : ((sorted ++ members).map Prod.fst).Nodup) :
    (members.foldl (fun sorted (key, value) => Json.insertSorted key value sorted) sorted).Perm
      (sorted ++ members) := by
  -- A step moves the first member to the sorted ones, so the names of both together stay distinct.
  induction members generalizing sorted with
  | nil => simp
  | cons member rest ih =>
    obtain ⟨key, value⟩ := member
    have front : (sorted ++ (key, value) :: rest).Perm ((key, value) :: sorted ++ rest) :=
      List.perm_middle
    have apart := ((front.map Prod.fst).nodup_iff).1 distinct
    rw [List.cons_append, List.map_cons, List.nodup_cons] at apart
    have fresh : key ∉ sorted.map Prod.fst := fun known => apart.1 (by simp_all)
    have placed := (insertSorted_perm key value fresh).append_right rest
    have still : ((Json.insertSorted key value sorted ++ rest).map Prod.fst).Nodup :=
      ((placed.trans front.symm).map Prod.fst).nodup_iff.2 distinct
    exact (ih _ still).trans (placed.trans front.symm)

/-- Sorting members of distinct names loses none of them. -/
theorem sortMembers_perm {members : List (String × α)} (distinct : (members.map Prod.fst).Nodup) :
    (Json.sortMembers members).Perm members :=
  foldl_insertSorted_perm members [] distinct

/-- A member that is put among others comes under its own key, and the others stay. -/
theorem key_of_mem_insertSorted {key : String} {value : α} {members : List (String × α)}
    {entry : String × α} (member : entry ∈ Json.insertSorted key value members) :
    entry.1 = key ∨ entry ∈ members := by
  induction members with
  | nil => exact Or.inl (congrArg Prod.fst (List.mem_singleton.1 member))
  | cons first rest ih =>
    rw [Json.insertSorted] at member
    split at member
    · exact (List.mem_cons.1 member).imp (congrArg Prod.fst) (List.mem_cons_of_mem _)
    · split at member
      · exact (List.mem_cons.1 member).imp_left (congrArg Prod.fst)
      · rcases List.mem_cons.1 member with rfl | later
        · exact Or.inr List.mem_cons_self
        · exact (ih later).imp_right (List.mem_cons_of_mem _)

/-- A member is put where the keys go on ascending. -/
theorem insertSorted_ascending (key : String) (value : α) {members : List (String × α)}
    (ascending : members.Pairwise fun a b => a.1 < b.1) :
    (Json.insertSorted key value members).Pairwise fun a b => a.1 < b.1 := by
  induction members with
  | nil => exact List.pairwise_singleton _ _
  | cons first rest ih =>
    obtain ⟨least, others⟩ := List.pairwise_cons.1 ascending
    rw [Json.insertSorted]
    split
    · next same => exact List.pairwise_cons.2 ⟨same ▸ least, others⟩
    · next different =>
      split
      · next less =>
        refine List.pairwise_cons.2 ⟨?_, ascending⟩
        intro entry member
        rcases List.mem_cons.1 member with rfl | later
        · exact less
        · exact String.lt_trans less (least entry later)
      · next notLess =>
        refine List.pairwise_cons.2 ⟨?_, ih others⟩
        intro entry member
        rcases key_of_mem_insertSorted member with own | other
        · exact own ▸ Std.lt_of_le_of_ne (String.not_lt.1 notLess) (Ne.symm different)
        · exact least entry other

/-- Sorted members stand in ascending order of their keys. -/
theorem sortMembers_ascending (members : List (String × α)) :
    (Json.sortMembers members).Pairwise fun a b => a.1 < b.1 := by
  suffices onto : ∀ sorted : List (String × α), (sorted.Pairwise fun a b => a.1 < b.1) →
      (members.foldl (fun sorted (key, value) => Json.insertSorted key value sorted)
        sorted).Pairwise fun a b => a.1 < b.1 from onto [] List.Pairwise.nil
  induction members with
  | nil => exact fun _ ascending => ascending
  | cons member rest ih =>
    intro sorted ascending
    exact ih _ (insertSorted_ascending member.1 member.2 ascending)

end RecordTyping.Entries

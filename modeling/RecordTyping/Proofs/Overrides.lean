import Mathlib.Data.List.Induction
import RecordTyping.Overrides
import RecordTyping.Proofs.Entries

/-!
# Overrides as maps

The overrides are a map from fields to expressions: a field has the expression of its one entry.
Every map of overrides comes from mentions, so that what is shown of all maps is shown of
all sequences of mentions and of nothing else.
-/

namespace RecordTyping.Overrides

variable (o : Overrides)

/-- A field comes from an expression exactly when they are an entry. -/
theorem get?_eq_some (field expression : String) :
    o.get? field = some expression ↔ (field, expression) ∈ o.entries :=
  Entries.find?_eq_some o.distinct field expression

/-- A field has no expression exactly when it is not overridden. -/
theorem get?_eq_none (field : String) : o.get? field = none ↔ field ∉ o.keys :=
  Entries.find?_eq_none o.entries field

/-- The overridden fields are the keys. -/
theorem contains_iff (field : String) : o.contains field = true ↔ field ∈ o.keys := by
  rw [contains, Option.isSome_iff_ne_none, ne_eq, get?_eq_none, not_not]

/-- A field that is new to the entries is put at their end. -/
theorem insertEntry_fresh (field expression : String) {entries : List (String × String)}
    (fresh : field ∉ entries.map Prod.fst) :
    insertEntry field expression entries = entries ++ [(field, expression)] := by
  induction entries with
  | nil => rfl
  | cons entry rest ih =>
    rw [List.map_cons, List.mem_cons, not_or] at fresh
    simp [insertEntry, Ne.symm fresh.1, ih fresh.2]

/-- Mentions of new and distinct fields are appended to the entries. -/
theorem foldl_insert_entries (mentions : List (String × String)) (o : Overrides)
    (distinct : ((o.entries ++ mentions).map Prod.fst).Nodup) :
    (mentions.foldl (fun o (field, expression) => o.insert field expression) o).entries =
      o.entries ++ mentions := by
  induction mentions generalizing o with
  | nil => simp
  | cons mention rest ih =>
    obtain ⟨field, expression⟩ := mention
    have fresh : field ∉ o.entries.map Prod.fst := by
      rw [List.map_append, List.nodup_append] at distinct
      exact fun known => distinct.2.2 field known field (by simp) rfl
    have grown : (o.insert field expression).entries = o.entries ++ [(field, expression)] :=
      insertEntry_fresh field expression fresh
    rw [List.foldl_cons, ih _ (by rw [grown, List.append_assoc]; exact distinct), grown,
      List.append_assoc]
    rfl

/-- Every map of overrides is that of a list of mentions, namely of its entries. -/
theorem ofList_entries : ofList o.entries = o := by
  have same : (ofList o.entries).entries = o.entries :=
    foldl_insert_entries o.entries empty o.distinct
  cases whole : ofList o.entries
  cases o
  simp_all

/-- The search among entries with a new pair finds it for its key, and for any other key what it
found before. -/
theorem find?_insertEntry (field expression key : String) (entries : List (String × String)) :
    ((insertEntry field expression entries).find? fun entry => entry.1 == key).map Prod.snd =
      if key = field then some expression
      else (entries.find? fun entry => entry.1 == key).map Prod.snd := by
  induction entries with
  | nil =>
    by_cases own : key = field
    · simp [insertEntry, own]
    · simp [insertEntry, own, Ne.symm own]
  | cons entry rest ih =>
    obtain ⟨name, value⟩ := entry
    by_cases known : name = field
    · by_cases own : key = field
      · simp [insertEntry, known, own]
      · simp [insertEntry, known, own, Ne.symm own]
    · rw [insertEntry, if_neg known, List.find?_cons, List.find?_cons]
      cases here : name == key with
      | false => exact ih
      | true =>
        have other : key ≠ field := fun own => known ((beq_iff_eq.1 here).trans own)
        simp [other]

/-- After a mention its field has its expression, and every other field what it had. -/
theorem get?_insert (field expression key : String) :
    (o.insert field expression).get? key = if key = field then some expression else o.get? key :=
  find?_insertEntry field expression key o.entries

/-- A mention of a known field changes no key, and any other one comes last. -/
theorem keys_insert (field expression : String) : (o.insert field expression).keys =
    if field ∈ o.keys then o.keys else o.keys ++ [field] :=
  insertEntry_keys field expression o.entries

section Mentions

variable (mentions : List (String × String))

/-- The last mention is put into the overrides of the others. -/
theorem ofList_concat (field expression : String) :
    ofList (mentions ++ [(field, expression)]) = (ofList mentions).insert field expression :=
  List.foldl_concat ..

/-- The fields are overridden in the order of their first mentions. -/
theorem keys_ofList : (ofList mentions).keys = (mentions.map Prod.fst).eraseDups := by
  induction mentions using List.reverseRecOn with
  | nil => rfl
  | append_singleton mentions mention ih =>
    obtain ⟨field, expression⟩ := mention
    rw [ofList_concat, keys_insert, ih, List.map_append, List.eraseDups_append]
    by_cases known : field ∈ mentions.map Prod.fst
    · simp [known, List.removeAll]
    · simp [known, List.removeAll, List.eraseDups_cons]

/-- A field has the expression of its last mention. -/
theorem get?_ofList (field : String) : (ofList mentions).get? field =
    (mentions.reverse.find? fun mention => mention.1 == field).map Prod.snd := by
  induction mentions using List.reverseRecOn with
  | nil => rfl
  | append_singleton mentions mention ih =>
    obtain ⟨name, expression⟩ := mention
    rw [ofList_concat, get?_insert, ih, List.reverse_concat]
    by_cases own : field = name
    · rw [if_pos own, List.find?_cons_of_pos (by simpa using own.symm)]
      rfl
    · rw [if_neg own, List.find?_cons_of_neg (by simpa using Ne.symm own)]

/-- A field has an expression exactly if a mention of the two is the last one of the field. -/
theorem get?_ofList_eq_some (field expression : String) :
    (ofList mentions).get? field = some expression ↔ ∃ before after,
      mentions = before ++ (field, expression) :: after ∧ field ∉ after.map Prod.fst := by
  rw [get?_ofList, Option.map_eq_some_iff]
  constructor
  · rintro ⟨mention, found, rfl⟩
    obtain ⟨own, later, earlier, split, others⟩ := List.find?_eq_some_iff_append.1 found
    obtain rfl := beq_iff_eq.1 own
    refine ⟨earlier.reverse, later.reverse, ?_, ?_⟩
    · rw [← List.reverse_reverse mentions, split]
      simp
    · intro again
      obtain ⟨other, member, same⟩ := List.mem_map.1 again
      simpa [same] using others other (List.mem_reverse.1 member)
  · rintro ⟨before, after, rfl, last⟩
    refine ⟨(field, expression), List.find?_eq_some_iff_append.2 ⟨beq_self_eq_true field,
      after.reverse, before.reverse, by simp, ?_⟩, rfl⟩
    intro other member
    have apart : other.1 ≠ field := fun same =>
      last (List.mem_map.2 ⟨other, List.mem_reverse.1 member, same⟩)
    simpa using apart

end Mentions

end RecordTyping.Overrides

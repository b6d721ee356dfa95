import Mathlib.Data.Finset.Card
import RecordTyping.Proofs.Overrides

/-!
# Overrides and their history

However a map of overrides was built, it has one entry for each field that was mentioned. The
entries stand in the order of the first mentions, and each has the expression of the last one. A
mention touches no entry but that of its own field: all others keep their places and their
expressions.
-/

namespace RecordTyping.Overrides

/-- The mentions by which a map of overrides was built, the earliest first. It begins without any or
with those of a list, and takes one after the other. -/
inductive BuiltBy : List (String × String) → Overrides → Prop where
  | empty : BuiltBy [] empty
  | collected (mentions : List (String × String)) : BuiltBy mentions (ofList mentions)
  | inserted {history : List (String × String)} {o : Overrides} (built : BuiltBy history o)
      (field expression : String) :
      BuiltBy (history ++ [(field, expression)]) (o.insert field expression)
  | added {history : List (String × String)} {o : Overrides} (built : BuiltBy history o)
      (field expression : String) :
      BuiltBy (history ++ [(field, expression)]) (o.adding field expression)

/-- A map of overrides is that of the mentions it was built by, in whichever way. -/
theorem BuiltBy.eq_ofList {history : List (String × String)} {o : Overrides}
    (built : BuiltBy history o) : o = ofList history := by
  induction built with
  | empty => rfl
  | collected mentions => rfl
  | inserted built field expression ih => rw [ofList_concat, ← ih]
  | added built field expression ih => rw [ofList_concat, ← ih, adding]

/-- Every map of overrides has a history, namely its own entries. -/
theorem BuiltBy.of_entries (o : Overrides) : BuiltBy o.entries o := by
  have collected := BuiltBy.collected o.entries
  rw [ofList_entries o] at collected
  exact collected

/-- A mention of a field leaves the entries of all others where they are and as they are. -/
theorem insertEntry_elsewhere {field other : String} (apart : other ≠ field)
    (expression value : String) (entries : List (String × String)) (i : Nat) :
    (insertEntry field expression entries)[i]? = some (other, value) ↔
      entries[i]? = some (other, value) := by
  induction entries generalizing i with
  | nil => cases i <;> simp [insertEntry, Ne.symm apart]
  | cons entry rest ih =>
    obtain ⟨name, given⟩ := entry
    by_cases own : name = field
    · -- the entry that is replaced is of the field itself, before and after
      cases i <;> simp [insertEntry, own, Ne.symm apart]
    · rw [insertEntry, if_neg own]
      cases i with
      | zero => rfl
      | succ i => exact ih i

/-- A field precedes another one when its first mention comes before all mentions of the other. -/
def Precedes (mentions : List (String × String)) (earlier later : String) : Prop :=
  (mentions.map Prod.fst).idxOf earlier < (mentions.map Prod.fst).idxOf later

section Mentions

variable {mentions : List (String × String)} {earlier later field : String}

/-- A further mention does not change which of two mentioned fields precedes the other. -/
theorem Precedes.concat (ordered : Precedes mentions earlier later)
    (first : earlier ∈ mentions.map Prod.fst) (second : later ∈ mentions.map Prod.fst)
    (mention : String × String) : Precedes (mentions ++ [mention]) earlier later := by
  rw [Precedes, List.map_append, List.idxOf_append_of_mem first, List.idxOf_append_of_mem second]
  exact ordered

/-- Every mentioned field precedes a new one. -/
theorem precedes_new (known : earlier ∈ mentions.map Prod.fst)
    (fresh : field ∉ mentions.map Prod.fst) (expression : String) :
    Precedes (mentions ++ [(field, expression)]) earlier field := by
  have inside := List.idxOf_lt_length_of_mem known
  rw [Precedes, List.map_append, List.idxOf_append_of_mem known, List.idxOf_append_of_notMem fresh]
  omega

variable (mentions)

/-- The overridden fields are the mentioned ones. -/
theorem mem_keys_ofList (field : String) :
    field ∈ (ofList mentions).keys ↔ field ∈ mentions.map Prod.fst := by
  rw [keys_ofList, List.mem_eraseDups]

/-- The overridden fields stand in the order of their first mentions. -/
theorem keys_ofList_ascending : (ofList mentions).keys.Pairwise (Precedes mentions) := by
  induction mentions using List.reverseRecOn with
  | nil => exact .nil
  | append_singleton mentions mention ih =>
    obtain ⟨field, expression⟩ := mention
    have known : ∀ name ∈ (ofList mentions).keys, name ∈ mentions.map Prod.fst :=
      fun name => (mem_keys_ofList mentions name).1
    have before : (ofList mentions).keys.Pairwise (Precedes (mentions ++ [(field, expression)])) :=
      ih.imp_of_mem fun first second ordered =>
        ordered.concat (known _ first) (known _ second) (field, expression)
    rw [ofList_concat, keys_insert]
    split
    · exact before
    · next fresh =>
      rw [mem_keys_ofList] at fresh
      refine List.pairwise_append.2 ⟨before, List.pairwise_singleton _ _, ?_⟩
      intro name member last here
      obtain rfl := List.mem_singleton.1 here
      exact precedes_new (known name member) fresh expression

/-- No field is overridden twice, since no field precedes itself. -/
theorem keys_ofList_nodup : (ofList mentions).keys.Nodup := by
  refine (keys_ofList_ascending mentions).imp ?_
  rintro earlier _ ordered rfl
  exact Nat.lt_irrefl _ ordered

/-- There are as many overrides as different fields were mentioned. -/
theorem size_ofList : (ofList mentions).size = (mentions.map Prod.fst).toFinset.card := by
  have same : (mentions.map Prod.fst).toFinset = (ofList mentions).keys.toFinset := by
    ext field
    rw [List.mem_toFinset, List.mem_toFinset, mem_keys_ofList]
  rw [same, List.toFinset_card_of_nodup (keys_ofList_nodup mentions), keys, List.length_map, size]

end Mentions

/-- However they were built, overrides have the mentioned fields, each once and in the order of the
first mentions. A field has the expression of its last mention, and none if it was never mentioned;
there are as many overrides as different fields were mentioned. Every map of overrides has such a
history, and a further mention changes neither the place nor the expression of any other field. -/
theorem history_exact :
    (∀ history o, BuiltBy history o →
      let fields := history.map Prod.fst
      o.keys.Nodup ∧
      (∀ field, field ∈ o.keys ↔ field ∈ fields) ∧
      o.keys.Pairwise (Precedes history) ∧
      (∀ field expression, o.get? field = some expression ↔ ∃ before after,
        history = before ++ (field, expression) :: after ∧ field ∉ after.map Prod.fst) ∧
      (∀ field, o.get? field = none ↔ field ∉ fields) ∧
      o.size = fields.toFinset.card) ∧
    (∀ o, BuiltBy o.entries o) ∧
    ∀ (o : Overrides) (field expression other value : String) (i : Nat), other ≠ field →
      ((o.insert field expression).entries[i]? = some (other, value) ↔
        o.entries[i]? = some (other, value)) := by
  refine ⟨?_, BuiltBy.of_entries, ?_⟩
  · intro history o built fields
    obtain rfl := built.eq_ofList
    refine ⟨keys_ofList_nodup history, mem_keys_ofList history, keys_ofList_ascending history,
      get?_ofList_eq_some history, fun field => ?_, size_ofList history⟩
    rw [get?_eq_none, mem_keys_ofList]
  · intro o field expression other value i apart
    exact insertEntry_elsewhere apart expression value o.entries i

/-- The owner of a widget is mentioned before and after its identity: it stays first, and has the
later expression. -/
theorem history_exact_replaced :
    let history := [("owner", "o.name"), ("id", "w.id"), ("owner", "p.name")]
    let before := (ofList [("owner", "o.name")]).adding "id" "w.id"
    let o := before.insert "owner" "p.name"
    BuiltBy history o ∧ o.keys.Nodup ∧ o.keys.Pairwise (Precedes history) ∧
      o.get? "owner" = some "p.name" ∧ o.get? "color" = none ∧ o.size = 2 ∧
      "id" ≠ "owner" ∧ o.entries[1]? = some ("id", "w.id") := by
  intro history before o
  have built : BuiltBy history o :=
    ((BuiltBy.collected [("owner", "o.name")]).added "id" "w.id").inserted "owner" "p.name"
  obtain ⟨once, -, ordered, last, never, number⟩ := history_exact.1 history o built
  refine ⟨built, once, ordered, (last _ _).2 ?_, (never _).2 (by decide), number, by decide, ?_⟩
  · exact ⟨[("owner", "o.name"), ("id", "w.id")], [], rfl, List.not_mem_nil⟩
  · exact (history_exact.2.2 before "owner" "p.name" "id" "w.id" 1 (by decide)).2 rfl

end RecordTyping.Overrides

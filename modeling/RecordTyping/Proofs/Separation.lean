import Mathlib.Data.List.Basic
import RecordTyping.Proofs.Blanks

/-!
# Texts that can be told apart

Two values are told apart by their texts when, in front of whatever may follow them, equal texts
come only from values that look alike, and then what follows is equal too. Words, lists with
separators and lists that are left out when they are empty keep this of their parts, so that it
holds of a whole text as soon as it holds of each kind of part.
-/

namespace RecordTyping.Text

variable {α β : Type}

/-- A character of an identifier: a letter, a digit or an underscore. All characters beyond ASCII
count as letters. -/
def isWordChar (c : Char) : Bool := c.isAlphanum || c = '_' || 0x80 ≤ c.toNat

/-- A text of at least one character in which all are letters, digits and underscores. Identifiers
are such texts, and the others begin with a digit. -/
def IsWord (s : List Char) : Prop := s ≠ [] ∧ ∀ c ∈ s, isWordChar c = true

instance (s : List Char) : Decidable (IsWord s) :=
  decidable_of_iff (s ≠ [] ∧ s.all isWordChar = true) (and_congr_right fun _ => List.all_eq_true)

/-- A text that does not go on with a word. -/
def EndsWord (s : List Char) : Prop := ∀ c ∈ s.head?, isWordChar c = false

/-- Two values are told apart by what is written of them in front of certain texts: where the whole
texts are equal, a view of the values is equal and what follows them too. -/
def ToldApart (follows : List Char → Prop) (write : α → List Char) (view : α → β) (a b : α) :
    Prop :=
  ∀ x y, follows x → follows y → write a ++ x = write b ++ y → view a = view b ∧ x = y

section Words

variable {u v x y : List Char}

/-- Words are told apart by their own text in front of what is no part of a word. -/
theorem word_cancel (word : IsWord u) (word' : IsWord v) (ends : EndsWord x) (ends' : EndsWord y)
    (same : u ++ x = v ++ y) : u = v ∧ x = y := by
  have first : u = v := by
    rw [← takeWhile_run word.2 ends, same, takeWhile_run word'.2 ends']
  subst first
  exact ⟨rfl, List.append_cancel_left same⟩

/-- A text does not go on with a word where it goes on with another character. -/
theorem endsWord_cons {c : Char} (mark : isWordChar c = false) : EndsWord (c :: x) := by
  intro d first
  obtain rfl := Option.some.inj first
  exact mark

/-- A word begins with none of the other characters. -/
theorem word_ne_cons {c : Char} (word : IsWord u) (mark : isWordChar c = false) :
    u ++ x ≠ c :: y := by
  intro same
  obtain ⟨d, rest, rfl⟩ := List.exists_cons_of_ne_nil word.1
  obtain ⟨rfl, -⟩ := List.cons.inj same
  have letter := word.2 d List.mem_cons_self
  rw [mark] at letter
  cases letter

end Words

section Lists

variable {follows : List Char → Prop} (closes : List Char → Prop) {write : α → List Char}
  {view : α → β} {as bs : List α} {sep x y : List Char}

/-- What follows a value of a list is the next value of the list or what closes it. -/
theorem follows_flatMap (as : List α) (onward : ∀ z, closes z → follows z)
    (next : ∀ a ∈ as, ∀ z, follows (write a ++ z)) (closed : closes x) :
    follows (as.flatMap write ++ x) := by
  cases as with
  | nil => exact onward x closed
  | cons a as =>
    rw [List.flatMap_cons, List.append_assoc]
    exact next a List.mem_cons_self _

/-- Lists of values that are told apart are told apart, where nothing that closes a list can be
taken for one of its values. -/
theorem flatMap_cancel (each : ∀ a ∈ as, ∀ b ∈ bs, ToldApart follows write view a b)
    (onward : ∀ z, closes z → follows z)
    (next : ∀ a ∈ as, ∀ z, follows (write a ++ z) ∧ ¬closes (write a ++ z))
    (next' : ∀ b ∈ bs, ∀ z, follows (write b ++ z) ∧ ¬closes (write b ++ z))
    (closed : closes x) (closed' : closes y)
    (same : as.flatMap write ++ x = bs.flatMap write ++ y) :
    as.map view = bs.map view ∧ x = y := by
  induction as generalizing bs with
  | nil =>
    cases bs with
    | nil => exact ⟨rfl, same⟩
    | cons b bs =>
      rw [List.flatMap_nil, List.nil_append, List.flatMap_cons, List.append_assoc] at same
      exact absurd (same ▸ closed) (next' b List.mem_cons_self _).2
  | cons a as ih =>
    cases bs with
    | nil =>
      rw [List.flatMap_nil, List.nil_append, List.flatMap_cons, List.append_assoc] at same
      exact absurd (same ▸ closed') (next a List.mem_cons_self _).2
    | cons b bs =>
      rw [List.flatMap_cons, List.flatMap_cons, List.append_assoc, List.append_assoc] at same
      have later : ∀ c ∈ as, ∀ z, follows (write c ++ z) ∧ ¬closes (write c ++ z) :=
        fun c member => next c (List.mem_cons_of_mem _ member)
      have later' : ∀ c ∈ bs, ∀ z, follows (write c ++ z) ∧ ¬closes (write c ++ z) :=
        fun c member => next' c (List.mem_cons_of_mem _ member)
      have here := follows_flatMap closes as onward (fun c member z => (later c member z).1) closed
      have here' := follows_flatMap closes bs onward (fun c member z => (later' c member z).1)
        closed'
      obtain ⟨first, rest⟩ := each a List.mem_cons_self b List.mem_cons_self _ _ here here' same
      obtain ⟨others, end_⟩ := ih
        (fun c member d member' =>
          each c (List.mem_cons_of_mem _ member) d (List.mem_cons_of_mem _ member'))
        later later' rest
      exact ⟨by rw [List.map_cons, List.map_cons, first, others], end_⟩

/-- A list with separators is its first value and then every other with a separator before it. -/
theorem intercalate_cons (a : α) (as : List α) :
    sep.intercalate ((a :: as).map write) = write a ++ as.flatMap (fun b => sep ++ write b) := by
  induction as generalizing a with
  | nil => simp
  | cons b as ih =>
    rw [List.map_cons, List.map_cons, List.intercalate_cons_cons, ← List.map_cons, ih,
      List.flatMap_cons]
    simp only [List.append_assoc]

/-- Lists with separators are told apart when their values are, where no separator can be taken for
what closes a list, nor a value for it. -/
theorem intercalate_cancel (each : ∀ a ∈ as, ∀ b ∈ bs, ToldApart follows write view a b)
    (onward : ∀ z, closes z → follows z) (next : ∀ z, follows (sep ++ z) ∧ ¬closes (sep ++ z))
    (begins : ∀ a ∈ as, ∀ z, ¬closes (write a ++ z))
    (begins' : ∀ b ∈ bs, ∀ z, ¬closes (write b ++ z))
    (closed : closes x) (closed' : closes y)
    (same : sep.intercalate (as.map write) ++ x = sep.intercalate (bs.map write) ++ y) :
    as.map view = bs.map view ∧ x = y := by
  have separated (c : α) (z : List Char) :
      follows (sep ++ write c ++ z) ∧ ¬closes (sep ++ write c ++ z) := by
    rw [List.append_assoc]
    exact next _
  cases as with
  | nil =>
    cases bs with
    | nil => exact ⟨rfl, same⟩
    | cons b bs =>
      rw [List.map_nil, List.intercalate_nil, List.nil_append, intercalate_cons,
        List.append_assoc] at same
      exact absurd (same ▸ closed) (begins' b List.mem_cons_self _)
  | cons a as =>
    cases bs with
    | nil =>
      rw [List.map_nil, List.intercalate_nil, List.nil_append, intercalate_cons,
        List.append_assoc] at same
      exact absurd (same ▸ closed') (begins a List.mem_cons_self _)
    | cons b bs =>
      rw [intercalate_cons, intercalate_cons, List.append_assoc, List.append_assoc] at same
      have here := follows_flatMap closes as onward (fun c _ z => (separated c z).1) closed
      have here' := follows_flatMap closes bs onward (fun c _ z => (separated c z).1) closed'
      obtain ⟨first, rest⟩ := each a List.mem_cons_self b List.mem_cons_self _ _ here here' same
      have after : ∀ c ∈ as, ∀ d ∈ bs, ToldApart follows (fun e => sep ++ write e) view c d := by
        intro c member d member' z w hz hw alike
        rw [List.append_assoc, List.append_assoc] at alike
        exact each c (List.mem_cons_of_mem _ member) d (List.mem_cons_of_mem _ member') z w hz hw
          (List.append_cancel_left alike)
      obtain ⟨others, end_⟩ := flatMap_cancel closes after onward
        (fun c _ => separated c) (fun c _ => separated c) closed closed' rest
      exact ⟨by rw [List.map_cons, List.map_cons, first, others], end_⟩

end Lists

section Options

variable {x y : List Char}

/-- A mark that may be left out. -/
def marking (present : Bool) (mark : List Char) : List Char := if present then mark else []

/-- A list with commas between an opening and a closing that are left out when the list is empty. -/
def listing (opening closing : List Char) (write : α → List Char) (items : List α) : List Char :=
  if items.isEmpty then [] else opening ++ [',', ' '].intercalate (items.map write) ++ closing

/-- The marks are told apart from what else may stand in their place. -/
theorem marking_cancel {present present' : Bool} {mark : List Char} {c : Char}
    (front : mark.head? = some c) (other : x.head? ≠ some c) (other' : y.head? ≠ some c)
    (same : marking present mark ++ x = marking present' mark ++ y) :
    present = present' ∧ x = y := by
  have marked (z : List Char) : (mark ++ z).head? = some c := by simp [front]
  cases present with
  | true =>
    cases present' with
    | true => exact ⟨rfl, List.append_cancel_left same⟩
    | false =>
      have alike : mark ++ x = y := same
      exact absurd (alike ▸ marked x) other'
  | false =>
    cases present' with
    | true =>
      have alike : x = mark ++ y := same
      exact absurd (alike ▸ marked y) other
    | false => exact ⟨rfl, same⟩

/-- A text that begins with one of some characters. -/
def Begins (fronts x : List Char) : Prop := ∃ c ∈ fronts, x.head? = some c

/-- A text begins with none of the other characters. -/
theorem Begins.ne {fronts : List Char} {c : Char} (begins : Begins fronts x) (other : c ∉ fronts) :
    x.head? ≠ some c := by
  obtain ⟨d, member, front⟩ := begins
  intro same
  rw [front] at same
  exact other (Option.some.inj same ▸ member)

/-- A text goes on with none of the other characters. -/
theorem Begins.ne_cons {fronts : List Char} {c : Char} (begins : Begins fronts x)
    (other : c ∉ fronts) : x ≠ c :: y := by
  rintro rfl
  exact begins.ne other rfl

/-- A text ends a word if it begins with none of its characters. -/
theorem Begins.endsWord {fronts : List Char} (begins : Begins fronts x)
    (marks : fronts.any isWordChar = false) : EndsWord x := by
  obtain ⟨c, member, front⟩ := begins
  intro d first
  obtain rfl := Option.some.inj (front.symm.trans first)
  exact Bool.eq_false_iff.2 (List.any_eq_false.1 marks c member)

/-- A text with a mark that may be left out begins with the mark or with what comes after it. -/
theorem begins_marking {fronts mark : List Char} {c : Char} (present : Bool)
    (front : mark.head? = some c) (after : Begins fronts x) :
    Begins (c :: fronts) (marking present mark ++ x) := by
  obtain ⟨d, member, begins⟩ := after
  cases present with
  | true => exact ⟨c, List.mem_cons_self, by simp [marking, front]⟩
  | false => exact ⟨d, List.mem_cons_of_mem _ member, begins⟩

/-- A text with a list between brackets begins with the opening or with what comes after it. -/
theorem begins_listing {fronts opening : List Char} {c : Char} (closing : List Char)
    (write : α → List Char) (items : List α) (front : opening.head? = some c)
    (after : Begins fronts x) :
    Begins (c :: fronts) (listing opening closing write items ++ x) := by
  obtain ⟨d, member, begins⟩ := after
  cases items with
  | nil => exact ⟨d, List.mem_cons_of_mem _ member, begins⟩
  | cons a items => exact ⟨c, List.mem_cons_self, by simp [listing, front]⟩

/-- What a value of a list between brackets is followed by: a comma, or the bracket that closes
the list. -/
abbrev EndsItem (x : List Char) : Prop := Begins [',', ')'] x

/-- A comma and a bracket end a word. -/
theorem endsWord_of_endsItem (ends : EndsItem x) : EndsWord x := ends.endsWord (by decide)

/-- Lists between brackets are told apart when their values are. -/
theorem listing_cancel {opening closing : List Char} {write : α → List Char} {view : α → β}
    {as bs : List α} {c : Char} (front : opening.head? = some c)
    (back : closing.head? = some ')')
    (each : ∀ a ∈ as, ∀ b ∈ bs, ToldApart EndsItem write view a b)
    (begins : ∀ a ∈ as, ∀ z, (write a ++ z).head? ≠ some ')')
    (begins' : ∀ b ∈ bs, ∀ z, (write b ++ z).head? ≠ some ')')
    (other : x.head? ≠ some c) (other' : y.head? ≠ some c)
    (same : listing opening closing write as ++ x = listing opening closing write bs ++ y) :
    as.map view = bs.map view ∧ x = y := by
  have opened (items z : List Char) : (opening ++ items ++ z).head? = some c := by simp [front]
  have closed (z : List Char) : (closing ++ z).head? = some ')' := by simp [back]
  cases as with
  | nil =>
    cases bs with
    | nil => exact ⟨rfl, same⟩
    | cons b bs =>
      have alike :
          x = opening ++ [',', ' '].intercalate ((b :: bs).map write) ++ (closing ++ y) := by
        rw [← List.append_assoc]
        exact same
      exact absurd (alike ▸ opened _ _) other
  | cons a as =>
    cases bs with
    | nil =>
      have alike :
          opening ++ [',', ' '].intercalate ((a :: as).map write) ++ (closing ++ x) = y := by
        rw [← List.append_assoc]
        exact same
      exact absurd (alike ▸ opened _ _) other'
    | cons b bs =>
      have alike : [',', ' '].intercalate ((a :: as).map write) ++ (closing ++ x) =
          [',', ' '].intercalate ((b :: bs).map write) ++ (closing ++ y) := by
        rw [← List.append_right_inj opening, ← List.append_assoc, ← List.append_assoc,
          ← List.append_assoc, ← List.append_assoc]
        exact same
      obtain ⟨items, rest⟩ := intercalate_cancel (fun z => z.head? = some ')') each
        (fun z closes => ⟨')', by decide, closes⟩)
        (fun z => ⟨⟨',', by decide, rfl⟩, by simp⟩) begins begins' (closed x) (closed y) alike
      exact ⟨items, List.append_cancel_left rest⟩

end Options

end RecordTyping.Text

import RecordTyping.Json.Reader
import RecordTyping.Proofs.Separation

/-!
# Reading what was written

The reader of values takes a value off the front of a text if the value was written there in the way
of JSON, with blanks wherever they may stand. A string ends at the quotation mark that is not
escaped, and a container at its bracket; numbers are left out, since nothing ends them but what
follows.
-/

namespace RecordTyping.Json

/-- A character with an escape of its own is read from it. -/
theorem readString_escape {d e : Char} (known : escaped? d = some e) (text : List Char) :
    readString true ('\\' :: d :: text) = consChar e (readString true text) := by
  have other : d ≠ 'u' := by
    rintro rfl
    cases known
  rw [readString]
  · rw [known]
  · exact fun _ _ _ _ _ u _ => other u
  · exact other

/-- A character that needs no escape is read as it stands. -/
theorem readString_plain {c : Char} (quote : c ≠ '"') (slash : c ≠ '\\') (shown : 0x20 ≤ c.toNat)
    (text : List Char) : readString true (c :: text) = consChar c (readString true text) := by
  have visible : ¬c.toNat < 0x20 := by omega
  rw [readString]
  · rw [if_neg visible]
  · exact quote
  · exact fun backslash _ => slash backslash
  · exact fun _ _ _ _ _ backslash _ => slash backslash
  · exact fun _ backslash _ => slash backslash
  · exact fun _ _ backslash _ => slash backslash

/-- A control character is read from its code. -/
theorem readString_code {n : Nat} (small : n < 0x20) (text : List Char) :
    readString true ('\\' :: 'u' :: hexDigits 4 n ++ text) =
      consChar (Char.ofNat n) (readString true text) := by
  have values : ∀ n < 0x20, Text.hexValue? (hexDigits 4 n) = some n := by decide
  have value := values n small
  have low : ¬(0xDC00 ≤ n ∧ n ≤ 0xDFFF) := by omega
  have high : ¬(0xD800 ≤ n ∧ n ≤ 0xDBFF) := by omega
  obtain ⟨a, b, c, d, digits⟩ : ∃ a b c d, hexDigits 4 n = [a, b, c, d] := ⟨_, _, _, _, rfl⟩
  rw [digits] at value ⊢
  simp only [List.cons_append, List.nil_append]
  rw [readString, value]
  simp [low, high]

/-- A character is read as itself however it is written in a string. -/
theorem readString_escapeChar (c : Char) (text : List Char) :
    readString true (escapeChar c ++ text) = consChar c (readString true text) := by
  have named (n : Nat) (known : c.toNat = n) : c = Char.ofNat n := by rw [← known, Char.ofNat_toNat]
  unfold escapeChar
  split
  case isTrue quote => subst quote; exact readString_escape rfl text
  split
  case isTrue slash => subst slash; exact readString_escape rfl text
  split
  case isTrue backspace => rw [named _ backspace]; exact readString_escape rfl text
  split
  case isTrue feed => rw [named _ feed]; exact readString_escape rfl text
  split
  case isTrue newline => subst newline; exact readString_escape rfl text
  split
  case isTrue return_ => subst return_; exact readString_escape rfl text
  split
  case isTrue tab => subst tab; exact readString_escape rfl text
  split
  case isTrue control =>
    have code := readString_code control text
    rwa [Char.ofNat_toNat] at code
  case isFalse quote slash _ _ _ _ _ control =>
    exact readString_plain quote slash (by omega) text

/-- A string is read up to its closing quotation mark. -/
theorem readString_escaped (s rest : List Char) :
    readString true (s.flatMap escapeChar ++ '"' :: rest) = .ok (s, rest) := by
  induction s with
  | nil => rfl
  | cons c s ih =>
    rw [List.flatMap_cons, List.append_assoc, readString_escapeChar, ih]
    rfl

/-- A string between its quotation marks. -/
theorem renderString_toList (s : String) :
    (renderString s).toList = '"' :: (s.toList.flatMap escapeChar ++ ['"']) := by
  simp [renderString]

section Blanks

variable {blanks s : List Char}

/-- Blanks at the front are skipped. -/
theorem skipBlanks_append (blank : ∀ c ∈ blanks, isBlank c = true) :
    skipBlanks (blanks ++ s) = skipBlanks s :=
  List.dropWhile_append_of_pos blank

/-- Nothing is skipped in front of another character. -/
theorem skipBlanks_cons {c : Char} (mark : isBlank c = false) : skipBlanks (c :: s) = c :: s :=
  List.dropWhile_cons_of_neg (by simp [mark])

/-- What follows a text that is not blank is kept. -/
theorem skipBlanks_of_eq_cons {c : Char} {tail : List Char} (front : skipBlanks s = c :: tail)
    (rest : List Char) : skipBlanks (s ++ rest) = c :: (tail ++ rest) := by
  rw [skipBlanks] at front ⊢
  rw [List.dropWhile_append, front]
  rfl

/-- The blanks before a value are skipped. -/
theorem readValue_append (blank : ∀ c ∈ blanks, isBlank c = true) (fuel depth : Nat) :
    readValue true fuel depth (blanks ++ s) = readValue true fuel depth s := by
  cases fuel with
  | zero => rfl
  | succ fuel => rw [readValue, readValue, skipBlanks_append blank]

/-- The blanks before an item are skipped. -/
theorem readItems_append (blank : ∀ c ∈ blanks, isBlank c = true) (fuel depth : Nat) :
    readItems true fuel depth (blanks ++ s) = readItems true fuel depth s := by
  cases fuel with
  | zero => rfl
  | succ fuel => rw [readItems, readItems, readValue_append blank]

/-- Skipping blanks first makes no difference to items. -/
theorem readItems_skipBlanks (fuel depth : Nat) :
    readItems true fuel depth (skipBlanks s) = readItems true fuel depth s := by
  have split : s.takeWhile isBlank ++ skipBlanks s = s := List.takeWhile_append_dropWhile
  have blank : ∀ c ∈ s.takeWhile isBlank, isBlank c = true :=
    List.all_eq_true.1 (List.all_takeWhile)
  rw [← readItems_append blank, split]

/-- The blanks before a member are skipped. -/
theorem readMembers_append (blank : ∀ c ∈ blanks, isBlank c = true) (fuel depth : Nat) :
    readMembers true fuel depth (blanks ++ s) = readMembers true fuel depth s := by
  cases fuel with
  | zero => rfl
  | succ fuel => rw [readMembers, readMembers, expectKey, expectKey, skipBlanks_append blank]

/-- Skipping blanks first makes no difference to members. -/
theorem readMembers_skipBlanks (fuel depth : Nat) :
    readMembers true fuel depth (skipBlanks s) = readMembers true fuel depth s := by
  have split : s.takeWhile isBlank ++ skipBlanks s = s := List.takeWhile_append_dropWhile
  have blank : ∀ c ∈ s.takeWhile isBlank, isBlank c = true :=
    List.all_eq_true.1 (List.all_takeWhile)
  rw [← readMembers_append blank, split]

/-- A key is found behind blanks. -/
theorem expectKey_written (blank : ∀ c ∈ blanks, isBlank c = true) (key : String) :
    expectKey (blanks ++ ((renderString key).toList ++ s)) =
      .ok (key.toList.flatMap escapeChar ++ '"' :: s) := by
  rw [expectKey, skipBlanks_append blank, renderString_toList, List.cons_append,
    skipBlanks_cons rfl, List.append_assoc]
  rfl

/-- A colon follows its key. -/
theorem expectColon_cons : expectColon (':' :: s) = .ok s := by
  rw [expectColon, skipBlanks_cons rfl]
  rfl

end Blanks

namespace Value

mutual

/-- How many containers are nested in one another in a value. -/
def nesting : Value → Nat
  | .array items => itemsNesting items + 1
  | .object members => membersNesting members + 1
  | .null => 0
  | .bool _ => 0
  | .integer _ => 0
  | .double _ => 0
  | .string _ => 0

/-- The deepest nesting of the items of an array. -/
def itemsNesting : List Value → Nat
  | [] => 0
  | v :: rest => max v.nesting (itemsNesting rest)

/-- The deepest nesting of the values of an object. -/
def membersNesting : List (String × Value) → Nat
  | [] => 0
  | (_, v) :: rest => max v.nesting (membersNesting rest)

end

/-- The items are nested no deeper than a bound exactly when each of them is not. -/
theorem itemsNesting_le {items : List Value} {depth : Nat} :
    itemsNesting items ≤ depth ↔ ∀ v ∈ items, v.nesting ≤ depth := by
  induction items with
  | nil => simp [itemsNesting]
  | cons v items ih => rw [itemsNesting, Nat.max_le, ih, List.forall_mem_cons]

/-- The values of an object are nested no deeper than a bound exactly when each of them is not. -/
theorem membersNesting_le {members : List (String × Value)} {depth : Nat} :
    membersNesting members ≤ depth ↔ ∀ m ∈ members, m.2.nesting ≤ depth := by
  induction members with
  | nil => simp [membersNesting]
  | cons m members ih => rw [membersNesting, Nat.max_le, ih, List.forall_mem_cons]

/-- A text that is read as a value: it begins, perhaps after blanks, with a character that closes
no array, and where it is taken off the front of a text it gives the value. Twice its length is fuel
enough, since a reading takes a character at every second step at least. -/
structure Reads (v : Value) (text : List Char) : Prop where
  front : ∃ c rest, skipBlanks text = c :: rest ∧ c ≠ ']'
  read : ∀ fuel depth rest, 2 * text.length ≤ fuel → v.nesting ≤ depth →
    readValue true fuel depth (text ++ rest) = .ok (v, rest)

variable {v : Value} {text blanks : List Char}

/-- Blanks may stand before the text of a value. -/
theorem Reads.padded (reads : v.Reads text) (blank : ∀ c ∈ blanks, isBlank c = true) :
    v.Reads (blanks ++ text) where
  front := by
    rw [skipBlanks_append blank]
    exact reads.front
  read fuel depth rest enough shallow := by
    rw [List.append_assoc, readValue_append blank]
    rw [List.length_append] at enough
    exact reads.read fuel depth rest (by omega) shallow

/-- The text of null. -/
theorem reads_null : Reads .null "null".toList where
  front := ⟨'n', "ull".toList, rfl, by decide⟩
  read fuel depth rest enough _ := by
    cases fuel with
    | zero => simp at enough
    | succ fuel => rfl

/-- The text of a truth value. -/
theorem reads_bool (b : Bool) : Reads (.bool b) (if b then "true" else "false").toList where
  front := by
    cases b with
    | true => exact ⟨'t', "rue".toList, rfl, by decide⟩
    | false => exact ⟨'f', "alse".toList, rfl, by decide⟩
  read fuel depth rest enough _ := by
    cases fuel with
    | zero => cases b <;> simp at enough
    | succ fuel => cases b <;> rfl

/-- The text of a string. -/
theorem reads_string (s : String) : Reads (.string s) (renderString s).toList where
  front := by
    rw [renderString_toList]
    exact ⟨'"', _, skipBlanks_cons rfl, by decide⟩
  read fuel depth rest enough _ := by
    rw [renderString_toList] at enough ⊢
    cases fuel with
    | zero => simp at enough
    | succ fuel =>
      have quoted : skipBlanks ('"' :: (s.toList.flatMap escapeChar ++ ['"']) ++ rest) =
        '"' :: (s.toList.flatMap escapeChar ++ '"' :: rest) := by
          rw [List.cons_append, skipBlanks_cons rfl, List.append_assoc]
          rfl
      rw [readValue, quoted]
      simp [readString_escaped, Except.map]

/-- A text that is read as a member: a key, perhaps after blanks, a colon and the text of the
value. -/
def MemberReads (m : String × Value) (text : List Char) : Prop :=
  ∃ blanks value, (∀ c ∈ blanks, isBlank c = true) ∧ m.2.Reads value ∧
    text = blanks ++ ((renderString m.1).toList ++ ':' :: value)

/-- A reader of lists reads what is written with commas between the values if it reads the last
value up to the end of the list, any other one up to its comma, and skips what stands between a
comma and the next value. -/
theorem read_separated {α : Type} (read : Nat → Reader (List α)) {write : α → List Char}
    {items : List α} {sep finish rest : List Char} {fuel : Nat}
    (last : ∀ a ∈ items, ∀ fuel, 2 * (write a).length ≤ fuel →
      read (fuel + 1) (write a ++ finish) = .ok ([a], rest))
    (next : ∀ a ∈ items, ∀ fuel s others, 2 * (write a).length ≤ fuel →
      read fuel s = .ok (others, rest) →
        read (fuel + 1) (write a ++ ',' :: s) = .ok (a :: others, rest))
    (skip : ∀ fuel s, read fuel (sep ++ s) = read fuel s) (some : items ≠ [])
    (enough : 2 * ((',' :: sep).intercalate (items.map write)).length < fuel) :
    read fuel ((',' :: sep).intercalate (items.map write) ++ finish) = .ok (items, rest) := by
  obtain ⟨fuel, rfl⟩ : ∃ n, fuel = n + 1 := ⟨fuel - 1, by omega⟩
  induction items generalizing fuel with
  | nil => exact absurd rfl some
  | cons a items ih =>
    cases items with
    | nil =>
      rw [List.map_singleton, List.intercalate_singleton] at enough ⊢
      exact last a List.mem_cons_self fuel (by omega)
    | cons b items =>
      have more : (',' :: sep).intercalate ((a :: b :: items).map write) =
          write a ++ ',' :: (sep ++ (',' :: sep).intercalate ((b :: items).map write)) := by
        simp [List.intercalate_cons_cons]
      rw [more, List.length_append, List.length_cons, List.length_append] at enough
      obtain ⟨fuel, rfl⟩ : ∃ n, fuel = n + 1 := ⟨fuel - 1, by omega⟩
      have others := ih (fun c member => last c (List.mem_cons_of_mem _ member))
        (fun c member => next c (List.mem_cons_of_mem _ member)) (List.cons_ne_nil _ _) fuel
        (by omega)
      rw [more, List.append_assoc, List.cons_append, List.append_assoc]
      exact next a List.mem_cons_self _ _ _ (by omega) (by rw [skip, others])

section Containers

variable {m : String × Value} {items : List Value} {members : List (String × Value)}
  {sep pad s rest : List Char} {fuel depth : Nat}

/-- The last item of an array. -/
theorem Reads.last (reads : v.Reads text) (padBlank : ∀ c ∈ pad, isBlank c = true)
    (enough : 2 * text.length ≤ fuel) (fits : v.nesting ≤ depth) :
    readItems true (fuel + 1) depth (text ++ (pad ++ ']' :: rest)) = .ok ([v], rest) := by
  have closed : skipBlanks (pad ++ ']' :: rest) = ']' :: rest := by
    rw [skipBlanks_append padBlank, skipBlanks_cons rfl]
  rw [readItems, reads.read fuel depth _ enough fits]
  simp only [bind, Except.bind, closed]
  rfl

/-- An item in front of others. -/
theorem Reads.next (reads : v.Reads text) (enough : 2 * text.length ≤ fuel)
    (fits : v.nesting ≤ depth) (others : readItems true fuel depth s = .ok (items, rest)) :
    readItems true (fuel + 1) depth (text ++ ',' :: s) = .ok (v :: items, rest) := by
  have comma : skipBlanks (',' :: s) = ',' :: s := skipBlanks_cons rfl
  rw [readItems, reads.read fuel depth _ enough fits]
  simp only [bind, Except.bind, comma, others]
  rfl

/-- Items are read up to the bracket that closes them. -/
theorem readItems_written {write : Value → List Char} (sepBlank : ∀ c ∈ sep, isBlank c = true)
    (padBlank : ∀ c ∈ pad, isBlank c = true) (each : ∀ w ∈ items, w.Reads (write w))
    (shallow : ∀ w ∈ items, w.nesting ≤ depth) (some : items ≠ [])
    (enough : 2 * ((',' :: sep).intercalate (items.map write)).length < fuel) (rest : List Char) :
    readItems true fuel depth ((',' :: sep).intercalate (items.map write) ++ (pad ++ ']' :: rest)) =
      .ok (items, rest) :=
  read_separated (fun fuel => readItems true fuel depth)
    (fun w member _ enough => (each w member).last padBlank enough (shallow w member))
    (fun w member _ _ _ enough => (each w member).next enough (shallow w member))
    (fun fuel _ => readItems_append sepBlank fuel depth) some enough

/-- The last member of an object. -/
theorem MemberReads.last (reads : MemberReads m text) (padBlank : ∀ c ∈ pad, isBlank c = true)
    (enough : 2 * text.length ≤ fuel) (fits : m.2.nesting ≤ depth) :
    readMembers true (fuel + 1) depth (text ++ (pad ++ '\x7d' :: rest)) = .ok ([m], rest) := by
  obtain ⟨blanks, value, blank, reads, rfl⟩ := reads
  have closed : skipBlanks (pad ++ '\x7d' :: rest) = '\x7d' :: rest := by
    rw [skipBlanks_append padBlank, skipBlanks_cons rfl]
  rw [List.length_append, List.length_append, List.length_cons] at enough
  have found := reads.read fuel depth (pad ++ '\x7d' :: rest) (by omega) fits
  rw [readMembers]
  simp only [bind, Except.bind, List.append_assoc, List.cons_append, expectKey_written blank,
    readString_escaped, expectColon_cons, found, closed]
  rw [String.ofList_toList]
  rfl

/-- A member in front of others. -/
theorem MemberReads.next (reads : MemberReads m text) (enough : 2 * text.length ≤ fuel)
    (fits : m.2.nesting ≤ depth) (others : readMembers true fuel depth s = .ok (members, rest)) :
    readMembers true (fuel + 1) depth (text ++ ',' :: s) = .ok (m :: members, rest) := by
  obtain ⟨blanks, value, blank, reads, rfl⟩ := reads
  have comma : skipBlanks (',' :: s) = ',' :: s := skipBlanks_cons rfl
  rw [List.length_append, List.length_append, List.length_cons] at enough
  have found := reads.read fuel depth (',' :: s) (by omega) fits
  rw [readMembers]
  simp only [bind, Except.bind, List.append_assoc, List.cons_append, expectKey_written blank,
    readString_escaped, expectColon_cons, found, comma, others]
  rw [String.ofList_toList]
  rfl

/-- Members are read up to the brace that closes them. -/
theorem readMembers_written {write : String × Value → List Char}
    (sepBlank : ∀ c ∈ sep, isBlank c = true) (padBlank : ∀ c ∈ pad, isBlank c = true)
    (each : ∀ n ∈ members, MemberReads n (write n)) (shallow : ∀ n ∈ members, n.2.nesting ≤ depth)
    (some : members ≠ [])
    (enough : 2 * ((',' :: sep).intercalate (members.map write)).length < fuel)
    (rest : List Char) : readMembers true fuel depth
      ((',' :: sep).intercalate (members.map write) ++ (pad ++ '\x7d' :: rest)) =
        .ok (members, rest) :=
  read_separated (fun fuel => readMembers true fuel depth)
    (fun n member _ enough => (each n member).last padBlank enough (shallow n member))
    (fun n member _ _ _ enough => (each n member).next enough (shallow n member))
    (fun fuel _ => readMembers_append sepBlank fuel depth) some enough

end Containers

section Layout

variable {items : List Value} {members : List (String × Value)} {lead sep pad : List Char}

/-- An empty array. -/
theorem reads_array_nil : Reads (.array []) ['[', ']'] where
  front := ⟨'[', [']'], rfl, by decide⟩
  read fuel depth rest enough shallow := by
    obtain ⟨fuel, rfl⟩ : ∃ n, fuel = n + 1 := ⟨fuel - 1, by simp at enough; omega⟩
    cases depth with
    | zero => simp [nesting] at shallow
    | succ depth => rfl

/-- An array is read from its items between brackets, where blanks may stand behind the opening
bracket, behind each comma and before the closing one. -/
theorem reads_array {write : Value → List Char} (leadBlank : ∀ c ∈ lead, isBlank c = true)
    (sepBlank : ∀ c ∈ sep, isBlank c = true) (padBlank : ∀ c ∈ pad, isBlank c = true)
    (each : ∀ w ∈ v :: items, w.Reads (write w)) :
    Reads (.array (v :: items)) ('[' :: (lead ++
      ((',' :: sep).intercalate ((v :: items).map write) ++ (pad ++ [']'])))) where
  front := ⟨'[', _, skipBlanks_cons rfl, by decide⟩
  read fuel depth rest enough shallow := by
    obtain ⟨fuel, rfl⟩ : ∃ n, fuel = n + 1 := ⟨fuel - 1, by simp at enough; omega⟩
    cases depth with
    | zero => simp [nesting] at shallow
    | succ depth =>
      simp only [nesting, Nat.add_le_add_iff_right, itemsNesting_le] at shallow
      simp only [List.length_append, List.length_cons] at enough
      have read := readItems_written sepBlank padBlank each shallow
        (List.cons_ne_nil _ _) (show _ < fuel by omega) rest
      -- The first item begins with no closing bracket, so the array is not taken for an empty one.
      obtain ⟨c, tail, front, other⟩ := (each v List.mem_cons_self).front
      have begins : ∃ more, skipBlanks (lead ++ ((',' :: sep).intercalate
          ((v :: items).map write) ++ (pad ++ ']' :: rest))) = c :: more := by
        rw [skipBlanks_append leadBlank, Text.intercalate_cons, List.append_assoc,
          skipBlanks_of_eq_cons front]
        exact ⟨_, rfl⟩
      obtain ⟨more, begins⟩ := begins
      have whole : '[' :: (lead ++ ((',' :: sep).intercalate ((v :: items).map write) ++
          (pad ++ [']']))) ++ rest = '[' :: (lead ++ ((',' :: sep).intercalate
            ((v :: items).map write) ++ (pad ++ ']' :: rest))) := by simp
      have found : readItems true fuel depth (c :: more) = .ok (v :: items, rest) := by
        rw [← begins, readItems_skipBlanks, readItems_append leadBlank, read]
      rw [whole, readValue, skipBlanks_cons rfl]
      simp only [begins]
      split
      case h_1 closed => exact absurd (List.cons.inj closed).1 other
      case h_2 =>
        rw [found]
        rfl

/-- An empty object. -/
theorem reads_object_nil : Reads (.object []) ['\x7b', '\x7d'] where
  front := ⟨'\x7b', ['\x7d'], rfl, by decide⟩
  read fuel depth rest enough shallow := by
    obtain ⟨fuel, rfl⟩ : ∃ n, fuel = n + 1 := ⟨fuel - 1, by simp at enough; omega⟩
    cases depth with
    | zero => simp [nesting] at shallow
    | succ depth => rfl

/-- An object is read from its members between braces, where blanks may stand likewise. -/
theorem reads_object {m : String × Value} {write : String × Value → List Char}
    (leadBlank : ∀ c ∈ lead, isBlank c = true) (sepBlank : ∀ c ∈ sep, isBlank c = true)
    (padBlank : ∀ c ∈ pad, isBlank c = true)
    (each : ∀ n ∈ m :: members, MemberReads n (write n)) :
    Reads (.object (m :: members)) ('\x7b' :: (lead ++
      ((',' :: sep).intercalate ((m :: members).map write) ++ (pad ++ ['\x7d'])))) where
  front := ⟨'\x7b', _, skipBlanks_cons rfl, by decide⟩
  read fuel depth rest enough shallow := by
    obtain ⟨fuel, rfl⟩ : ∃ n, fuel = n + 1 := ⟨fuel - 1, by simp at enough; omega⟩
    cases depth with
    | zero => simp [nesting] at shallow
    | succ depth =>
      simp only [nesting, Nat.add_le_add_iff_right, membersNesting_le] at shallow
      simp only [List.length_append, List.length_cons] at enough
      have read := readMembers_written sepBlank padBlank each shallow
        (List.cons_ne_nil _ _) (show _ < fuel by omega) rest
      obtain ⟨blanks, value, blank, -, written⟩ := each m List.mem_cons_self
      have begins : ∃ more, skipBlanks (lead ++ ((',' :: sep).intercalate
          ((m :: members).map write) ++ (pad ++ '\x7d' :: rest))) = '"' :: more := by
        rw [skipBlanks_append leadBlank, Text.intercalate_cons, written, List.append_assoc,
          List.append_assoc, skipBlanks_append blank, renderString_toList]
        exact ⟨_, skipBlanks_cons rfl⟩
      obtain ⟨more, begins⟩ := begins
      have whole : '\x7b' :: (lead ++ ((',' :: sep).intercalate ((m :: members).map write) ++
          (pad ++ ['\x7d']))) ++ rest = '\x7b' :: (lead ++ ((',' :: sep).intercalate
            ((m :: members).map write) ++ (pad ++ '\x7d' :: rest))) := by simp
      have found : readMembers true fuel depth ('"' :: more) = .ok (m :: members, rest) := by
        rw [← begins, readMembers_skipBlanks, readMembers_append leadBlank, read]
      rw [whole, readValue, skipBlanks_cons rfl]
      simp only [begins]
      change (readMembers true fuel depth ('"' :: more)).map _ = _
      rw [found]
      rfl

end Layout

end Value

end RecordTyping.Json

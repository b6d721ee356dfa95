import RecordTyping.Framework.Version
import RecordTyping.Proofs.Numerals
import RecordTyping.Proofs.Traversal

/-!
# The grammar of version texts

A version text is blanks, maybe a `v`, a number, a point, a second number, maybe a point with a tail
behind it, and blanks. There is one way to read a text so, since each number ends where a character
that is no digit stands, and the text without its outer blanks is read in the same way. The
form is known first, with digits of any script, and the numbers are read after it, from ASCII
digits within a bound; either may refuse the text, and the text is named as it was given.
-/

namespace RecordTyping

namespace Text

variable {s rest : List Char} {p : Char → Bool}

/-- A code point lies in ranges as it does in the list of them. -/
theorem inRanges_eq_any (ranges : Array (Nat × Nat)) (n : Nat) :
    inRanges ranges n = ranges.toList.any fun range => range.1 ≤ n && n ≤ range.2 := by
  rw [inRanges, ← Array.any_toList]

/-- A decimal digit of any script is no blank: no range of digits reaches over one. -/
theorem isBlank_of_isDecimalDigit {c : Char} (digit : isDecimalDigit c = true) :
    isBlank c = false := by
  by_contra blank
  have apart : ∀ range ∈ decimalDigits.toList, (0x30 ≤ range.1 ∧ range.2 ≤ 0x39) ∨
      (0x660 ≤ range.1 ∧ range.2 ≤ 0x1099) ∨ (0x17E0 ≤ range.1 ∧ range.2 ≤ 0x1C59) ∨
      0xA620 ≤ range.1 := by decide
  rw [isDecimalDigit, inRanges_eq_any] at digit
  obtain ⟨range, member, inside⟩ := List.any_eq_true.1 digit
  have place := apart range member
  simp only [Bool.and_eq_true, decide_eq_true_eq] at inside
  simp only [isBlank, Bool.not_eq_false, Bool.or_eq_true, Bool.and_eq_true, decide_eq_true_eq,
    beq_iff_eq] at blank
  omega

/-- An ASCII digit is a decimal digit. -/
theorem isDecimalDigit_of_isDigit {c : Char} (digit : c.isDigit = true) :
    isDecimalDigit c = true := by
  rw [isDecimalDigit, inRanges_eq_any, List.any_eq_true]
  exact ⟨(0x30, 0x39), by decide, by simpa using Char.isDigit_iff_toNat.1 digit⟩

/-- ASCII letters and digits lie between the first digit and the last letter. -/
theorem isAlphanum_range {c : Char} (letter : c.isAlphanum = true) :
    0x30 ≤ c.toNat ∧ c.toNat ≤ 0x7A := by
  have form : c.isAlphanum = ((decide (c.val ≥ 65 ∧ c.val ≤ 90) || c.val ≥ 97 && c.val ≤ 122) ||
    c.val ≥ 48 && c.val ≤ 57) := rfl
  have ranges : (65 ≤ c.toNat ∧ c.toNat ≤ 90 ∨ 97 ≤ c.toNat ∧ c.toNat ≤ 122) ∨
      48 ≤ c.toNat ∧ c.toNat ≤ 57 := by
    simpa [form, UInt32.le_iff_toNat_le] using letter
  omega

/-- Marks that are no decimal digits. -/
theorem isDecimalDigit_mark {c : Char} (mark : c ∈ ['.', 'v', '+', '-']) :
    isDecimalDigit c = false := by
  have none : ['.', 'v', '+', '-'].all (fun c => !isDecimalDigit c) = true := by
    simp only [isDecimalDigit, inRanges_eq_any]
    decide
  simpa using List.all_eq_true.1 none c mark

end Text

namespace FrameworkVersion

/-- What may stand behind the minor number: nothing, or a point and letters, digits, points and
hyphens. -/
inductive Tail : List Char → Prop where
  | none : Tail []
  | some {cs : List Char} (filled : cs ≠ [])
      (characters : ∀ c ∈ cs, c.isAlphanum = true ∨ c = '.' ∨ c = '-') : Tail ('.' :: cs)

/-- The parts of a text that has the form of a version. -/
structure Layout where
  before : List Char
  /-- The letter in front of the numbers, if there is one. -/
  mark : List Char
  major : List Char
  minor : List Char
  tail : List Char
  after : List Char

namespace Layout

/-- The text between the outer blanks. -/
def core (l : Layout) : List Char := l.mark ++ l.major ++ '.' :: l.minor ++ l.tail

/-- The whole text. -/
def text (l : Layout) : List Char := l.before ++ l.core ++ l.after

/-- The parts are what they should be, with digits of some kind. -/
structure Valid (isDigit : Char → Bool) (l : Layout) : Prop where
  before : ∀ c ∈ l.before, Text.isBlank c = true
  mark : l.mark = [] ∨ l.mark = ['v']
  major : l.major ≠ [] ∧ ∀ c ∈ l.major, isDigit c = true
  minor : l.minor ≠ [] ∧ ∀ c ∈ l.minor, isDigit c = true
  tail : Tail l.tail
  after : ∀ c ∈ l.after, Text.isBlank c = true

end Layout

section Form

variable {s rest major minor : List Char} {l : Layout}

/-- No character of a tail is blank. -/
theorem Tail.unblank {tail : List Char} (isTail : Tail tail) :
    ∀ c ∈ tail, Text.isBlank c = false := by
  cases isTail with
  | none => simp
  | some _ characters =>
    refine List.forall_mem_cons.2 ⟨by decide, fun c member => ?_⟩
    rcases characters c member with letter | rfl | rfl
    · have range := Text.isAlphanum_range letter
      simp only [Text.isBlank, Bool.or_eq_false_iff, Bool.and_eq_false_imp, decide_eq_true_eq,
        decide_eq_false_iff_not, beq_eq_false_iff_ne]
      omega
    · decide
    · decide

/-- What may follow the minor number is a tail and blanks. -/
theorem isTail_iff : isTail s = true ↔
    ∃ tail after, s = tail ++ after ∧ Tail tail ∧ ∀ c ∈ after, Text.isBlank c = true := by
  have characters (c : Char) :
      isTailChar c = true ↔ c.isAlphanum = true ∨ c = '.' ∨ c = '-' := by
    simp [isTailChar, or_assoc]
  constructor
  · intro found
    unfold isTail at found
    split at found
    · next rest =>
      obtain ⟨filled, blank⟩ := Bool.and_eq_true_iff.1 found
      refine ⟨'.' :: rest.takeWhile isTailChar, rest.dropWhile isTailChar, ?_,
        .some (by simpa using filled) fun c member => ?_, List.all_eq_true.1 blank⟩
      · rw [List.cons_append, List.takeWhile_append_dropWhile]
      · exact (characters c).1 (List.mem_takeWhile_imp member)
    · exact ⟨[], s, rfl, .none, List.all_eq_true.1 found⟩
  · rintro ⟨tail, after, rfl, isTail', blank⟩
    cases isTail' with
    | none =>
      cases after with
      | nil => rfl
      | cons c after =>
        have other : c ≠ '.' := by
          rintro rfl
          exact absurd (blank _ List.mem_cons_self) (by decide)
        unfold isTail
        split
        · simp_all
        · exact List.all_eq_true.2 blank
    | @some cs filled chars =>
      have run : ∀ c ∈ cs, isTailChar c = true := fun c member => (characters c).2 (chars c member)
      have ends : ∀ c ∈ after.head?, isTailChar c = false := by
        intro c first
        by_contra tailed
        have tail : Tail ['.', c] :=
          .some (List.cons_ne_nil _ _) (by simpa using (characters c).1 (by simpa using tailed))
        have unblank := tail.unblank c (by simp)
        rw [blank c (List.mem_of_mem_head? first)] at unblank
        cases unblank
      simp only [isTail, List.cons_append, Text.takeWhile_run run ends, Text.dropWhile_run run ends,
        List.all_eq_true.2 blank, List.isEmpty_eq_false_iff.2 filled, Bool.not_false, Bool.and_self]

namespace Layout

/-- ASCII digits are digits of some script. -/
theorem Valid.anyScript (valid : l.Valid Char.isDigit) : l.Valid Text.isDecimalDigit :=
  { valid with
    major :=
      ⟨valid.major.1, fun c member => Text.isDecimalDigit_of_isDigit (valid.major.2 c member)⟩
    minor :=
      ⟨valid.minor.1, fun c member => Text.isDecimalDigit_of_isDigit (valid.minor.2 c member)⟩ }

/-- There is something between the outer blanks, and no character of it is blank. -/
theorem Valid.core_unblank (valid : l.Valid Text.isDecimalDigit) :
    l.core ≠ [] ∧ ∀ c ∈ l.core, Text.isBlank c = false := by
  refine ⟨by simp [core], fun c member => ?_⟩
  simp only [core, List.mem_append, List.mem_cons] at member
  rcases member with ((marked | digit) | (rfl | digit)) | tailed
  · rcases valid.mark with none | some
    · simp [none] at marked
    · obtain rfl : c = 'v' := by simpa [some] using marked
      decide
  · exact Text.isBlank_of_isDecimalDigit (valid.major.2 c digit)
  · decide
  · exact Text.isBlank_of_isDecimalDigit (valid.minor.2 c digit)
  · exact valid.tail.unblank c tailed

/-- Taking the outer blanks off the text leaves what is between them. -/
theorem Valid.trim_text (valid : l.Valid Text.isDecimalDigit) : Text.trim l.text = l.core :=
  (Text.trim_surrounded valid.before valid.after).trans (Text.trim_eq_self valid.core_unblank.2)

end Layout

/-- Two numbers with a point between them are found at the front of a text exactly if they stand
there and a tail and blanks follow. -/
theorem numbers?_eq_some : numbers? s = some (major, minor) ↔ ∃ tail after,
    s = major ++ '.' :: (minor ++ (tail ++ after)) ∧
      (major ≠ [] ∧ ∀ c ∈ major, Text.isDecimalDigit c = true) ∧
      (minor ≠ [] ∧ ∀ c ∈ minor, Text.isDecimalDigit c = true) ∧
      Tail tail ∧ ∀ c ∈ after, Text.isBlank c = true := by
  constructor
  · intro found
    unfold numbers? at found
    split at found
    · next rest behind =>
      by_cases shape : (!(s.takeWhile Text.isDecimalDigit).isEmpty &&
          !(rest.takeWhile Text.isDecimalDigit).isEmpty &&
          isTail (rest.dropWhile Text.isDecimalDigit)) = true
      · obtain ⟨rfl, rfl⟩ := Prod.mk.inj (Option.some.inj ((if_pos shape).symm.trans found))
        simp only [Bool.and_eq_true, Bool.not_eq_true', List.isEmpty_eq_false_iff] at shape
        obtain ⟨⟨filled, filled'⟩, ending⟩ := shape
        obtain ⟨tail, after, split, tailed, blank⟩ := isTail_iff.1 ending
        refine ⟨tail, after, ?_, ⟨filled, fun c => List.mem_takeWhile_imp⟩,
          ⟨filled', fun c => List.mem_takeWhile_imp⟩, tailed, blank⟩
        rw [← split, List.takeWhile_append_dropWhile, ← behind, List.takeWhile_append_dropWhile]
      · cases (if_neg shape).symm.trans found
    · cases found
  · rintro ⟨tail, after, rfl, ⟨filled, digits⟩, ⟨filled', digits'⟩, tailed, blank⟩
    have point : ∀ c ∈ ('.' :: (minor ++ (tail ++ after))).head?,
        Text.isDecimalDigit c = false := by
      rintro c ⟨⟩
      exact Text.isDecimalDigit_mark (by simp)
    have ends : ∀ c ∈ (tail ++ after).head?, Text.isDecimalDigit c = false := by
      intro c first
      by_contra digit
      have unblank := Text.isBlank_of_isDecimalDigit (by simpa using digit)
      cases tailed with
      | none =>
        rw [blank c (List.mem_of_mem_head? first)] at unblank
        cases unblank
      | some _ _ =>
        cases first
        exact digit (Text.isDecimalDigit_mark (by simp))
    have ending : isTail (tail ++ after) = true := isTail_iff.2 ⟨tail, after, rfl, tailed, blank⟩
    simp only [numbers?, Text.takeWhile_run digits point, Text.dropWhile_run digits point,
      Text.takeWhile_run digits' ends, Text.dropWhile_run digits' ends, ending,
      List.isEmpty_eq_false_iff.2 filled, List.isEmpty_eq_false_iff.2 filled', Bool.not_false,
      Bool.and_self, ↓reduceIte]

/-- Without its mark a text is what is left behind it. -/
theorem unmarked_split (s : List Char) :
    ∃ mark, (mark = [] ∨ mark = ['v']) ∧ s = mark ++ unmarked s := by
  unfold unmarked
  split
  · exact ⟨['v'], Or.inr rfl, rfl⟩
  · exact ⟨[], Or.inl rfl, rfl⟩

/-- A text that starts with no letter is left when a mark in front of it is taken off. -/
theorem unmarked_append {mark : List Char} (marked : mark = [] ∨ mark = ['v'])
    (first : s.head? ≠ some 'v') : unmarked (mark ++ s) = s := by
  rcases marked with rfl | rfl
  · rw [List.nil_append]
    unfold unmarked
    split
    · exact absurd rfl first
    · rfl
  · rfl

/-- The digits of a version are found in a text exactly if it has the form of a version. -/
theorem components?_eq_some : components? s = some (major, minor) ↔
    ∃ l : Layout, l.Valid Text.isDecimalDigit ∧ l.text = s ∧ l.major = major ∧ l.minor = minor := by
  constructor
  · intro found
    obtain ⟨tail, after, split, digits, digits', tailed, blank⟩ := numbers?_eq_some.1 found
    obtain ⟨mark, marked, split'⟩ := unmarked_split (Text.trimStart s)
    refine ⟨⟨s.takeWhile Text.isBlank, mark, major, minor, tail, after⟩,
      ⟨fun c => List.mem_takeWhile_imp, marked, digits, digits', tailed, blank⟩, ?_, rfl, rfl⟩
    have whole : s = s.takeWhile Text.isBlank ++ Text.trimStart s :=
      List.takeWhile_append_dropWhile.symm
    rw [split] at split'
    rw [split'] at whole
    simp only [Layout.text, Layout.core, List.append_assoc, List.cons_append]
    exact whole.symm
  · rintro ⟨l, valid, rfl, rfl, rfl⟩
    have start : Text.trimStart l.text =
        l.mark ++ (l.major ++ '.' :: (l.minor ++ (l.tail ++ l.after))) := by
      rw [Text.trimStart, Layout.text, List.append_assoc, Text.dropWhile_run valid.before]
      · simp [Layout.core]
      · intro c first
        rw [List.head?_append_of_ne_nil _ valid.core_unblank.1] at first
        exact valid.core_unblank.2 c (List.mem_of_mem_head? first)
    have first : (l.major ++ '.' :: (l.minor ++ (l.tail ++ l.after))).head? ≠ some 'v' := by
      rw [List.head?_append_of_ne_nil _ valid.major.1]
      intro letter
      have digit := valid.major.2 'v' (List.mem_of_mem_head? letter)
      rw [Text.isDecimalDigit_mark (by simp)] at digit
      cases digit
    rw [components?, start, unmarked_append valid.mark first]
    exact numbers?_eq_some.2
      ⟨l.tail, l.after, rfl, valid.major, valid.minor, valid.tail, valid.after⟩

end Form

section Numbers

variable {input : String} {l : Layout} {v : FrameworkVersion} {digits : List Char} {n : Nat}

/-- Digits of some script are read as a number exactly if they are ASCII digits of a number up to
the largest. -/
theorem number_eq_ok (filled : digits ≠ [])
    (scripted : ∀ c ∈ digits, Text.isDecimalDigit c = true) :
    number input digits = .ok n ↔
      (∀ c ∈ digits, c.isDigit = true) ∧ Text.digitsValue digits = n ∧ n ≤ maxComponent := by
  obtain ⟨c, rest, rfl⟩ := List.exists_cons_of_ne_nil filled
  have digit := scripted c List.mem_cons_self
  have unsigned : c ≠ '+' ∧ c ≠ '-' := by
    constructor
    · rintro rfl
      exact absurd digit (by simp [Text.isDecimalDigit_mark])
    · rintro rfl
      exact absurd digit (by simp [Text.isDecimalDigit_mark])
  have exact : Text.readMagnitude maxComponent .tooLarge 0 (c :: rest) = .ok n ↔ _ :=
    Text.readMagnitude_eq_ok (Nat.zero_le _)
  rw [Nat.zero_mul, Nat.zero_add] at exact
  rw [← exact, number, Text.readInteger_unsigned unsigned]
  cases Text.readMagnitude maxComponent .tooLarge 0 (c :: rest) with
  | ok m => simp [Except.map]
  | error fault => simp [Except.map]

/-- Digits that are not read as a number are complained about with the text that they stand in,
and not for its form. -/
theorem number_eq_error {e : VersionError} (failed : number input digits = .error e) :
    e.version = input ∧ e.reason ≠ formReason := by
  unfold number at failed
  split at failed
  · cases failed
  · next fault _ =>
    cases failed
    have other : ∀ fault : Text.NumeralFault, fault.message ≠ formReason := by
      rintro (_ | _ | _ | _) <;> decide
    exact ⟨rfl, other fault⟩

/-- A text of the form of a version is read as its numbers, the major one first. -/
theorem parse_layout (valid : l.Valid Text.isDecimalDigit) (whole : l.text = input.toList) :
    parse input = (do
      let major ← number input l.major
      let minor ← number input l.minor
      return ⟨major, minor, String.ofList l.core⟩) := by
  have found : components? input.toList = some (l.major, l.minor) :=
    components?_eq_some.2 ⟨l, valid, whole, rfl, rfl⟩
  have raw : Text.trimmed input = String.ofList l.core := by
    rw [Text.trimmed, ← whole, valid.trim_text]
  simp only [parse, found, raw]

/-- A text that does not have the form of a version is refused for its form. -/
theorem parse_formless
    (formless : ¬∃ l : Layout, l.text = input.toList ∧ l.Valid Text.isDecimalDigit) :
    parse input = .error ⟨input, formReason⟩ := by
  have none : components? input.toList = none := by
    rw [Option.eq_none_iff_forall_ne_some]
    rintro ⟨major, minor⟩ found
    obtain ⟨l, valid, whole, -, -⟩ := components?_eq_some.1 found
    exact formless ⟨l, whole, valid⟩
  rw [parse, none]

/-- A layout writes a version: its digits are ASCII digits of numbers below the thirty-second
power of two, and the text of the version is what stands between its outer blanks. -/
structure Layout.Writes (l : Layout) (v : FrameworkVersion) : Prop where
  valid : l.Valid Char.isDigit
  major : Text.digitsValue l.major = v.major ∧ v.major ≤ 0xFFFFFFFF
  minor : Text.digitsValue l.minor = v.minor ∧ v.minor ≤ 0xFFFFFFFF
  raw : v.raw.toList = l.core

/-- The text of a version without its outer blanks writes the version too. -/
theorem Layout.Writes.bare (writes : l.Writes v) :
    ({ l with before := [], after := [] } : Layout).Writes v where
  valid := { writes.valid with before := by simp, after := by simp }
  major := writes.major
  minor := writes.minor
  raw := writes.raw

/-- A text is read as a version exactly if some layout of it writes the version. -/
theorem parse_eq_ok :
    parse input = .ok v ↔ ∃ l : Layout, l.text = input.toList ∧ l.Writes v := by
  constructor
  · intro read
    by_cases formed : ∃ l : Layout, l.text = input.toList ∧ l.Valid Text.isDecimalDigit
    · obtain ⟨l, whole, valid⟩ := formed
      rw [parse_layout valid whole] at read
      obtain ⟨major, readMajor, read⟩ := Traversal.bind_eq_ok.1 read
      obtain ⟨minor, readMinor, read⟩ := Traversal.bind_eq_ok.1 read
      cases read
      rw [number_eq_ok valid.major.1 valid.major.2] at readMajor
      rw [number_eq_ok valid.minor.1 valid.minor.2] at readMinor
      exact ⟨l, whole, {
        valid := { valid with
          major := ⟨valid.major.1, readMajor.1⟩
          minor := ⟨valid.minor.1, readMinor.1⟩ }
        major := readMajor.2
        minor := readMinor.2
        raw := String.toList_ofList }⟩
    · rw [parse_formless formed] at read
      cases read
  · rintro ⟨l, whole, writes⟩
    have valid := writes.valid.anyScript
    have major : number input l.major = .ok v.major :=
      (number_eq_ok valid.major.1 valid.major.2).2 ⟨writes.valid.major.2, writes.major⟩
    have minor : number input l.minor = .ok v.minor :=
      (number_eq_ok valid.minor.1 valid.minor.2).2 ⟨writes.valid.minor.2, writes.minor⟩
    rw [parse_layout valid whole, major, minor, ← writes.raw, String.ofList_toList]
    rfl

/-- A text that is not read as a version is named as it is given, and its form is complained about
exactly if it has not the form of a version in the digits of any script. -/
theorem parse_eq_error {e : VersionError} (failed : parse input = .error e) :
    e.version = input ∧ (e.reason = formReason ↔
      ¬∃ l : Layout, l.text = input.toList ∧ l.Valid Text.isDecimalDigit) := by
  by_cases formed : ∃ l : Layout, l.text = input.toList ∧ l.Valid Text.isDecimalDigit
  · obtain ⟨l, whole, valid⟩ := formed
    have complaint : e.version = input ∧ e.reason ≠ formReason := by
      rw [parse_layout valid whole] at failed
      rcases Traversal.bind_eq_error.1 failed with major | ⟨major, -, failed⟩
      · exact number_eq_error major
      · rcases Traversal.bind_eq_error.1 failed with minor | ⟨minor, -, failed⟩
        · exact number_eq_error minor
        · cases failed
    exact ⟨complaint.1, iff_of_false complaint.2 fun formless => formless ⟨l, whole, valid⟩⟩
  · rw [parse_formless formed] at failed
    cases failed
    exact ⟨rfl, iff_of_true rfl formed⟩

/-- A text is read as a version exactly if it writes one: blanks, maybe a `v`, two numbers in ASCII
digits with a point between them, maybe a tail, and blanks; the version has the numbers and the text
without the outer blanks. Every other text is refused under its own name, for its form exactly if
not even digits of other scripts give it the form. The text of a version is read as that version. -/
theorem parse_exact (input : String) :
    (∀ v, parse input = .ok v ↔ ∃ l : Layout, l.text = input.toList ∧ l.Writes v) ∧
    ((¬∃ v, ∃ l : Layout, l.text = input.toList ∧ l.Writes v) →
      ∃ reason, parse input = .error ⟨input, reason⟩ ∧ (reason = formReason ↔
        ¬∃ l : Layout, l.text = input.toList ∧ l.Valid Text.isDecimalDigit)) ∧
    ∀ v, parse input = .ok v → parse v.raw = .ok v := by
  refine ⟨fun v => parse_eq_ok, ?_, ?_⟩
  · intro unwritten
    cases read : parse input with
    | ok v => exact absurd ⟨v, parse_eq_ok.1 read⟩ unwritten
    | error e =>
      obtain ⟨named, form⟩ := parse_eq_error read
      exact ⟨e.reason, by rw [← named], form⟩
  · intro v read
    obtain ⟨l, -, writes⟩ := parse_eq_ok.1 read
    refine parse_eq_ok.2 ⟨_, ?_, writes.bare⟩
    simp [Layout.text, Layout.core, writes.raw]

/-- A version with blanks around it, a `v` in front and zeros before its numbers is read as its
numbers, and its text without the blanks is read as the same version. -/
theorem parse_exact_padded :
    parse "\u00a0v05.010..-\n" = .ok ⟨5, 10, "v05.010..-"⟩ ∧
      parse "v05.010..-" = .ok ⟨5, 10, "v05.010..-"⟩ := by
  obtain ⟨exact, -, again⟩ := parse_exact "\u00a0v05.010..-\n"
  have read := (exact ⟨5, 10, "v05.010..-"⟩).2
    ⟨⟨['\u00a0'], ['v'], ['0', '5'], ['0', '1', '0'], ['.', '.', '-'], ['\n']⟩, by decide, {
      valid := {
        before := List.all_eq_true.1 rfl
        mark := Or.inr rfl
        major := ⟨List.cons_ne_nil _ _, List.all_eq_true.1 rfl⟩
        minor := ⟨List.cons_ne_nil _ _, List.all_eq_true.1 rfl⟩
        tail := .some (List.cons_ne_nil _ _) (by simp)
        after := List.all_eq_true.1 rfl }
      major := by decide
      minor := by decide
      raw := by decide }⟩
  exact ⟨read, again _ read⟩

end Numbers

end FrameworkVersion
end RecordTyping

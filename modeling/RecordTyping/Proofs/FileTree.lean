import Mathlib.Data.List.Induction
import RecordTyping.Files.Tree
import RecordTyping.Proofs.Paths
import RecordTyping.Proofs.Traversal

/-!
# What writing does to a file tree

A tree extends another if everything that was there is still there as it was. A path that leads
somewhere leads to the same place in every extension, over the same links, so that a file can be
read at the path that it was written to, however many directories and other files came after it.
Where the last name of the path is not a link, the file is under that name.
-/

namespace RecordTyping.Files.Tree

open Files.Path (IsName)

variable {t t' t'' : Tree} {place other next : Place} {entry : Entry} {p : Path}
  {name s : String} {names : List String} {node links : Nat} {purpose : Purpose}
  {found : Option Entry} {result : Place × Option Entry}

/-! ## Extensions -/

/-- Everything that is there stays there as it is, and the current directory stays the same. What
files hold may change. -/
structure Extends (t t' : Tree) : Prop where
  find? : ∀ {place entry}, t.find? place = some entry → t'.find? place = some entry
  current : t'.current = t.current

namespace Extends

theorem refl (t : Tree) : t.Extends t := ⟨id, rfl⟩

theorem trans (first : t.Extends t') (second : t'.Extends t'') : t.Extends t'' :=
  ⟨fun found => second.find? (first.find? found), second.current.trans first.current⟩

end Extends

/-- What is put at a place is found there, and everything else where it was. -/
theorem find?_put {more : List Contents} (fits : Fits t.entries place entry)
    (kept : entry.isKept (t.stored ++ more).length = true) :
    (t.put place entry more fits kept).find? other =
      if other = place then some entry else t.find? other := entryAt_cons fits.nothing

theorem extends_put {more : List Contents} (fits : Fits t.entries place entry)
    (kept : entry.isKept (t.stored ++ more).length = true) :
    t.Extends (t.put place entry more fits kept) := ⟨entryAt_older fits.nothing, rfl⟩

theorem extends_store (t : Tree) (node : Nat) (contents : Contents) :
    t.Extends (t.store node contents) := ⟨id, rfl⟩

/-- What is found is an entry, but for the root. -/
theorem mem_of_find? (there : t.find? place = some entry) :
    (place, entry) ∈ t.entries ∨ entry = .directory := by
  by_cases root : place = []
  · rw [root] at there
    exact Or.inr (Option.some.inj there).symm
  · rw [find?, entryAt, List.isEmpty_eq_false_iff.2 root] at there
    obtain ⟨front, back, split, -⟩ := List.lookup_eq_some_iff.1 there
    rw [split]
    exact Or.inl (List.mem_append_right front List.mem_cons_self)

/-- A file that is there has contents. -/
theorem kept_of_find? (there : t.find? place = some (.file node)) : node < t.stored.length := by
  rcases mem_of_find? there with member | root
  · simpa [Entry.isKept] using t.kept _ member
  · cases root

/-- The names on the way to a directory are names that files can have. -/
theorem names_of_directory (there : t.find? place = some .directory) :
    ∀ name ∈ place, IsName name := by
  induction place using List.reverseRecOn with
  | nil => exact fun _ member => absurd member List.not_mem_nil
  | append_singleton above name ih =>
    obtain ⟨isName, inside⟩ := t.grown.directory there
    exact List.forall_mem_append.2 ⟨ih inside, List.forall_mem_singleton.2 isName⟩

/-! ## Where paths lead in an extension -/

/-- A directory is an entry that is found. -/
theorem directoryAt_iff : directoryAt t.entries place = true ↔
    ∃ entry, t.find? place = some entry ∧ entry.isDirectory = true := Option.any_eq_true _ _

/-- Directories are directories in an extension. -/
theorem Extends.directoryAt (more : t.Extends t') (inside : directoryAt t.entries place = true) :
    Files.directoryAt t'.entries place = true :=
  directoryAt_iff.2 ((directoryAt_iff.1 inside).imp fun _ => And.imp_left more.find?)

namespace Reaches

/-- Names reach what is at a place. -/
theorem find? (reaches : t.Reaches purpose links place names result) :
    t.find? result.1 = result.2 := by
  induction reaches with
  | here => rfl
  | kept make inside entered found => exact found
  | followed passed inside entered found further onward ih => exact ih
  | there passed inside entered found plain onward ih => exact ih
  | missing inside entered nothing => exact nothing

/-- What names reach, whatever they are followed for, they reach in an extension as well, if no link
stands there that was taken for itself or has come since. -/
theorem extend (reaches : t.Reaches purpose links place names result) (more : t.Extends t')
    (there : t'.find? result.1 = some entry)
    (plain : entry.isLink = true → purpose = .find ∧ result.2 ≠ none) :
    t'.Reaches .find links place names (result.1, some entry) := by
  induction reaches with
  | here => exact there ▸ .here
  | kept make inside entered found =>
    rw [more.find? found] at there
    cases there
    cases make.symm.trans (plain rfl).1
  | followed passed inside entered found further onward ih =>
    exact .followed (by simp) (more.directoryAt inside) entered (more.find? found) (by simp)
      (ih there plain)
  | there passed inside entered found isPlain onward ih =>
    exact .there (by simp) (more.directoryAt inside) entered (more.find? found) isPlain
      (ih there plain)
  | missing inside entered nothing =>
    have isPlain : entry.isLink = false := by
      by_contra isLink
      exact (plain (by simpa using isLink)).2 rfl
    have directory := directoryAt_iff.2 ⟨_, more.find? inside, rfl⟩
    exact .there (by simp) directory entered there isPlain (there ▸ .here)

/-- A slash behind names that reach a directory makes no difference. -/
theorem slash (reaches : t.Reaches .find links place names result)
    (directory : directoryAt t.entries result.1 = true) :
    t.Reaches .find links place (names ++ [""]) result := by
  induction reaches with
  | @here links place =>
    obtain ⟨entry, found, isDirectory⟩ := directoryAt_iff.1 directory
    have plain : entry.isLink = false := by cases entry <;> first | rfl | cases isDirectory
    exact .there (by simp) directory rfl found plain .here
  | kept make => cases make
  | followed passed inside entered found further onward ih =>
    have onward := ih directory
    rw [List.append_assoc] at onward
    exact .followed (by simp) inside entered found (by simp) onward
  | there passed inside entered found plain onward ih =>
    exact .there (by simp) inside entered found plain (ih directory)
  | missing inside entered nothing =>
    exact absurd nothing (find?_ne_none directory)

end Reaches

/-- A path leads to a place, with or without a slash at its end, if something is there. -/
theorem locate_eq_ok : t.locate p = .ok place ↔
    ∃ entry, t.trace .find p = .ok (place, some entry) := by
  rw [locate, Traversal.bind_eq_ok]
  constructor
  · rintro ⟨⟨reached, found⟩, traced, located⟩
    cases found with
    | none => cases located
    | some entry =>
      cases located
      exact ⟨entry, traced⟩
  · rintro ⟨entry, traced⟩
    exact ⟨_, traced, rfl⟩

/-- A path leads to what is at a place. -/
theorem find?_of_trace (traced : t.trace purpose p = .ok (place, found)) : t.find? place = found :=
  (trace_eq_ok.1 traced).2.find?

/-- What a path leads to, whatever it is followed for, is found by following it in an extension, if
it is no link that was taken for itself or has come since. -/
theorem Extends.locate_of_trace (more : t.Extends t') (there : t'.find? place = some entry)
    (plain : entry.isLink = true → purpose = .find ∧ found ≠ none)
    (slash : purpose = .make → entry.isDirectory = true)
    (traced : t.trace purpose p = .ok (place, found)) : t'.locate p = .ok place := by
  obtain ⟨checked, reaches⟩ := trace_eq_ok.1 traced
  refine locate_eq_ok.2 ⟨entry, trace_eq_ok.2 ⟨checked, ?_⟩⟩
  have led := reaches.extend more there plain
  rw [more.current, if_neg (by decide)]
  by_cases made : purpose = .make
  · rw [if_pos made] at led
    unfold Path.steps
    split
    · exact led.slash (directoryAt_iff.2 ⟨entry, there, slash made⟩)
    · rw [List.append_nil]
      exact led
  · rwa [if_neg made] at led

/-- A path that leads somewhere leads there in an extension. -/
theorem Extends.locate (more : t.Extends t') (located : t.locate p = .ok place) :
    t'.locate p = .ok place := by
  obtain ⟨entry, traced⟩ := locate_eq_ok.1 located
  exact more.locate_of_trace (more.find? (find?_of_trace traced)) (fun _ => ⟨rfl, by simp⟩)
    (fun made => by cases made) traced

/-- What is read at a path is the text at the place that it leads to. -/
theorem read_eq_ok : t.read p = .ok s ↔
    ∃ place, t.locate p = .ok place ∧ t.holding? place = some (.text s) := by
  rw [read, Traversal.bind_eq_ok]
  refine exists_congr fun place => and_congr_right fun _ => ?_
  cases t.holding? place with
  | none => simp [throw, throwThe, MonadExceptOf.throw]
  | some contents =>
    cases contents <;> simp [throw, throwThe, MonadExceptOf.throw, pure, Except.pure]

/-! ## What is changed -/

/-- What making a directory changes: where nothing was is a directory, to which its path leads, and
nothing else is changed. -/
theorem makeDirectory_change (made : t.makeDirectory p = .ok t') :
    t.Extends t' ∧ t'.stored = t.stored ∧ ∃ place, t'.locate p = .ok place ∧
      t.find? place = none ∧ t'.find? place = some .directory ∧
      ∀ other, other ≠ place → t'.find? other = t.find? other := by
  unfold makeDirectory at made
  split at made
  · cases made
  · cases made
  · next place traced =>
    cases made
    have fits : Fits t.entries place .directory := .directory (vacant_of_trace traced)
    have kept : Entry.directory.isKept (t.stored ++ []).length = true := Entry.isKept_directory _
    have more := extends_put fits kept
    have there : (t.put place .directory [] fits kept).find? place = some .directory := by
      rw [find?_put, if_pos rfl]
    refine ⟨more, List.append_nil _, place, ?_, fits.nothing, there, fun other apart => ?_⟩
    · exact more.locate_of_trace there (by simp [Entry.isLink]) (fun _ => rfl) traced
    · rw [find?_put, if_neg apart]

/-- What writing a text changes: its path leads to a file at a place, which has the text. No other
place and no other file is changed. -/
structure Wrote (t t' : Tree) (p : Path) (s : String) (place : Place) (node : Nat) : Prop where
  traced : t.trace .write p = .ok (place, t.find? place)
  more : t.Extends t'
  located : t'.locate p = .ok place
  file : t'.find? place = some (.file node)
  contents : t'.stored[node]? = some (.text s)
  places : ∀ other, other ≠ place → t'.find? other = t.find? other
  nodes : ∀ other, other ≠ node → t'.stored[other]? = t.stored[other]?
  /-- A new file is kept under a new number. -/
  fresh : t.find? place = none → node = t.stored.length

/-- A file that is there gets other contents. -/
theorem Wrote.of_store (traced : t.trace .write p = .ok (place, some (.file node))) (s : String) :
    t.Wrote (t.store node (.text s)) p s place node := by
  have there := find?_of_trace traced
  have more := extends_store t node (.text s)
  exact {
    traced := there ▸ traced
    more := more
    located := more.locate_of_trace there (by simp [Entry.isLink]) (by simp) traced
    file := there
    contents := List.getElem?_set_self (kept_of_find? there)
    places := fun _ _ => rfl
    nodes := fun _ apart => List.getElem?_set_ne (Ne.symm apart)
    fresh := by simp [there] }

/-- A file is put where there is none. -/
theorem Wrote.of_put (traced : t.trace .write p = .ok (place, none)) (s : String) :
    t.Wrote (t.put place (.file t.stored.length) [.text s] (.file (vacant_of_trace traced))
      (Entry.isKept_last t.stored (.text s))) p s place t.stored.length := by
  have fits : Fits t.entries place (.file t.stored.length) := .file (vacant_of_trace traced)
  have kept := Entry.isKept_last t.stored (.text s)
  have more := extends_put fits kept
  have nothing : t.find? place = none := fits.nothing
  have there : (t.put place (.file t.stored.length) [.text s] fits kept).find? place =
      some (.file t.stored.length) := by rw [find?_put, if_pos rfl]
  exact {
    traced := nothing ▸ traced
    more := more
    located := more.locate_of_trace there (by simp [Entry.isLink]) (by simp) traced
    file := there
    contents := List.getElem?_concat_length
    places := fun _ apart => by rw [find?_put, if_neg apart]
    nodes := fun _ apart => by
      rw [put, List.getElem?_append]
      split
      · rfl
      · rw [List.getElem?_singleton, if_neg (by omega), List.getElem?_eq_none (by omega)]
    fresh := fun _ => rfl }

/-- A text is written into a file that is there, or into a new one. -/
theorem write_change (written : t.write p s = .ok t') :
    ∃ place node, t.Wrote t' p s place node := by
  unfold write at written
  split at written
  · cases written
  · next place node traced =>
    cases written
    exact ⟨place, node, .of_store traced s⟩
  · cases written
  · next place traced =>
    cases written
    exact ⟨place, t.stored.length, .of_put traced s⟩

/-! ## Names that are no links -/

/-- What names reach for writing, they reach with their last name taken for itself as well, unless
it is a link. -/
theorem Reaches.make (reaches : t.Reaches .write links place names result) :
    ∃ last, t.Reaches .make links place names last ∧
      ((∀ target, last.2 ≠ some (.link target)) → last = result) := by
  induction reaches with
  | here => exact ⟨_, .here, fun _ => rfl⟩
  | kept make => cases make
  | @followed links place next name rest target result passed inside entered found further onward
      ih =>
    by_cases ends : rest = []
    · rw [ends]
      exact ⟨_, .kept rfl inside entered found, fun plain => absurd rfl (plain target)⟩
    · obtain ⟨last, onward, same⟩ := ih
      exact ⟨last, .followed (by simp) inside entered found (fun both => ends both.2) onward, same⟩
  | there passed inside entered found plain onward ih =>
    obtain ⟨last, onward, same⟩ := ih
    exact ⟨last, .there (by simp) inside entered found plain onward, same⟩
  | missing inside entered nothing => exact ⟨_, .missing inside entered nothing, fun _ => rfl⟩

/-- Where a path without a slash at its end leads for writing, its last name leads for itself as
well, unless it is a link. -/
theorem trace_make_of_write (noSlash : p.namesDirectory = false)
    (traced : t.trace .write p = .ok result) : ∃ last, t.trace .make p = .ok last ∧
      ((∀ target, last.2 ≠ some (.link target)) → last = result) := by
  obtain ⟨checked, reaches⟩ := trace_eq_ok.1 traced
  have steps : p.steps = p.parts := by rw [Path.steps, noSlash]; exact List.append_nil _
  rw [if_neg (by decide), steps] at reaches
  obtain ⟨last, led, same⟩ := reaches.make
  exact ⟨last, trace_eq_ok.2 ⟨checked, by rwa [if_pos rfl]⟩, same⟩

/-- A name leads to the place of that name. -/
theorem getLast?_of_enter (isName : IsName name) (entered : enter place name = .ok next) :
    next.getLast? = some name := by
  have filled : name ≠ "" := fun empty => isName.filled (by rw [empty]; rfl)
  unfold enter at entered
  rw [if_neg (not_or.2 ⟨filled, isName.proper.1⟩), if_neg isName.proper.2, if_pos isName] at entered
  rw [← Except.ok.inj entered, List.getLast?_concat]

/-- Where the last of some names is reached for itself, it is the name of the place. -/
theorem Reaches.getLast? (isName : IsName name) (reaches : t.Reaches .make links place names result)
    (last : names.getLast? = some name) : result.1.getLast? = some name := by
  induction reaches with
  | here => cases last
  | kept make inside entered found =>
    obtain rfl := Option.some.inj last
    exact getLast?_of_enter isName entered
  | @followed links place next first rest target result passed inside entered found further onward
      ih =>
    cases rest with
    | nil => exact absurd ⟨rfl, rfl⟩ further
    | cons second rest =>
      rw [List.getLast?_cons_cons] at last
      exact ih (by rw [List.getLast?_append, last]; rfl)
  | @there links place next first rest entry result passed inside entered found plain onward ih =>
    cases rest with
    | nil =>
      obtain rfl := Option.some.inj last
      cases onward
      exact getLast?_of_enter isName entered
    | cons second rest => exact ih last
  | missing inside entered nothing =>
    obtain rfl := Option.some.inj last
    exact getLast?_of_enter isName entered

/-- Where the last name of a path leads for itself, it is the name of the place. -/
theorem trace_make_getLast? (isName : IsName name) (last : p.parts.getLast? = some name)
    (traced : t.trace .make p = .ok result) : result.1.getLast? = some name := by
  have reaches := (trace_eq_ok.1 traced).2
  rw [if_pos rfl] at reaches
  exact reaches.getLast? isName last

/-- Nothing is reached from a file but the file. -/
theorem Reaches.of_file (reaches : t.Reaches purpose links place names result)
    (file : t.find? place = some (.file node)) : result.1 = place := by
  have noDirectory : directoryAt t.entries place ≠ true := by
    intro inside
    obtain ⟨entry, found, isDirectory⟩ := directoryAt_iff.1 inside
    rw [file] at found
    cases found
    cases isDirectory
  cases reaches with
  | here => rfl
  | kept _ inside | followed _ inside | there _ inside => exact absurd inside noDirectory
  | missing inside => exact absurd (directoryAt_iff.2 ⟨_, inside, rfl⟩) noDirectory

/-- What names reach past a file they reached before the file was there. -/
theorem Reaches.past (reaches : t'.Reaches purpose links place names result)
    (file : t'.find? other = some (.file node))
    (places : ∀ place, place ≠ other → t'.find? place = t.find? place) (apart : result.1 ≠ other) :
    t.Reaches purpose links place names result := by
  -- what is no file was there before
  have before {place : Place} {entry : Entry} (found : t'.find? place = some entry)
      (differs : entry ≠ .file node) : t.find? place = some entry := by
    rw [← places place, found]
    rintro rfl
    exact differs (Option.some.inj (found.symm.trans file))
  have directory {place : Place} (inside : directoryAt t'.entries place = true) :
      directoryAt t.entries place = true := by
    obtain ⟨entry, found, isDirectory⟩ := directoryAt_iff.1 inside
    exact directoryAt_iff.2 ⟨entry, before found (by rintro rfl; cases isDirectory), isDirectory⟩
  induction reaches with
  | here => exact places _ apart ▸ .here
  | kept make inside entered found =>
    exact .kept make (directory inside) entered (before found (by simp))
  | followed passed inside entered found further onward ih =>
    exact .followed passed (directory inside) entered (before found (by simp)) further (ih apart)
  | @there links place next name rest entry result passed inside entered found plain onward ih =>
    refine .there passed (directory inside) entered ?_ plain (ih apart)
    rw [← places next, found]
    rintro rfl
    exact apart (onward.of_file file)
  | missing inside entered nothing =>
    exact .missing (before inside (by simp)) entered (by rw [← places _ apart, nothing])

/-- What a path leads to past a file that was written it led to before. -/
theorem Wrote.trace_past {q : Path} (wrote : t.Wrote t' p s place node) (apart : result.1 ≠ place)
    (traced : t'.trace purpose q = .ok result) : t.trace purpose q = .ok result := by
  obtain ⟨checked, reaches⟩ := trace_eq_ok.1 traced
  rw [wrote.more.current] at reaches
  exact trace_eq_ok.2 ⟨checked, reaches.past wrote.file wrote.places apart⟩

/-- A file is at no other place. -/
def OnlyAt (t : Tree) (node : Nat) (place : Place) : Prop :=
  ∀ other, t.find? other = some (.file node) → other = place

/-- The last name of a path is no link, nor one of several names of a file. -/
structure Unlinked (t : Tree) (p : Path) : Prop where
  plain : ∀ place target, t.trace .make p ≠ .ok (place, some (.link target))
  alone : ∀ place node, t.trace .make p = .ok (place, some (.file node)) → t.OnlyAt node place

/-- A path that leads to nothing is without links. -/
theorem Unlinked.of_missing (traced : t.trace .make p = .ok (place, none)) : t.Unlinked p where
  plain := by simp [traced]
  alone := by simp [traced]

namespace Wrote

/-- A file at one place only is so still after a text was written. -/
theorem onlyAt (wrote : t.Wrote t' p s place node) {kept : Nat}
    (there : t.find? other = some (.file kept)) (alone : t.OnlyAt kept other) :
    t'.OnlyAt kept other := by
  intro third found
  by_cases same : third = place
  · -- the file that was written is this one, so that it was there before
    rw [same] at found ⊢
    obtain rfl : node = kept := Entry.file.inj (Option.some.inj (wrote.file.symm.trans found))
    cases before : t.find? place with
    | none => exact absurd (wrote.fresh before) (Nat.ne_of_lt (kept_of_find? there))
    | some entry =>
      have after := wrote.more.find? before
      rw [found] at after
      exact alone place (before.trans after.symm)
  · exact alone third (by rw [← wrote.places third same, found])

variable (wrote : t.Wrote t' p s place node) (noSlash : p.namesDirectory = false)
  (unlinked : t.Unlinked p)

include wrote noSlash unlinked

/-- Where the last name of a path is no link, it leads for itself to what is written. -/
theorem trace_make : t.trace .make p = .ok (place, t.find? place) := by
  obtain ⟨last, traced, same⟩ := trace_make_of_write noSlash wrote.traced
  have plain (target : Path) : last.2 ≠ some (.link target) := fun link =>
    unlinked.plain last.1 target (by rw [traced, ← link])
  rwa [same plain] at traced

/-- Where the last name of a path is the only one of a file, what is written is only there. -/
theorem onlyAt_self : t'.OnlyAt node place := by
  have traced := wrote.trace_make noSlash unlinked
  intro other found
  by_contra apart
  rw [wrote.places other apart] at found
  cases before : t.find? place with
  | none => exact absurd (wrote.fresh before) (Nat.ne_of_lt (kept_of_find? found))
  | some entry =>
    have after := wrote.more.find? before
    rw [wrote.file] at after
    rw [before, ← Option.some.inj after] at traced
    exact apart (unlinked.alone place node traced other found)

end Wrote

/-- A path with another last name is without links still after a text was written. -/
theorem Unlinked.past {q : Path} {last : String} (unlinked : t.Unlinked q)
    (wrote : t.Wrote t' p s place node) (isLast : IsName last) (ends : q.parts.getLast? = some last)
    (apart : place.getLast? ≠ some last) : t'.Unlinked q := by
  have before {other : Place} {found : Option Entry}
      (traced : t'.trace .make q = .ok (other, found)) : t.trace .make q = .ok (other, found) := by
    refine wrote.trace_past ?_ traced
    rintro rfl
    exact apart (trace_make_getLast? isLast ends traced)
  constructor
  · exact fun other target traced => unlinked.plain other target (before traced)
  · intro other kept traced
    exact wrote.onlyAt (find?_of_trace (before traced)) (unlinked.alone other kept (before traced))

end RecordTyping.Files.Tree

import RecordTyping.Files.Path

/-!
# Entries of a file tree

A file tree has files, directories and symbolic links at places. A place is the list of the names on
the way to it from the root, which is always a directory. What a file holds is kept under a number,
so that one file can be at several places; a symbolic link holds a path. The entries of a tree came
one after the other, each to a place where it fitted: in a directory, under a name that files can
have and that was not taken.
-/

namespace RecordTyping.Files

/-- The names on the way from the root to a file or directory. -/
abbrev Place : Type := List String

/-- What a file holds: a text, or bytes that are none. -/
inductive Contents where
  | text (s : String)
  | bytes (b : ByteArray) (noText : String.fromUTF8? b = none)

/-- What is at a place. -/
inductive Entry where
  /-- A file, by the number under which its contents are kept. -/
  | file (node : Nat)
  | link (target : Path)
  | directory
  /-- A directory that was removed while it was the current one, or above that. Names can still be
  looked up in it, but there are none. -/
  | removed
deriving DecidableEq, Repr

namespace Entry

/-- Whether names can be looked up in an entry. -/
def isDirectory : Entry → Bool
  | .directory | .removed => true
  | .file _ | .link _ => false

def isLink : Entry → Bool
  | .link _ => true
  | .file _ | .directory | .removed => false

/-- Whether the contents of an entry are among a number of kept ones. -/
def isKept (count : Nat) : Entry → Bool
  | .file node => node < count
  | .link _ | .directory | .removed => true

/-- The file of the last of some contents is kept. -/
theorem isKept_last (stored : List Contents) (contents : Contents) :
    (file stored.length).isKept (stored ++ [contents]).length = true := by
  simp [isKept]

theorem isKept_directory (count : Nat) : directory.isKept count = true := rfl

/-- What is kept is kept among more. -/
theorem isKept_mono {entry : Entry} {count count' : Nat} (kept : entry.isKept count = true)
    (more : count ≤ count') : entry.isKept count' = true := by
  cases entry with
  | file node =>
    simp only [isKept, decide_eq_true_eq] at kept ⊢
    omega
  | link | directory | removed => rfl

end Entry

/-- What is at a place, by a list of entries. -/
def entryAt (entries : List (Place × Entry)) (place : Place) : Option Entry :=
  if place.isEmpty then some .directory else entries.lookup place

/-- Whether there is a directory at a place, if only a removed one. -/
def directoryAt (entries : List (Place × Entry)) (place : Place) : Bool :=
  (entryAt entries place).any Entry.isDirectory

/-- Something new can be at a place: under a name that is not taken, in a directory. -/
structure Vacant (entries : List (Place × Entry)) (place : Place) : Prop where
  nothing : entryAt entries place = none
  inside : entryAt entries place.dropLast = some .directory
  named : place.getLast?.all (fun name => Path.IsName name) = true

instance decidableVacant (entries : List (Place × Entry)) (place : Place) :
    Decidable (Vacant entries place) :=
  decidable_of_iff (entryAt entries place = none ∧
      entryAt entries place.dropLast = some .directory ∧
      place.getLast?.all (fun name => Path.IsName name) = true)
    ⟨fun ⟨nothing, inside, named⟩ => ⟨nothing, inside, named⟩,
      fun vacant => ⟨vacant.nothing, vacant.inside, vacant.named⟩⟩

/-- An entry can be at a place besides others. -/
inductive Fits (entries : List (Place × Entry)) (place : Place) : Entry → Prop where
  | file {node : Nat} (vacant : Vacant entries place) : Fits entries place (.file node)
  | link {target : Path} (vacant : Vacant entries place) (checked : target.check.isOk = true) :
      Fits entries place (.link target)
  | directory (vacant : Vacant entries place) : Fits entries place .directory
  /-- A directory that was removed is under a name that no path has, so that it is only known to
  those who are in it. -/
  | removed (nothing : entryAt entries place = none)
      (inside : directoryAt entries place.dropLast = true)
      (nameless : place.getLast?.any (fun name => Path.IsName name) = false) :
      Fits entries place .removed

instance decidableFits (entries : List (Place × Entry)) (place : Place) :
    (entry : Entry) → Decidable (Fits entries place entry)
  | .file _ => decidable_of_iff (Vacant entries place) ⟨.file, fun | .file vacant => vacant⟩
  | .link target => decidable_of_iff (Vacant entries place ∧ target.check.isOk = true)
      ⟨fun ⟨vacant, checked⟩ => .link vacant checked,
        fun | .link vacant checked => ⟨vacant, checked⟩⟩
  | .directory => decidable_of_iff (Vacant entries place)
      ⟨.directory, fun | .directory vacant => vacant⟩
  | .removed => decidable_of_iff (entryAt entries place = none ∧
        directoryAt entries place.dropLast = true ∧
        place.getLast?.any (fun name => Path.IsName name) = false)
      ⟨fun ⟨nothing, inside, nameless⟩ => .removed nothing inside nameless,
        fun | .removed nothing inside nameless => ⟨nothing, inside, nameless⟩⟩

/-- Entries that came one after the other, the newest first, each to a place where it fitted. -/
def Grown : List (Place × Entry) → Prop
  | [] => True
  | (place, entry) :: older => Fits older place entry ∧ Grown older

instance decidableGrown : (entries : List (Place × Entry)) → Decidable (Grown entries)
  | [] => .isTrue trivial
  | (place, entry) :: older =>
    have := decidableGrown older
    inferInstanceAs (Decidable (Fits older place entry ∧ Grown older))

section Entries

variable {entries : List (Place × Entry)} {place other : Place} {entry new : Entry}

/-- Where nothing was, a new entry is found, and everything else where it was. -/
theorem entryAt_cons (nothing : entryAt entries place = none) :
    entryAt ((place, new) :: entries) other =
      if other = place then some new else entryAt entries other := by
  have below : place ≠ [] := by
    rintro rfl
    cases nothing
  by_cases same : other = place
  · have kept : place.isEmpty = false := List.isEmpty_eq_false_iff.2 below
    rw [if_pos same, same, entryAt, kept, List.lookup_cons]
    simp
  · have unequal : (other == place) = false := by simpa using same
    rw [if_neg same, entryAt, entryAt, List.lookup_cons, unequal]

/-- What was at a place is there still when something new is at another. -/
theorem entryAt_older (nothing : entryAt entries place = none)
    (found : entryAt entries other = some entry) :
    entryAt ((place, new) :: entries) other = some entry := by
  rw [entryAt_cons nothing, if_neg ?_, found]
  rintro rfl
  rw [nothing] at found
  cases found

/-- Directories stay. -/
theorem directoryAt_older (nothing : entryAt entries place = none)
    (directory : directoryAt entries other = true) :
    directoryAt ((place, new) :: entries) other = true := by
  obtain ⟨entry, found, isDirectory⟩ := (Option.any_eq_true _ _).1 directory
  rw [directoryAt, entryAt_older nothing found]
  exact isDirectory

/-- Nothing was where an entry fits. -/
theorem Fits.nothing (fits : Fits entries place entry) : entryAt entries place = none := by
  cases fits with
  | file vacant | link vacant | directory vacant => exact vacant.nothing
  | removed nothing => exact nothing

/-- A place where there is room is in a directory. -/
theorem Vacant.above (vacant : Vacant entries place) :
    directoryAt entries place.dropLast = true := by
  rw [directoryAt, vacant.inside]
  rfl

/-- A place where an entry fits is in a directory. -/
theorem Fits.above (fits : Fits entries place entry) :
    directoryAt entries place.dropLast = true := by
  cases fits with
  | file vacant | link vacant | directory vacant => exact vacant.above
  | removed nothing inside nameless => exact inside

/-- The place above an entry is a directory. -/
theorem Grown.above (grown : Grown entries) (found : entryAt entries place = some entry) :
    directoryAt entries place.dropLast = true := by
  induction entries with
  | nil =>
    by_cases root : place = []
    · rw [root]
      rfl
    · simp [entryAt, root] at found
  | cons e entries ih =>
    obtain ⟨newest, new⟩ := e
    obtain ⟨fits, grown⟩ := grown
    rw [entryAt_cons fits.nothing] at found
    by_cases same : place = newest
    · rw [same]
      exact directoryAt_older fits.nothing fits.above
    · rw [if_neg same] at found
      exact directoryAt_older fits.nothing (ih grown found)

/-- A directory is under a name, in a directory that is there as well. -/
theorem Grown.directory {name : String} (grown : Grown entries)
    (found : entryAt entries (place ++ [name]) = some .directory) :
    Path.IsName name ∧ entryAt entries place = some .directory := by
  induction entries with
  | nil => simp [entryAt] at found
  | cons e entries ih =>
    obtain ⟨newest, new⟩ := e
    obtain ⟨fits, grown⟩ := grown
    rw [entryAt_cons fits.nothing] at found
    by_cases same : place ++ [name] = newest
    · rw [if_pos same] at found
      obtain rfl := Option.some.inj found
      cases fits with
      | directory vacant =>
        have named := vacant.named
        have inside := vacant.inside
        rw [← same, List.getLast?_concat] at named
        rw [← same, List.dropLast_concat] at inside
        exact ⟨by simpa using named, entryAt_older vacant.nothing inside⟩
    · rw [if_neg same] at found
      obtain ⟨isName, inside⟩ := ih grown found
      exact ⟨isName, entryAt_older fits.nothing inside⟩

end Entries

end RecordTyping.Files

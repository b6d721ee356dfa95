import RecordTyping.Files.Entry

/-!
# File trees

A file tree has entries at places, what its files hold, and a current directory. A path is followed
name by name, from the root or from the current directory: each place on the way must be a
directory, two points lead back to the place above, and where a link is met its path is followed
first. A link at the end of a path is followed as well, unless a directory is to be made there.

Left out are permissions, times, special files, file systems that are full or read-only, names that
are no text, and other programs that change the tree in the meantime.
-/

namespace RecordTyping.Files

/-- A file tree, and the place in it that is the current directory. -/
structure Tree where
  entries : List (Place × Entry)
  /-- What files hold, by their numbers. -/
  stored : List Contents
  current : Place
  grown : Grown entries
  /-- Every file has contents. -/
  kept : ∀ e ∈ entries, e.2.isKept stored.length = true
  standing : directoryAt entries current = true

namespace Tree

/-- What is at a place. -/
def find? (t : Tree) (place : Place) : Option Entry := entryAt t.entries place

/-- What the file at a place holds. -/
def holding? (t : Tree) (place : Place) : Option Contents :=
  match t.find? place with
  | some (.file node) => t.stored[node]?
  | _ => none

/-- The tree with something new at a place, and more contents that may be those of a new file. -/
def put (t : Tree) (place : Place) (entry : Entry) (more : List Contents)
    (fits : Fits t.entries place entry)
    (kept : entry.isKept (t.stored ++ more).length = true) : Tree where
  entries := (place, entry) :: t.entries
  stored := t.stored ++ more
  current := t.current
  grown := ⟨fits, t.grown⟩
  kept := List.forall_mem_cons.2 ⟨kept, fun e member =>
    Entry.isKept_mono (t.kept e member) (by simp)⟩
  standing := directoryAt_older fits.nothing t.standing

/-- The tree with other contents in the file of a number. -/
def store (t : Tree) (node : Nat) (contents : Contents) : Tree where
  entries := t.entries
  stored := t.stored.set node contents
  current := t.current
  grown := t.grown
  kept := by rw [List.length_set]; exact t.kept
  standing := t.standing

/-! ## Following paths -/

/-- What a path is followed for. -/
inductive Purpose where
  /-- To use what is there. -/
  | find
  /-- To write a file, which may be a new one. -/
  | write
  /-- To make a directory under the last name of the path, where there must be nothing, not even a
  link. -/
  | make
deriving DecidableEq

/-- A place must be a directory for its names to be looked at. -/
def requireDirectory (t : Tree) (place : Place) : Except Fault Unit :=
  match t.find? place with
  | some entry => if entry.isDirectory then .ok () else .error .notADirectory
  | none => .error .notFound

/-- The place that a name leads to, whether or not there is anything. Of a path that the system
takes, only the size of a name can be wrong. -/
def enter (place : Place) (name : String) : Except Fault Place :=
  if name = "" ∨ name = "." then .ok place
  else if name = ".." then .ok place.dropLast
  else if Path.IsName name then .ok (place ++ [name])
  else .error .nameTooLong

/-- The place that names lead to from another, and what is there; only at the last of them there may
be nothing. Where a link is met, `follow` says what its path and the names after it lead to from
the place of the link. -/
def walk (t : Tree) (purpose : Purpose)
    (follow : Place → Path → List String → Except Fault (Place × Option Entry)) :
    Place → List String → Except Fault (Place × Option Entry)
  | place, [] => .ok (place, t.find? place)
  | place, name :: rest => do
    t.requireDirectory place
    -- nothing is written under a name with a slash behind it
    if purpose = .write ∧ rest = [""] then throw .isADirectory
    else
      let next ← enter place name
      match t.find? next with
      | some (.link target) =>
        if purpose = .make ∧ rest = [] then .ok (next, some (.link target))
        else follow place target rest
      | some _ => t.walk purpose follow next rest
      | none =>
        if rest = [] ∧ t.find? place = some .directory then .ok (next, none)
        else .error .notFound

/-- The place from which a path is followed that is met at a place. -/
def start (place : Place) (p : Path) : Place := if p.isAbsolute then [] else place

/-- The place that names lead to from another over at most a number of links, and what is there. -/
def reach (t : Tree) (purpose : Purpose) :
    Nat → Place → List String → Except Fault (Place × Option Entry)
  | 0 => t.walk purpose fun _ _ _ => throw .tooManyLinks
  | links + 1 => t.walk purpose fun place target rest =>
    t.reach purpose links (start place target) (target.steps ++ rest)

/-- The most links that are followed on the way to a place. -/
def maxLinks : Nat := 40

/-- The place that a path leads to, and what is there. A directory may be made under a name with a
slash behind it. -/
def trace (t : Tree) (purpose : Purpose) (p : Path) : Except Fault (Place × Option Entry) := do
  p.check
  t.reach purpose maxLinks (start t.current p) (if purpose = .make then p.parts else p.steps)

/-- Names lead from a place to another over at most a number of links, and to what is there. Only
where the last of them leads there may be nothing. -/
inductive Reaches (t : Tree) (purpose : Purpose) :
    Nat → Place → List String → Place × Option Entry → Prop where
  | here {links : Nat} {place : Place} : Reaches t purpose links place [] (place, t.find? place)
  /-- A link is taken for itself. -/
  | kept {links : Nat} {place next : Place} {name : String} {target : Path} (make : purpose = .make)
      (inside : directoryAt t.entries place = true) (entered : enter place name = .ok next)
      (found : t.find? next = some (.link target)) :
      Reaches t purpose links place [name] (next, some (.link target))
  /-- A link is followed. -/
  | followed {links : Nat} {place next : Place} {name : String} {rest : List String} {target : Path}
      {result : Place × Option Entry} (passed : ¬(purpose = .write ∧ rest = [""]))
      (inside : directoryAt t.entries place = true) (entered : enter place name = .ok next)
      (found : t.find? next = some (.link target)) (further : ¬(purpose = .make ∧ rest = []))
      (onward : Reaches t purpose links (start place target) (target.steps ++ rest) result) :
      Reaches t purpose (links + 1) place (name :: rest) result
  /-- Something else is there. -/
  | there {links : Nat} {place next : Place} {name : String} {rest : List String} {entry : Entry}
      {result : Place × Option Entry} (passed : ¬(purpose = .write ∧ rest = [""]))
      (inside : directoryAt t.entries place = true) (entered : enter place name = .ok next)
      (found : t.find? next = some entry) (plain : entry.isLink = false)
      (onward : Reaches t purpose links next rest result) :
      Reaches t purpose links place (name :: rest) result
  /-- Nothing is there, but something could be. -/
  | missing {links : Nat} {place next : Place} {name : String}
      (inside : t.find? place = some .directory) (entered : enter place name = .ok next)
      (nothing : t.find? next = none) : Reaches t purpose links place [name] (next, none)

section Following

variable {t : Tree} {purpose : Purpose} {links : Nat} {place next : Place} {name : String}
  {names rest : List String} {result : Place × Option Entry}
  {follow : Place → Path → List String → Except Fault (Place × Option Entry)}

/-- Names may be looked up in a directory. -/
theorem requireDirectory_eq_ok :
    t.requireDirectory place = .ok () ↔ directoryAt t.entries place = true := by
  unfold requireDirectory directoryAt find?
  cases entryAt t.entries place with
  | none => simp
  | some entry => cases directory : entry.isDirectory <;> simp [directory]

/-- A first name leads from a directory to a place, and the way on depends on what is there. -/
theorem walk_cons (passed : ¬(purpose = .write ∧ rest = [""]))
    (inside : directoryAt t.entries place = true) (entered : enter place name = .ok next) :
    t.walk purpose follow place (name :: rest) =
      match t.find? next with
      | some (.link target) =>
        if purpose = .make ∧ rest = [] then .ok (next, some (.link target))
        else follow place target rest
      | some _ => t.walk purpose follow next rest
      | none =>
        if rest = [] ∧ t.find? place = some .directory then .ok (next, none)
        else .error .notFound := by
  rw [walk, requireDirectory_eq_ok.2 inside, entered]
  simp only [bind, Except.bind, if_neg passed]

/-- Names lead somewhere only from a directory, by a first name that leads to a place. -/
theorem enter_of_walk (walked : t.walk purpose follow place (name :: rest) = .ok result) :
    ¬(purpose = .write ∧ rest = [""]) ∧ directoryAt t.entries place = true ∧
      ∃ next, enter place name = .ok next := by
  rw [walk] at walked
  cases required : t.requireDirectory place with
  | error fault => simp [required, bind, Except.bind] at walked
  | ok _ =>
    by_cases slash : purpose = .write ∧ rest = [""]
    · simp [required, bind, Except.bind, slash, throw, throwThe, MonadExceptOf.throw] at walked
    · cases entered : enter place name with
      | error fault => simp [required, bind, Except.bind, slash, entered] at walked
      | ok next => exact ⟨slash, requireDirectory_eq_ok.1 required, next, rfl⟩

/-- What names lead to they reach, if that is so of the paths of links. -/
theorem Reaches.of_walk (followed : ∀ {place target rest}, follow place target rest = .ok result →
      ∃ fewer, links = fewer + 1 ∧
        t.Reaches purpose fewer (start place target) (target.steps ++ rest) result)
    (walked : t.walk purpose follow place names = .ok result) :
    t.Reaches purpose links place names result := by
  induction names generalizing place with
  | nil =>
    cases walked
    exact .here
  | cons name rest ih =>
    obtain ⟨passed, inside, next, entered⟩ := enter_of_walk walked
    rw [walk_cons passed inside entered] at walked
    split at walked
    · next target found =>
      split at walked
      · next last =>
        obtain ⟨make, rfl⟩ := last
        cases walked
        exact .kept make inside entered found
      · next further =>
        obtain ⟨fewer, rfl, onward⟩ := followed walked
        exact .followed passed inside entered found further onward
    · next entry other found =>
      refine .there passed inside entered found ?_ (ih walked)
      cases entry with
      | link target => exact absurd rfl (other target)
      | file | directory | removed => rfl
    · next nothing =>
      split at walked
      · next room =>
        obtain ⟨rfl, directory⟩ := room
        cases walked
        exact .missing directory entered nothing
      · cases walked

/-- Names are followed in one way, whatever number of links is left. -/
theorem exists_reach_eq (t : Tree) (purpose : Purpose) (links : Nat) :
    ∃ follow, t.reach purpose links = t.walk purpose follow := by
  cases links <;> exact ⟨_, rfl⟩

/-- Following names leads exactly to what they reach. -/
theorem reach_eq_ok : t.reach purpose links place names = .ok result ↔
    t.Reaches purpose links place names result := by
  constructor
  · intro reached
    induction links generalizing place names with
    | zero => exact .of_walk (fun followed => by cases followed) reached
    | succ links ih => exact .of_walk (fun followed => ⟨links, rfl, ih followed⟩) reached
  · intro reaches
    induction reaches with
    | @here links place =>
      obtain ⟨follow, same⟩ := t.exists_reach_eq purpose links
      rw [same, walk]
    | @kept links place next name target make inside entered found =>
      obtain ⟨follow, same⟩ := t.exists_reach_eq purpose links
      rw [same, walk_cons (by simp) inside entered, found]
      simp [make]
    | followed passed inside entered found further onward ih =>
      rw [reach, walk_cons passed inside entered, found]
      simpa only [further, if_false] using ih
    | @there links place next name rest entry result passed inside entered found plain onward ih =>
      obtain ⟨follow, same⟩ := t.exists_reach_eq purpose links
      rw [same] at ih
      rw [same, walk_cons passed inside entered, found]
      cases entry with
      | link => cases plain
      | file | directory | removed => exact ih
    | @missing links place next name inside entered nothing =>
      obtain ⟨follow, same⟩ := t.exists_reach_eq purpose links
      have directory : directoryAt t.entries place = true := by
        rw [directoryAt, show entryAt t.entries place = some .directory from inside]
        rfl
      rw [same, walk_cons (by simp) directory entered, nothing]
      simp [inside]

/-- A path has been found good and then followed. -/
theorem trace_eq_ok {p : Path} : t.trace purpose p = .ok result ↔
    p.check = .ok () ∧ t.Reaches purpose maxLinks (start t.current p)
      (if purpose = .make then p.parts else p.steps) result := by
  rw [trace, ← reach_eq_ok]
  cases p.check <;> simp [bind, Except.bind]

/-- A directory is there. -/
theorem find?_ne_none (inside : directoryAt t.entries place = true) : t.find? place ≠ none := by
  intro nothing
  rw [directoryAt, show entryAt t.entries place = none from nothing] at inside
  cases inside

/-- Where a name leads from a directory but to nothing, there is room. -/
theorem vacant_of_enter (inside : t.find? place = some .directory)
    (entered : enter place name = .ok next) (nothing : t.find? next = none) :
    Vacant t.entries next := by
  unfold enter at entered
  split at entered
  · -- the same place, which is a directory
    cases entered
    rw [inside] at nothing
    cases nothing
  · split at entered
    · -- the place above a directory, which is one as well
      cases entered
      exact absurd nothing (find?_ne_none (t.grown.above inside))
    · split at entered
      · next isName =>
        cases entered
        exact ⟨nothing, by rw [List.dropLast_concat]; exact inside,
          by rw [List.getLast?_concat]; simpa using isName⟩
      · cases entered

/-- Where names reach nothing there is room. -/
theorem Reaches.vacant (reaches : t.Reaches purpose links place names result)
    (there : t.find? place ≠ none) (nothing : result.2 = none) : Vacant t.entries result.1 := by
  induction reaches with
  | here => exact absurd nothing there
  | kept => cases nothing
  | @followed links place next name rest target result passed inside entered found further onward
      ih =>
    refine ih ?_ nothing
    unfold start
    split
    · nofun
    · exact there
  | there passed inside entered found plain onward ih => exact ih (by simp [found]) nothing
  | missing inside entered absent => exact vacant_of_enter inside entered absent

/-- Where a path leads to nothing there is room. -/
theorem vacant_of_trace {p : Path} (traced : t.trace purpose p = .ok (next, none)) :
    Vacant t.entries next := by
  refine (trace_eq_ok.1 traced).2.vacant ?_ rfl
  unfold start
  split
  · nofun
  · exact find?_ne_none t.standing

end Following

/-! ## Reading and writing -/

/-- The place that a path leads to, where there must be something. -/
def locate (t : Tree) (p : Path) : Except Fault Place := do
  match ← t.trace .find p with
  | (place, some _) => return place
  | (_, none) => throw .notFound

/-- Whether there is something at a path. -/
def isPresent (t : Tree) (p : Path) : Bool := (t.locate p).isOk

/-- Whether there is a directory at a path. -/
def isDirectory (t : Tree) (p : Path) : Bool :=
  match t.locate p with
  | .ok place => directoryAt t.entries place
  | .error _ => false

/-- The text of the file at a path. What holds nothing is a directory. -/
def read (t : Tree) (p : Path) : Except Fault String := do
  match t.holding? (← t.locate p) with
  | some (.text s) => return s
  | some (.bytes ..) => throw .notText
  | none => throw .isADirectory

/-- The tree with a new directory at a path. -/
def makeDirectory (t : Tree) (p : Path) : Except Fault Tree :=
  match traced : t.trace .make p with
  | .error fault => .error fault
  | .ok (_, some _) => .error .alreadyExists
  | .ok (place, none) => 
    .ok (t.put place .directory [] (.directory (vacant_of_trace traced)) (Entry.isKept_directory _))

/-- The tree with a text in the file at a path. -/
def write (t : Tree) (p : Path) (s : String) : Except Fault Tree :=
  match traced : t.trace .write p with
  | .error fault => .error fault
  | .ok (_, some (.file node)) => .ok (t.store node (.text s))
  | .ok (_, some _) => .error .isADirectory
  | .ok (place, none) =>
    .ok (t.put place (.file t.stored.length) [.text s] (.file (vacant_of_trace traced))
      (Entry.isKept_last t.stored (.text s)))

end Tree

end RecordTyping.Files

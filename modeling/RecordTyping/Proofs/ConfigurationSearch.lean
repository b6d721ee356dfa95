import RecordTyping.Proofs.DeskRuns
import RecordTyping.Proofs.FileTree
import RecordTyping.Proofs.Places
import RecordTyping.Proofs.Traversal

/-!
# Which configuration is found

A search looks into the current directory and those above it, ten in all, the nearest first. The
nearest that has a file at all decides if that file is a configuration. If it is none, a warning
says that the defaults are used, and yet the search goes on: the next file above that is a
configuration counts.
-/

namespace RecordTyping

open Files (Fault Path Place)
open Files.Path (IsName)

namespace Desk

variable {d : Desk} {directory : Place} {farther nearer : List Place} {text : String}
  {c : Configuration}

/-- The directories that a search looks into, the nearest first. -/
def searched (d : Desk) : List Place := d.tree.current.inits.reverse.take Configuration.searchDepth

/-- The path of the configuration file of a directory. -/
def settingsPath (directory : Place) : Path := pathOf (directory ++ [Configuration.fileName])

/-- The text of the configuration file of a directory. -/
def settings (d : Desk) (directory : Place) : Except Fault String :=
  d.tree.read (settingsPath directory)

/-- The configuration of a directory, if its file is there and is one. -/
def accepted? (d : Desk) (directory : Place) : Option Configuration :=
  (d.settings directory).toOption.bind fun text => (Configuration.read text).toOption

/-- A directory has the nearest configuration file of those that a search looks into, with some
text, and behind it some directories are left. -/
structure Nearest (d : Desk) (directory : Place) (text : String) (farther : List Place) : Prop where
  /-- The directories before it have no configuration file. -/
  split : ∃ nearer, d.searched = nearer ++ directory :: farther ∧
    ∀ other ∈ nearer, d.settings other = .error .notFound
  present : d.settings directory = .ok text

theorem isName_fileName : IsName Configuration.fileName := by decide +kernel

/-- A current directory that is there has a path. -/
theorem whereabouts_eq (there : d.tree.find? d.tree.current = some .directory) :
    d.whereabouts = .ok (pathOf d.tree.current) := by rw [whereabouts, if_pos there]

/-- The files that a search tries are those of the directories that it looks into. -/
theorem candidates_eq (there : d.tree.find? d.tree.current = some .directory) :
    Configuration.candidates (pathOf d.tree.current) = d.searched.map settingsPath := by
  have names := Files.Tree.names_of_directory there
  rw [Configuration.candidates, ancestors_pathOf names, ← searched, List.map_map]
  refine List.map_congr_left fun directory member => join_pathOf (fun name inside => ?_)
    isName_fileName
  have above : directory <+: d.tree.current :=
    (List.mem_inits _ _).1 (List.mem_reverse.1 (List.mem_of_mem_take member))
  exact names name (above.subset inside)

/-- A search finds the configuration of the nearest directory that has one. -/
theorem found_eq (there : d.tree.find? d.tree.current = some .directory) :
    d.found = (d.searched.findSome? d.accepted?).getD .standard := by
  simp only [found, whereabouts_eq there, candidates_eq there, List.findSome?_map]
  rfl

/-- Of some directories either none has a configuration file or one has the nearest. -/
theorem missing_or_nearest {directories : List Place}
    (readable : ∀ directory ∈ directories, d.settings directory = .error .notFound ∨
      ∃ text, d.settings directory = .ok text) :
    (∀ directory ∈ directories, d.settings directory = .error .notFound) ∨
      ∃ nearer directory text farther, directories = nearer ++ directory :: farther ∧
        (∀ other ∈ nearer, d.settings other = .error .notFound) ∧
        d.settings directory = .ok text := by
  induction directories with
  | nil => exact Or.inl fun _ member => absurd member List.not_mem_nil
  | cons first rest ih =>
    rw [List.forall_mem_cons] at readable
    rcases readable.1 with missing | ⟨text, present⟩
    · rcases ih readable.2 with none | ⟨nearer, directory, text, farther, rfl, none, present⟩
      · exact Or.inl (List.forall_mem_cons.2 ⟨missing, none⟩)
      · exact Or.inr ⟨first :: nearer, directory, text, farther, rfl,
          List.forall_mem_cons.2 ⟨missing, none⟩, present⟩
    · exact Or.inr ⟨[], first, text, rest, rfl, fun _ member => absurd member List.not_mem_nil,
        present⟩

/-- A directory without a configuration file has no configuration. -/
theorem accepted?_missing (missing : d.settings directory = .error .notFound) :
    d.accepted? directory = none := by
  rw [accepted?, missing]
  rfl

/-- Directories without a configuration file are passed over. -/
theorem findSome?_missing (missing : ∀ other ∈ nearer, d.settings other = .error .notFound)
    (rest : List Place) :
    (nearer ++ rest).findSome? d.accepted? = rest.findSome? d.accepted? := by
  have none : nearer.findSome? d.accepted? = none :=
    List.findSome?_eq_none_iff.2 fun other member => accepted?_missing (missing other member)
  rw [List.findSome?_append, none, Option.none_or]

/-- Nothing is said of directories without a configuration file. -/
theorem triedLines_missing (missing : ∀ other ∈ nearer, d.settings other = .error .notFound)
    (rest : List Place) :
    d.triedLines ((nearer ++ rest).map settingsPath) = d.triedLines (rest.map settingsPath) := by
  induction nearer with
  | nil => rfl
  | cons first nearer ih =>
    rw [List.forall_mem_cons] at missing
    have silent : d.triedLine? (settingsPath first) = none := by
      rw [triedLine?, ← settings, missing.1]
    have nothing : d.loaded? (settingsPath first) = none := accepted?_missing missing.1
    rw [List.cons_append, List.map_cons, triedLines, silent, nothing, ih missing.2]
    rfl

namespace Nearest

variable {e : ConfigurationError}

/-- One directory at most has the nearest configuration file. -/
theorem unique {directory' : Place} {text' : String} {farther' : List Place}
    (nearest : d.Nearest directory text farther) (other : d.Nearest directory' text' farther') :
    directory = directory' ∧ text = text' ∧ farther = farther' := by
  obtain ⟨nearer, split, missing⟩ := nearest.split
  obtain ⟨nearer', split', missing'⟩ := other.split
  -- a directory with a file is not among those before the other
  have apart : directory ∉ nearer' := by
    intro member
    have absent := missing' directory member
    rw [nearest.present] at absent
    cases absent
  have apart' : directory' ∉ nearer := by
    intro member
    have absent := missing directory' member
    rw [other.present] at absent
    cases absent
  have same : directory = directory' ∧ farther = farther' := by
    rw [split] at split'
    rcases List.append_eq_append_iff.1 split' with ⟨more, front, back⟩ | ⟨more, front, back⟩
    · cases more with
      | nil => exact List.cons.inj back
      | cons first more =>
        obtain ⟨rfl, -⟩ := List.cons.inj back
        rw [front] at apart
        exact absurd (List.mem_append_right nearer List.mem_cons_self) apart
    · cases more with
      | nil =>
        obtain ⟨same, rest⟩ := List.cons.inj back
        exact ⟨same.symm, rest.symm⟩
      | cons first more =>
        obtain ⟨rfl, -⟩ := List.cons.inj back
        rw [front] at apart'
        exact absurd (List.mem_append_right nearer' List.mem_cons_self) apart'
  obtain ⟨rfl, rfl⟩ := same
  exact ⟨rfl, Except.ok.inj (nearest.present.symm.trans other.present), rfl⟩

/-- What is searched before the nearest file makes no difference to what is found. -/
theorem found_eq (nearest : d.Nearest directory text farther)
    (there : d.tree.find? d.tree.current = some .directory) :
    d.found = ((directory :: farther).findSome? d.accepted?).getD .standard := by
  obtain ⟨nearer, split, missing⟩ := nearest.split
  rw [Desk.found_eq there, split, findSome?_missing missing]

/-- The nearest file counts if it is a configuration. -/
theorem found_accepted (nearest : d.Nearest directory text farther)
    (there : d.tree.find? d.tree.current = some .directory)
    (read : Configuration.read text = .ok c) :
    d.found = c := by
  have accepted : d.accepted? directory = some c := by
    rw [accepted?, nearest.present]
    exact congrArg Except.toOption read
  rw [nearest.found_eq there, List.findSome?_cons, accepted]
  rfl

/-- If the nearest file is no configuration, the next that is one counts. -/
theorem found_refused (nearest : d.Nearest directory text farther)
    (there : d.tree.find? d.tree.current = some .directory)
    (refused : Configuration.read text = .error e) :
    d.found = (farther.findSome? d.accepted?).getD .standard := by
  have none : d.accepted? directory = none := by
    rw [accepted?, nearest.present]
    exact congrArg Except.toOption refused
  rw [nearest.found_eq there, List.findSome?_cons, none]

/-- What is said first about the nearest file that is no configuration is that the defaults are
used. -/
theorem searchLines_refused (nearest : d.Nearest directory text farther)
    (there : d.tree.find? d.tree.current = some .directory)
    (refused : Configuration.read text = .error e) :
    ∃ later, d.searchLines = Configuration.searchLine .warning ("Ignoring " ++
      (settingsPath directory).text ++ ": " ++ e.message ++ ". Using defaults.") :: later := by
  obtain ⟨nearer, split, missing⟩ := nearest.split
  have warned : d.triedLine? (settingsPath directory) = some (Configuration.searchLine .warning
      ("Ignoring " ++ (settingsPath directory).text ++ ": " ++ e.message ++
        ". Using defaults.")) := by
    rw [triedLine?, ← settings, nearest.present]
    dsimp only
    rw [refused]
  simp only [searchLines, whereabouts_eq there]
  rw [candidates_eq there, split, triedLines_missing missing, List.map_cons,
    triedLines, warned]
  exact ⟨_, rfl⟩

end Nearest

/-- A search is decided by the nearest of the first ten directories that has a configuration file,
if this file is a configuration; without any file the defaults are found. A nearest file that is no
configuration is warned of, and then the directories behind it decide: the nearest of them with a
configuration counts, and only without one the defaults do. -/
theorem search_nearest_present (d : Desk) (there : d.tree.find? d.tree.current = some .directory)
    (readable : ∀ directory ∈ d.searched, d.settings directory = .error .notFound ∨
      ∃ text, d.settings directory = .ok text) :
    ∃ c lines, d.perform Configuration.search = (.ok c, d.noteAll lines) ∧
      ((∀ directory ∈ d.searched, d.settings directory = .error .notFound) ∧ c = .standard ∨
        ∃ directory text farther, d.Nearest directory text farther ∧
          (Configuration.read text = .ok c ∨
            ∃ e later, Configuration.read text = .error e ∧
              c = (farther.findSome? d.accepted?).getD .standard ∧
              lines = Configuration.searchLine .warning ("Ignoring " ++
                (settingsPath directory).text ++ ": " ++ e.message ++ ". Using defaults.") ::
                later)) := by
  refine ⟨d.found, d.searchLines, perform_search d, ?_⟩
  rcases missing_or_nearest readable with missing | ⟨nearer, directory, text, farther, split,
    missing, present⟩
  · left
    have none : d.searched.findSome? d.accepted? = none :=
      List.findSome?_eq_none_iff.2 fun other member => accepted?_missing (missing other member)
    exact ⟨missing, by rw [found_eq there, none, Option.getD_none]⟩
  · right
    have nearest : d.Nearest directory text farther := ⟨⟨nearer, split, missing⟩, present⟩
    refine ⟨directory, text, farther, nearest, ?_⟩
    cases read : Configuration.read text with
    | ok c => exact Or.inl (congrArg Except.ok (nearest.found_accepted there read).symm)
    | error e =>
      obtain ⟨later, lines⟩ := nearest.searchLines_refused there read
      exact Or.inr ⟨e, later, rfl, nearest.found_refused there read, lines⟩

/-- The text of a configuration. -/
def acceptedText : String := "[framework]\nversion = \"6.0.3\"\n"

/-- A text that is no configuration, since its version is none. -/
def refusedText : String := "[framework]\nversion = \"latest\"\n"

/-- A tree whose current directory has no configuration file. The directory above and the root have
one each. -/
def nestedTree (near far : String) : Files.Tree where
  entries := [(["app", ".ormsig.toml"], .file 0), ([".ormsig.toml"], .file 1),
    (["app", "lib"], .directory), (["app"], .directory)]
  stored := [.text near, .text far]
  current := ["app", "lib"]
  grown := by decide +kernel
  kept := by
    change ∀ e ∈ _, Files.Entry.isKept 2 (Prod.snd e) = true
    decide +kernel
  standing := by decide +kernel

/-- A desk in such a directory. -/
def nested (near far : String) : Desk := .start (nestedTree near far) 0

theorem nested_there (near far : String) :
    (nested near far).tree.find? (nested near far).tree.current = some .directory := rfl

/-- The nearest file is accepted, and counts, whatever the root has. -/
theorem search_nearest_present_accepted :
    let d := nested acceptedText refusedText
    (∀ directory ∈ d.searched, d.settings directory = .error .notFound ∨
      ∃ text, d.settings directory = .ok text) ∧
    d.Nearest ["app"] acceptedText [[]] ∧
    ∃ lines, d.perform Configuration.search =
      (.ok ⟨some ⟨some "6.0.3"⟩, none⟩, d.noteAll lines) := by
  intro d
  have searched : d.searched = [["app", "lib"], ["app"], []] := rfl
  have missing : d.settings ["app", "lib"] = .error .notFound := by decide +kernel
  have near : d.settings ["app"] = .ok acceptedText := by decide +kernel
  have far : d.settings [] = .ok refusedText := by decide +kernel
  have readable : ∀ directory ∈ d.searched,
      d.settings directory = .error .notFound ∨ ∃ text, d.settings directory = .ok text := by
    rw [searched]
    intro directory member
    simp only [List.mem_cons, List.not_mem_nil, or_false] at member
    rcases member with rfl | rfl | rfl
    · exact Or.inl missing
    · exact Or.inr ⟨_, near⟩
    · exact Or.inr ⟨_, far⟩
  have nearest : d.Nearest ["app"] acceptedText [[]] :=
    ⟨⟨[["app", "lib"]], searched, List.forall_mem_singleton.2 missing⟩, near⟩
  have accepted : Configuration.read acceptedText = .ok ⟨some ⟨some "6.0.3"⟩, none⟩ :=
    Traversal.eq_ok_of_toOption (by decide +kernel)
  obtain ⟨c, lines, done, ⟨none, -⟩ | ⟨directory, text, farther, found, outcome⟩⟩ :=
    search_nearest_present d (nested_there _ _) readable
  · rw [none ["app"] (by simp [searched])] at near
    cases near
  · obtain ⟨rfl, rfl, rfl⟩ := found.unique nearest
    rw [accepted] at outcome
    rcases outcome with same | ⟨e, -, refused, -⟩
    · obtain rfl := Except.ok.inj same
      exact ⟨readable, nearest, lines, done⟩
    · cases refused

/-- The nearest file is refused and the log says that the defaults are used, but the settings of a
farther file are found, and they are not the defaults. -/
theorem search_past_refused :
    let d := nested refusedText acceptedText
    d.Nearest ["app"] refusedText [[]] ∧
      ∃ e later, Configuration.read refusedText = .error e ∧
        d.perform Configuration.search = (.ok ⟨some ⟨some "6.0.3"⟩, none⟩,
          d.noteAll (Configuration.searchLine .warning ("Ignoring /app/.ormsig.toml: " ++
            e.message ++ ". Using defaults.") :: later)) ∧
        (⟨some ⟨some "6.0.3"⟩, none⟩ : Configuration) ≠ .standard := by
  intro d
  have nearest : d.Nearest ["app"] refusedText [[]] :=
    ⟨⟨[["app", "lib"]], rfl, List.forall_mem_singleton.2 (by decide +kernel)⟩, by decide +kernel⟩
  have found : d.found = ⟨some ⟨some "6.0.3"⟩, none⟩ := by decide +kernel
  have refused : (Configuration.read refusedText).toOption = none := by decide +kernel
  cases read : Configuration.read refusedText with
  | ok c =>
    rw [read] at refused
    cases refused
  | error e =>
    obtain ⟨later, lines⟩ := nearest.searchLines_refused (nested_there _ _) read
    refine ⟨nearest, e, later, rfl, ?_, by decide⟩
    rw [perform_search, found, lines]
    rfl

end Desk

end RecordTyping

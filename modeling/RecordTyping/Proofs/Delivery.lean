import RecordTyping.Proofs.DeskRuns
import RecordTyping.Proofs.FileTree
import Mathlib.Data.List.Nodup

/-!
# Printing and writing files

Printing files adds their contents to what was printed. Writing them first makes the directory and
those above it where they are missing, and then puts each text into the file that its path leads to.
Over links, or where a file has several names, two paths may lead to one file, which then has what
was written to it last. If the names of the files are neither, each file is at a place of its own,
under its name. Everything else in the file tree stays as it was, even if the writing stops half
way.
-/

namespace RecordTyping

open Files (Entry Fault Path Place Tree)

namespace Files.Tree

variable {t t' t'' : Tree} {place : Place} {node node' : Nat} {paths paths' : List Path}
  {p directory : Path} {f : RenderedFile} {files : List RenderedFile} {places : List Place}

/-! ## Directories -/

/-- At a place everything is as it was, or there is a new directory, to which one of some paths
leads. -/
def KeptOrMade (t t' : Tree) (paths : List Path) (place : Place) : Prop :=
  t'.find? place = t.find? place ∨
    t.find? place = none ∧ t'.find? place = some .directory ∧ ∃ p ∈ paths, t'.locate p = .ok place

/-- A tree has at most new directories, to which some paths lead. -/
structure Furnished (t t' : Tree) (paths : List Path) : Prop where
  more : t.Extends t'
  places : ∀ place, t.KeptOrMade t' paths place
  stored : t'.stored = t.stored

theorem KeptOrMade.mono (kept : t.KeptOrMade t' paths place) (subset : paths ⊆ paths') :
    t.KeptOrMade t' paths' place :=
  kept.imp_right fun ⟨nothing, directory, p, member, located⟩ =>
    ⟨nothing, directory, p, subset member, located⟩

/-- What is kept or made is so still when other things come to other places. -/
theorem KeptOrMade.extend (kept : t.KeptOrMade t' paths place) (more : t'.Extends t'')
    (same : t''.find? place = t'.find? place) : t.KeptOrMade t'' paths place := by
  rcases kept with kept | ⟨nothing, directory, p, member, located⟩
  · exact Or.inl (same.trans kept)
  · exact Or.inr ⟨nothing, same.trans directory, p, member, more.locate located⟩

namespace Furnished

theorem refl (t : Tree) (paths : List Path) : t.Furnished t paths :=
  ⟨.refl t, fun _ => Or.inl rfl, rfl⟩

theorem trans (first : t.Furnished t' paths) (second : t'.Furnished t'' paths) :
    t.Furnished t'' paths := by
  refine ⟨first.more.trans second.more, fun place => ?_, second.stored.trans first.stored⟩
  rcases second.places place with kept | ⟨nothing, directory, leads⟩
  · exact (first.places place).extend second.more kept
  · rcases first.places place with kept | ⟨-, directory', -⟩
    · exact Or.inr ⟨kept.symm.trans nothing, directory, leads⟩
    · rw [nothing] at directory'
      cases directory'

theorem mono (furnished : t.Furnished t' paths) (subset : paths ⊆ paths') :
    t.Furnished t' paths' :=
  ⟨furnished.more, fun place => (furnished.places place).mono subset, furnished.stored⟩

/-- A directory that is made is the only change. -/
theorem of_makeDirectory (made : t.makeDirectory p = .ok t') : t.Furnished t' [p] := by
  obtain ⟨more, stored, place, located, nothing, directory, others⟩ := makeDirectory_change made
  refine ⟨more, fun other => ?_, stored⟩
  by_cases same : other = place
  · subst same
    exact Or.inr ⟨nothing, directory, p, List.mem_singleton_self p, located⟩
  · exact Or.inl (others other same)

end Furnished

/-! ## Files -/

/-- A path leads to a file, over links or not. -/
def Leads (t : Tree) (p : Path) (node : Nat) : Prop :=
  ∃ place, t.locate p = .ok place ∧ t.find? place = some (.file node)

theorem Leads.unique (leads : t.Leads p node) (leads' : t.Leads p node') : node = node' := by
  obtain ⟨place, located, found⟩ := leads
  obtain ⟨place', located', found'⟩ := leads'
  obtain rfl := Except.ok.inj (located.symm.trans located')
  exact Entry.file.inj (Option.some.inj (found.symm.trans found'))

theorem Extends.leads (more : t.Extends t') (leads : t.Leads p node) : t'.Leads p node := by
  obtain ⟨place, located, found⟩ := leads
  exact ⟨place, more.locate located, more.find? found⟩

theorem Wrote.leads {s : String} (wrote : t.Wrote t' p s place node) : t'.Leads p node :=
  ⟨place, wrote.located, wrote.file⟩

/-- What is read at a path is the text of the file that it leads to. -/
theorem Leads.read_eq_ok (leads : t.Leads p node) {s : String} :
    t.read p = .ok s ↔ t.stored[node]? = some (.text s) := by
  obtain ⟨place, located, found⟩ := leads
  have holds : t.holding? place = t.stored[node]? := by rw [holding?, found]
  rw [Tree.read_eq_ok, ← holds]
  refine ⟨fun ⟨place', located', text⟩ => ?_, fun text => ⟨place, located, text⟩⟩
  obtain rfl := Except.ok.inj (located.symm.trans located')
  exact text

/-- A tree has the files of a directory. Besides directories on the way, only such files are new or
have changed as the paths lead to, each of which has what was written to it last. -/
structure Delivered (t t' : Tree) (directory : Path) (files : List RenderedFile) : Prop where
  more : t.Extends t'
  leads : ∀ f ∈ files, ∃ node, t'.Leads (directory.join f.name) node
  places : ∀ place, t.KeptOrMade t' directory.ancestry place ∨
    t.find? place = none ∧ ∃ f ∈ files, t'.locate (directory.join f.name) = .ok place ∧
      ∃ node, t'.find? place = some (.file node)
  nodes : ∀ node, t'.stored[node]? = t.stored[node]? ∨
    ∃ f ∈ files, t'.Leads (directory.join f.name) node
  last : ∀ front f back, files = front ++ f :: back →
    (∀ g ∈ back, ∀ node, t'.Leads (directory.join f.name) node →
      ¬ t'.Leads (directory.join g.name) node) →
    t'.read (directory.join f.name) = .ok f.contents

namespace Delivered

/-- New directories deliver no file. -/
theorem of_furnished (furnished : t.Furnished t' directory.ancestry) :
    t.Delivered t' directory [] where
  more := furnished.more
  leads := fun _ member => by cases member
  places := fun place => Or.inl (furnished.places place)
  nodes := fun node => Or.inl (by rw [furnished.stored])
  last := by simp

/-- One more file is delivered by writing it. -/
theorem concat (delivered : t.Delivered t' directory files)
    (written : t'.write (directory.join f.name) f.contents = .ok t'') :
    t.Delivered t'' directory (files ++ [f]) := by
  obtain ⟨place, node, wrote⟩ := write_change written
  have new : f ∈ files ++ [f] := List.mem_append_right files (List.mem_singleton_self f)
  refine { more := delivered.more.trans wrote.more, leads := ?leads, places := ?places,
           nodes := ?nodes, last := ?last }
  case leads =>
    intro g member
    rcases List.mem_append.1 member with earlier | last
    · exact (delivered.leads g earlier).imp fun _ => wrote.more.leads
    · rw [List.mem_singleton.1 last]
      exact ⟨node, wrote.leads⟩
  case places =>
    intro other
    by_cases here : other = place
    · subst here
      cases before : t.find? other with
      | some entry =>
        exact Or.inl (Or.inl (((delivered.more.trans wrote.more).find? before).trans before.symm))
      | none => exact Or.inr ⟨rfl, f, new, wrote.located, node, wrote.file⟩
    · have same := wrote.places other here
      rcases delivered.places other with kept | ⟨nothing, g, member, located, kept, found⟩
      · exact Or.inl (kept.extend wrote.more same)
      · exact Or.inr ⟨nothing, g, List.mem_append_left [f] member, wrote.more.locate located, kept,
          same.trans found⟩
  case nodes =>
    intro other
    by_cases here : other = node
    · rw [here]
      exact Or.inr ⟨f, new, wrote.leads⟩
    · rcases delivered.nodes other with kept | ⟨g, member, leads⟩
      · exact Or.inl ((wrote.nodes other here).trans kept)
      · exact Or.inr ⟨g, List.mem_append_left [f] member, wrote.more.leads leads⟩
  case last =>
    intro front g back split apart
    rcases List.eq_nil_or_concat' back with rfl | ⟨back, last, rfl⟩
    · -- the file that was written now
      obtain ⟨-, same⟩ := List.append_inj' split rfl
      obtain rfl := (List.cons.inj same).1
      exact wrote.leads.read_eq_ok.2 wrote.contents
    · -- an earlier one, which is another file than the one that was written now
      rw [← List.cons_append, ← List.append_assoc] at split
      obtain ⟨earlier, same⟩ := List.append_inj' split rfl
      obtain rfl := (List.cons.inj same).1
      obtain ⟨kept, leads⟩ := delivered.leads g (by rw [earlier]; simp)
      have other : kept ≠ node := by
        rintro rfl
        exact apart f (by simp) kept (wrote.more.leads leads) wrote.leads
      have read := delivered.last front g back earlier fun h member n leads' leadsTo =>
        apart h (List.mem_append_left _ member) n (wrote.more.leads leads')
          (wrote.more.leads leadsTo)
      rw [leads.read_eq_ok] at read
      rw [(wrote.more.leads leads).read_eq_ok, wrote.nodes kept other, read]

end Delivered

/-- Files are written into a directory one after the other. -/
inductive Writes (directory : Path) : Tree → List RenderedFile → Tree → Prop where
  | nil {t : Tree} : Writes directory t [] t
  | cons {t t' t'' : Tree} {f : RenderedFile} {files : List RenderedFile}
      (written : t.write (directory.join f.name) f.contents = .ok t')
      (rest : Writes directory t' files t'') : Writes directory t (f :: files) t''

/-- Files are delivered by writing them one after the other. -/
theorem Writes.delivered (writes : Writes directory t' files t'') {earlier : List RenderedFile}
    (delivered : t.Delivered t' directory earlier) :
    t.Delivered t'' directory (earlier ++ files) := by
  induction writes generalizing earlier with
  | nil => rwa [List.append_nil]
  | cons written rest ih => simpa using ih (delivered.concat written)

/-! ## Files without links -/

/-- The path of a file leads to one that is at a single place, under its name. -/
structure Alone (t : Tree) (directory : Path) (f : RenderedFile) (place : Place) : Prop where
  located : t.locate (directory.join f.name) = .ok place
  named : place.getLast? = some f.name
  only : ∃ node, t.find? place = some (.file node) ∧ t.OnlyAt node place

namespace Alone

/-- A file that is written where its name is no link is at a single place. -/
theorem of_wrote (isName : Path.IsName f.name)
    (wrote : t.Wrote t' (directory.join f.name) f.contents place node)
    (unlinked : t.Unlinked (directory.join f.name)) : t'.Alone directory f place where
  located := wrote.located
  named := trace_make_getLast? isName (isName.join_getLast? directory)
    (wrote.trace_make (isName.join_namesDirectory directory) unlinked)
  only := ⟨node, wrote.file, wrote.onlyAt_self (isName.join_namesDirectory directory) unlinked⟩

/-- A file at a single place stays so when files are written. -/
theorem writes (alone : t.Alone directory f place) {directory' : Path}
    (writes : Writes directory' t files t') : t'.Alone directory f place := by
  induction writes with
  | nil => exact alone
  | cons written _ ih =>
    obtain ⟨_, _, wrote⟩ := write_change written
    obtain ⟨node, found, only⟩ := alone.only
    exact ih ⟨wrote.more.locate alone.located, alone.named, node, wrote.more.find? found,
      wrote.onlyAt found only⟩

/-- Two files at one place have one name. -/
theorem name_eq {g : RenderedFile} (alone : t.Alone directory f place)
    (other : t.Alone directory g place) : f.name = g.name :=
  Option.some.inj (alone.named.symm.trans other.named)

/-- A file at a single place is found there only. -/
theorem eq_of_leads (alone : t.Alone directory f place) {other : Place}
    (leads : t.Leads (directory.join f.name) node) (found : t.find? other = some (.file node)) :
    other = place := by
  obtain ⟨kept, here, only⟩ := alone.only
  obtain rfl := leads.unique ⟨place, alone.located, here⟩
  exact only other found

end Alone

/-- Files that are written where their names are no links are at single places. -/
theorem Writes.alone (writes : Writes directory t files t')
    (proper : ∀ f ∈ files, Path.IsName f.name) (distinct : (files.map RenderedFile.name).Nodup)
    (unlinked : ∀ f ∈ files, t.Unlinked (directory.join f.name)) :
    ∀ f ∈ files, ∃ place, t'.Alone directory f place := by
  induction writes with
  | nil => exact fun _ member => absurd member List.not_mem_nil
  | @cons _ _ _ f files written rest ih =>
    obtain ⟨place, node, wrote⟩ := write_change written
    rw [List.forall_mem_cons] at proper unlinked
    rw [List.map_cons, List.nodup_cons] at distinct
    have first := Alone.of_wrote proper.1 wrote unlinked.1
    refine List.forall_mem_cons.2 ⟨⟨place, first.writes rest⟩, ih proper.2 distinct.2 ?_⟩
    intro g member
    refine (unlinked.2 g member).past wrote (proper.2 g member)
      ((proper.2 g member).join_getLast? directory) fun named => distinct.1 ?_
    rw [Option.some.inj (first.named.symm.trans named)]
    exact List.mem_map_of_mem member

/-- A file of a directory is at a place, under its own name and with its contents. -/
structure Holds (t : Tree) (directory : Path) (f : RenderedFile) (place : Place) : Prop where
  located : t.locate (directory.join f.name) = .ok place
  contents : t.holding? place = some (.text f.contents)
  named : place.getLast? = some f.name

/-- A file of a directory is read at its path. -/
theorem Holds.read (holds : t.Holds directory f place) :
    t.read (directory.join f.name) = .ok f.contents :=
  read_eq_ok.2 ⟨place, holds.located, holds.contents⟩

/-- A tree has the files of a directory at different places, under their names and with their
contents. At all other places everything is and holds what it did, but for new directories on the
way. -/
structure Separate (t t' : Tree) (directory : Path) (files : List RenderedFile) : Prop where
  holds : ∀ f ∈ files, ∃ place, t'.Holds directory f place
  apart : files.Pairwise fun f g =>
    t'.locate (directory.join f.name) ≠ t'.locate (directory.join g.name)
  others : ∀ place, (∀ f ∈ files, t'.locate (directory.join f.name) ≠ .ok place) →
    t.KeptOrMade t' directory.ancestry place ∧ t'.holding? place = t.holding? place

/-- Files that are delivered at single places are separate. -/
theorem Delivered.separate (delivered : t.Delivered t' directory files)
    (distinct : (files.map RenderedFile.name).Nodup)
    (alone : ∀ f ∈ files, ∃ place, t'.Alone directory f place) :
    t.Separate t' directory files where
  holds := by
    intro f member
    obtain ⟨place, here⟩ := alone f member
    obtain ⟨front, back, split⟩ := List.append_of_mem member
    obtain ⟨node, found, -⟩ := here.only
    have leads : t'.Leads (directory.join f.name) node := ⟨place, here.located, found⟩
    have read := delivered.last front f back split fun g later kept leads leads' => by
      obtain ⟨place', there⟩ := alone g (by rw [split]; simp [later])
      obtain ⟨reached, located, found'⟩ := leads'
      obtain rfl := Except.ok.inj (there.located.symm.trans located)
      obtain rfl := here.eq_of_leads leads found'
      rw [split, List.map_append, List.map_cons] at distinct
      refine (List.nodup_cons.1 (List.nodup_append.1 distinct).2.1).1 ?_
      rw [here.name_eq there]
      exact List.mem_map_of_mem later
    rw [leads.read_eq_ok] at read
    exact ⟨place, here.located, by rw [holding?, found]; exact read, here.named⟩
  apart := by
    refine List.Pairwise.imp_of_mem ?_ (List.pairwise_map.1 distinct)
    intro f g member member' names same
    obtain ⟨place, here⟩ := alone f member
    obtain ⟨place', there⟩ := alone g member'
    rw [here.located, there.located] at same
    obtain rfl := Except.ok.inj same
    exact names (here.name_eq there)
  others := by
    intro place elsewhere
    have kept : t.KeptOrMade t' directory.ancestry place :=
      (delivered.places place).resolve_right fun ⟨_, f, member, located, _⟩ =>
        elsewhere f member located
    refine ⟨kept, ?_⟩
    rcases kept with same | ⟨nothing, made, -⟩
    · unfold holding?
      rw [same]
      cases found : t.find? place with
      | none => rfl
      | some entry =>
        cases entry with
        | link | directory | removed => rfl
        | file node =>
          refine (delivered.nodes node).resolve_right fun ⟨f, member, leads⟩ => ?_
          obtain ⟨place', here⟩ := alone f member
          obtain rfl := here.eq_of_leads leads (same.trans found)
          exact elsewhere f member here.located
    · rw [holding?, holding?, nothing, made]

end Files.Tree

namespace Desk

variable {t : Tree} {α : Type} {paths : List Path} {directory : Path}

/-- At each desk with a tree an action has the same answer, and makes at most the same directories,
to which some paths lead. -/
def Furnishes (t : Tree) (action : ExceptT Failure (StateM Desk) α) (paths : List Path) : Prop :=
  ∃ answer t', (∀ d : Desk, d.tree = t →
    d.perform action = (.ok answer, { d with tree := t' })) ∧ t.Furnished t' paths

namespace Furnishes

theorem pure (t : Tree) {answer : α} : Furnishes t (Pure.pure answer) paths := by
  refine ⟨answer, t, fun d same => ?_, .refl t paths⟩
  subst same
  rfl

theorem bind {β : Type} {action : ExceptT Failure (StateM Desk) α}
    {next : α → ExceptT Failure (StateM Desk) β} (first : Furnishes t action paths)
    (second : ∀ answer t', Furnishes t' (next answer) paths) :
    Furnishes t (action >>= next) paths := by
  obtain ⟨answer, t', done, furnished⟩ := first
  obtain ⟨answer', t'', done', furnished'⟩ := second answer t'
  exact ⟨answer', t'', fun d same => (perform_bind_ok (done d same) next).trans (done' _ rfl),
    furnished.trans furnished'⟩

theorem isDirectory (t : Tree) (p : Path) : Furnishes t (Workspace.isDirectory p) paths := by
  refine ⟨t.isDirectory p, t, fun d same => ?_, .refl t paths⟩
  subst same
  rfl

/-- Making a directory makes at most that one. -/
theorem makeDirectory (t : Tree) {p : Path} (member : p ∈ paths) :
    Furnishes t (Workspace.makeDirectory p) paths := by
  have performed (d : Desk) : d.perform (Workspace.makeDirectory p) =
    (.ok (d.change (d.tree.makeDirectory p)).1, (d.change (d.tree.makeDirectory p)).2) := rfl
  cases made : t.makeDirectory p with
  | ok t' =>
    refine ⟨.ok (), t', fun d same => ?_,
      (Tree.Furnished.of_makeDirectory made).mono (by simpa using member)⟩
    rw [performed, same, made]
    rfl
  | error fault =>
    refine ⟨.error fault, t, fun d same => ?_, .refl t paths⟩
    rw [performed, same, made, ← same]
    rfl

/-- Looking whether a directory is there makes none. -/
theorem tolerate (t : Tree) (p : Path) (result : Except Fault Unit) :
    Furnishes t (Workspace.tolerate p result) paths := by
  unfold Workspace.tolerate
  split
  · exact Furnishes.pure t
  · refine (Furnishes.isDirectory t p).bind fun present t' => ?_
    split
    · exact Furnishes.pure t'
    · exact Furnishes.pure t'

/-- Making a directory and those above it makes at most those. -/
theorem makeDirectories (t : Tree) (listed : List Path) (subset : listed ⊆ paths) :
    Furnishes t (Workspace.makeDirectories listed) paths := by
  induction listed generalizing t with
  | nil => exact Furnishes.pure t
  | cons p above ih =>
    rw [List.cons_subset] at subset
    rw [Workspace.makeDirectories]
    split
    · exact Furnishes.pure t
    · refine (Furnishes.makeDirectory t subset.1).bind fun result t' => ?_
      split
      · -- the parent is missing: the paths above are made first, and then this one again
        refine (ih t' subset.2).bind fun result t'' => ?_
        split
        · exact (Furnishes.makeDirectory t'' subset.1).bind fun _ _ => tolerate _ p _
        · exact Furnishes.pure t''
      · exact tolerate t' p result

end Furnishes

/-- The tree once a directory and those above it are made as far as they can be. -/
def furnished (d : Desk) (directory : Path) : Tree :=
  (d.perform (Workspace.createDirectories directory)).2.tree

/-- A file is written, or the desk stays as it is. -/
theorem perform_writeFile (d : Desk) (directory : Path) (f : RenderedFile) :
    (∃ fault, d.perform (GenerateOptions.writeFile directory f) = (.error (.file fault), d)) ∨
    ∃ tree printed complained, d.tree.write (directory.join f.name) f.contents = .ok tree ∧
      d.perform (GenerateOptions.writeFile directory f) =
        (.ok (), { d with tree := tree, printed := printed, complained := complained }) := by
  let p := directory.join f.name
  have performed : d.perform (Workspace.write p f.contents) =
    (.ok (d.change (d.tree.write p f.contents)).1, (d.change (d.tree.write p f.contents)).2) := rfl
  rw [GenerateOptions.writeFile, perform_bind_ok performed]
  cases written : d.tree.write p f.contents with
  | error fault => exact Or.inl ⟨fault, rfl⟩
  | ok tree =>
    refine Or.inr ?_
    let after : Desk := { d with tree := tree }
    let line : LogLine := ⟨.detail, "ormsig::commands::generate",
      "wrote " ++ Text.natNumeral f.contents.utf8ByteSize ++ " bytes to " ++ p.text⟩
    obtain ⟨_, ⟨complained, rfl⟩, noted⟩ := Answers.log after line
    have passed : after.perform (orFail Failure.file (.ok () : Except Fault Unit)) =
      (.ok (), after) := rfl
    exact ⟨tree, _, complained, rfl,
      (perform_bind_ok passed _).trans (perform_bind_ok noted _)⟩

/-- Files are written one after the other, up to the first that cannot be written. -/
theorem perform_writeFiles (d : Desk) (directory : Path) (files : List RenderedFile) :
    ∃ result tree printed complained written,
      d.perform (GenerateOptions.writeFiles directory files) =
        (result, { d with tree := tree, printed := printed, complained := complained }) ∧
      written <+: files ∧ Tree.Writes directory d.tree written tree ∧
      (result = .ok () ∧ written = files ∨ ∃ fault, result = .error (.file fault)) := by
  induction files generalizing d with
  | nil =>
    exact ⟨.ok (), d.tree, d.printed, d.complained, [], rfl, List.prefix_rfl, .nil,
      Or.inl ⟨rfl, rfl⟩⟩
  | cons f files ih =>
    rcases perform_writeFile d directory f with ⟨fault, failed⟩ |
      ⟨tree, printed, complained, stored, done⟩
    · exact ⟨.error (.file fault), d.tree, d.printed, d.complained, [],
        perform_bind_error failed _, List.nil_prefix, .nil, Or.inr ⟨fault, rfl⟩⟩
    · obtain ⟨result, tree', printed', complained', written, done', front, writes, outcome⟩ :=
        ih { d with tree := tree, printed := printed, complained := complained }
      refine ⟨result, tree', printed', complained', f :: written,
        (perform_bind_ok done _).trans done', List.cons_prefix_cons.2 ⟨rfl, front⟩,
        .cons stored writes, ?_⟩
      exact outcome.imp_left fun ⟨ok, all⟩ => ⟨ok, congrArg (f :: ·) all⟩

/-- Printing files adds their contents to what was printed, in their order. -/
theorem perform_print (d : Desk) (files : List RenderedFile) :
    d.perform (files.forM fun f => Workspace.print f.contents) = (.ok (), { d with
      printed := d.printed ++ String.join (files.map RenderedFile.contents) }) := by
  induction files generalizing d with
  | nil => simpa using perform_pure ()
  | cons f files ih =>
    have performed : d.perform (Workspace.print f.contents) =
      (.ok (), { d with printed := d.printed ++ f.contents }) := rfl
    refine (perform_bind_ok performed _).trans ((ih _).trans ?_)
    simp [String.append_assoc]

/-- Writing files into a directory makes it and writes the files one after the other, up to the
first that cannot be written. What is printed and noted makes no difference to the tree. -/
theorem perform_deliver {o : GenerateOptions} (writes : o.toOutput = false) (d : Desk)
    (c : Configuration) (files : List RenderedFile) :
    ∃ result tree printed complained written,
      d.perform (o.deliver c files) =
        (result, { d with tree := tree, printed := printed, complained := complained }) ∧
      d.tree.Furnished (d.furnished (o.directory c)) (o.directory c).ancestry ∧
      written <+: files ∧ Tree.Writes (o.directory c) (d.furnished (o.directory c)) written tree ∧
      (result = .ok () ∧ written = files ∨ ∃ fault, result = .error (.file fault)) := by
  let directory := o.directory c
  obtain ⟨made, tree, done, furnished⟩ : Furnishes d.tree (Workspace.createDirectories directory)
      directory.ancestry := Furnishes.makeDirectories d.tree _ (List.Subset.refl _)
  have same : d.furnished directory = tree := by rw [Desk.furnished, done d rfl]
  rw [GenerateOptions.deliver, if_neg (by simp [writes]), perform_bind_ok (done d rfl), same]
  cases made with
  | error fault =>
    exact ⟨.error (.file fault), tree, d.printed, d.complained, [], rfl, furnished,
      List.nil_prefix, .nil, Or.inr ⟨fault, rfl⟩⟩
  | ok nothing =>
    obtain ⟨result, tree', printed, complained, written, done', front, writes, outcome⟩ :=
      perform_writeFiles { d with tree := tree } directory files
    exact ⟨result, tree', printed, complained, written, done', furnished, front, writes, outcome⟩

/-- What is noted makes no difference to the tree once a directory is made. -/
theorem Noted.furnished_eq {d d' : Desk} (noted : d.Noted d') (directory : Path) :
    d'.furnished directory = d.furnished directory := by
  obtain ⟨made, tree, done, -⟩ : Furnishes d.tree (Workspace.createDirectories directory)
      directory.ancestry := Furnishes.makeDirectories d.tree _ (List.Subset.refl _)
  have each (e : Desk) (same : e.tree = d.tree) : e.furnished directory = tree := by
    rw [furnished, done e same]
  have same : d'.tree = d.tree := by
    obtain ⟨_, rfl⟩ := noted
    rfl
  rw [each d' same, each d rfl]

end Desk

end RecordTyping

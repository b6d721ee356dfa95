import RecordTyping.Proofs.Delivery
import RecordTyping.Proofs.Grouping
import RecordTyping.Proofs.StructuralForm

/-!
# Generation is all or nothing

What is written is settled before anything is: a configuration, a version or signatures that are
refused leave the file tree as it was. Otherwise there are files, the same ones whether they are
printed or written. They have the names of the groups that are asked for, which are distinct. Still
a name in the output directory can be a link, or one of several names of a file, and then both texts
may go to one file, or to one that lies elsewhere. Without such names, writing leaves each file in
its own place, and nothing else but the directories on the way.
-/

namespace RecordTyping

open Files (Fault Path Place Tree)

/-! ## The files that are asked for -/

namespace GenerateOptions

variable {o : GenerateOptions} {c : Configuration} {signatures : List ClassSignatures}

/-- The files stand in the order of the groups, under their names. -/
theorem files_names : (o.files c signatures).map RenderedFile.name = o.groups.map fun group =>
    group.fileStem ++ "." ++ (o.format.getD c.outputSection.format).extension := by
  have ordered : (groupSignatures signatures o.groups c.outputSection.header).map
      DeclarationFile.group = o.groups := groups_groupSignatures
  rw [files, List.map_map]
  conv_rhs => rw [← ordered, List.map_map]
  rfl

/-- The names of the files are distinct. -/
theorem files_distinct : ((o.files c signatures).map RenderedFile.name).Nodup := by
  rw [files_names, groups]
  cases o.target <;> cases o.format.getD c.outputSection.format <;> decide

/-- The name of a group's file stands for itself inside a directory. -/
theorem fileName_proper (group : DeclarationGroup) (format : OutputFormat) :
    Path.IsName (group.fileStem ++ "." ++ format.extension) := by
  cases group <;> cases format <;> decide +kernel

/-- The names of the files stand for themselves. -/
theorem files_proper : ∀ f ∈ o.files c signatures, Path.IsName f.name := by
  intro f member
  have named : f.name ∈ (o.files c signatures).map RenderedFile.name := List.mem_map_of_mem member
  rw [files_names] at named
  obtain ⟨group, -, same⟩ := List.mem_map.1 named
  rw [← same]
  exact fileName_proper group _

end GenerateOptions

namespace Desk

variable {d : Desk} {o : GenerateOptions} {c : Configuration} {files : List RenderedFile}
  {e : Failure}

/-- The configuration that is asked for, or what is wrong with it. -/
def configuration (d : Desk) (o : GenerateOptions) : Except Failure Configuration :=
  match o.configuration with
  | some p => d.loading p
  | none => .ok d.found

theorem answers_findConfiguration (d : Desk) (o : GenerateOptions) :
    d.Answers o.findConfiguration (d.configuration o) := by
  unfold GenerateOptions.findConfiguration configuration
  cases o.configuration with
  | some p => exact answers_load d p
  | none => exact answers_search d

/-- Why no files can be worked out. -/
inductive Refuses (d : Desk) (o : GenerateOptions) : Failure → Prop where
  /-- The configuration file that is named cannot be read, or is not valid. -/
  | configuration {e : Failure} (wrong : d.configuration o = .error e) : Refuses d o e
  /-- The framework version is no version, or is too old. -/
  | version {c : Configuration} {e : VersionError} (configured : d.configuration o = .ok c)
      (unknown : Policy.resolve (o.version c) = .error e) : Refuses d o (.version e)
  /-- A class has two methods of one name. -/
  | synthesis {c : Configuration} {policy : Policy} {e : DuplicateMethod}
      (configured : d.configuration o = .ok c)
      (resolved : Policy.resolve (o.version c) = .ok policy)
      (repeated : o.signatures c policy = .error e) : Refuses d o (.duplicateMethod e)

/-- The configuration, and the files that are worked out from it. -/
inductive Renders (d : Desk) (o : GenerateOptions) : Configuration → List RenderedFile → Prop where
  | intro {c : Configuration} {policy : Policy} {signatures : List ClassSignatures}
      (configured : d.configuration o = .ok c)
      (resolved : Policy.resolve (o.version c) = .ok policy)
      (synthesized : o.signatures c policy = .ok signatures) :
      Renders d o c (o.files c signatures)

/-- The files are those of some signatures. -/
theorem Renders.files_eq (renders : d.Renders o c files) :
    ∃ signatures, files = o.files c signatures := by
  cases renders with
  | intro => exact ⟨_, rfl⟩

/-- Either there are files or there is a reason why not. -/
theorem refuses_or_renders (d : Desk) (o : GenerateOptions) :
    (∃ e, d.Refuses o e) ∨ ∃ c files, d.Renders o c files := by
  cases configured : d.configuration o with
  | error e => exact Or.inl ⟨e, .configuration configured⟩
  | ok c =>
    cases resolved : Policy.resolve (o.version c) with
    | error e => exact Or.inl ⟨_, .version configured resolved⟩
    | ok policy =>
      cases synthesized : o.signatures c policy with
      | error e => exact Or.inl ⟨_, .synthesis configured resolved synthesized⟩
      | ok signatures => exact Or.inr ⟨c, _, .intro configured resolved synthesized⟩

/-- What is refused is answered with the reason. -/
theorem answers_refused (refused : d.Refuses o e) : d.Answers o.run (.error e) := by
  have found := answers_findConfiguration d o
  cases refused with
  | configuration wrong =>
    rw [wrong] at found
    exact found.bind_error
  | version configured unknown =>
    rw [configured] at found
    refine found.bind fun d₁ _ => ?_
    exact (Answers.orFail_error d₁ Failure.version unknown).bind_error
  | synthesis configured resolved repeated =>
    rw [configured] at found
    refine found.bind fun d₁ _ => ?_
    refine (Answers.orFail_ok d₁ Failure.version resolved).bind fun d₂ _ => ?_
    refine (Answers.log d₂ _).bind fun d₃ _ => ?_
    exact (Answers.orFail_error d₃ Failure.duplicateMethod repeated).bind_error

/-- Files that are worked out are then printed or written. -/
theorem perform_run (renders : d.Renders o c files) :
    ∃ d', d.Noted d' ∧ d.perform o.run = d'.perform (o.deliver c files) := by
  have found := answers_findConfiguration d o
  cases renders with
  | intro configured resolved synthesized =>
    rw [configured] at found
    refine found.onward fun d₁ _ => ?_
    refine (Answers.orFail_ok d₁ Failure.version resolved).onward fun d₂ _ => ?_
    refine (Answers.log d₂ _).onward fun d₃ _ => ?_
    refine (Answers.orFail_ok d₃ Failure.duplicateMethod synthesized).onward fun d₄ _ => ?_
    refine (Answers.forM_log d₄ _ _).onward fun d₅ _ => ?_
    exact ⟨d₅, .refl d₅, rfl⟩

/-- Which files are worked out does not depend on whether they are printed or written. -/
theorem Renders.withOutput (renders : d.Renders o c files) (printed : Bool) :
    d.Renders { o with toOutput := printed } c files := by
  cases renders with
  | intro configured resolved synthesized => exact .intro configured resolved synthesized

/-- Files that are worked out are delivered up to the first that cannot be written, and they are
separate if their names are without links once the directory is made. -/
theorem perform_writing (renders : d.Renders o c files) :
    ∃ result tree printed complained written,
      d.perform { o with toOutput := false }.run =
        (result, { d with tree := tree, printed := printed, complained := complained }) ∧
      written <+: files ∧
      (result = .ok () ∧ written = files ∨ ∃ fault, result = .error (.file fault)) ∧
      d.tree.Delivered tree (o.directory c) written ∧
      ((∀ f ∈ files, (d.furnished (o.directory c)).Unlinked ((o.directory c).join f.name)) →
        d.tree.Separate tree (o.directory c) written) := by
  obtain ⟨d', noted, run⟩ := perform_run (renders.withOutput false)
  obtain ⟨result, tree, printed, complained, written, done, furnished, front, writes, outcome⟩ :=
    perform_deliver (o := { o with toOutput := false }) rfl d' c files
  obtain ⟨signatures, rfl⟩ := renders.files_eq
  rw [noted.furnished_eq] at furnished writes
  obtain ⟨_, rfl⟩ := noted
  have delivered := writes.delivered (Tree.Delivered.of_furnished furnished)
  refine ⟨result, tree, printed, complained, written, run.trans done, front, outcome, delivered,
    fun unlinked => ?_⟩
  have distinct : (written.map RenderedFile.name).Nodup :=
    GenerateOptions.files_distinct.sublist (front.sublist.map RenderedFile.name)
  exact delivered.separate distinct (writes.alone
    (fun f member => GenerateOptions.files_proper f (front.subset member)) distinct
    fun f member => unlinked f (front.subset member))

/-- Declarations are either refused, and then nothing but the log is changed, or there are files.
Printed, they are added to the output one after the other, and nothing else but the log is changed.
Written, they are delivered up to the first that the file system takes not: besides directories on
the way, only the files that their paths lead to are new or changed, and each has what was written
to it last. If their names in the directory, once it is made, are neither links nor names of files
that have others, each is at a place of its own under its name, with the contents that are printed
otherwise, and nothing else is changed but for directories on the way. -/
theorem generation_all_or_nothing (d : Desk) (o : GenerateOptions) :
    ((∃ e, d.Refuses o e) ∨ ∃ c files, d.Renders o c files) ∧
    (∀ e, d.Refuses o e →
      ∃ complained, d.perform o.run = (.error e, { d with complained := complained })) ∧
    ∀ c files, d.Renders o c files →
      (files.map RenderedFile.name = o.groups.map fun group =>
        group.fileStem ++ "." ++ (o.format.getD c.outputSection.format).extension) ∧
      (files.map RenderedFile.name).Nodup ∧
      (∃ complained, d.perform { o with toOutput := true }.run =
        (.ok (), { d with
          printed := d.printed ++ String.join (files.map RenderedFile.contents)
          complained := complained })) ∧
      ∃ result tree printed complained written,
        d.perform { o with toOutput := false }.run =
          (result, { d with tree := tree, printed := printed, complained := complained }) ∧
        written <+: files ∧
        (result = .ok () ∧ written = files ∨ ∃ fault, result = .error (.file fault)) ∧
        d.tree.Delivered tree (o.directory c) written ∧
        ((∀ f ∈ files, (d.furnished (o.directory c)).Unlinked ((o.directory c).join f.name)) →
          d.tree.Separate tree (o.directory c) written) := by
  refine ⟨refuses_or_renders d o, fun e refused => ?_, fun c files renders => ?_⟩
  · obtain ⟨_, ⟨complained, rfl⟩, answered⟩ := answers_refused refused
    exact ⟨complained, answered⟩
  · obtain ⟨_, ⟨complained, rfl⟩, prints⟩ := perform_run (renders.withOutput true)
    have written := perform_writing renders
    obtain ⟨signatures, rfl⟩ := renders.files_eq
    exact ⟨GenerateOptions.files_names, GenerateOptions.files_distinct,
      ⟨complained, prints.trans (perform_print _ _)⟩, written⟩

/-- Both files in the structural form, for a version that is given. -/
def structuralOptions (output : String) : GenerateOptions :=
  { frameworkVersion := some "v5.1.7", target := .all, format := some .json,
    output := some ⟨output⟩, toOutput := false, configuration := none, parallel := true }

/-- Where no configuration is found there are two structural files, and their texts differ. -/
theorem renders_structural (output : String) (found : d.found = .standard) :
    ∃ base relation, d.Renders (structuralOptions output) .standard [base, relation] ∧
      base.name = "active_record_base.json" ∧ relation.name = "active_record_relation.json" ∧
      base.contents ≠ relation.contents := by
  let o := structuralOptions output
  have configured : d.configuration o = .ok .standard := congrArg Except.ok found
  have version : Policy.resolve "v5.1.7" = .ok ⟨⟨5, 1, "v5.1.7"⟩, .legacySplat, .lastOnly⟩ :=
    Traversal.eq_ok_of_toOption (by decide +kernel)
  have resolved : Policy.resolve (o.version .standard) = _ := version
  have renders := Renders.intro configured resolved (synthesizeAll_eq _ _)
  -- one file for each of the groups, in their order
  obtain ⟨f, rest, grouped, base, others⟩ := List.map_eq_cons_iff.1 (show
    (groupSignatures _ o.groups Configuration.standard.outputSection.header).map
      DeclarationFile.group = [.base, .relation] from groups_groupSignatures)
  obtain ⟨g, none, rfl, relation, nothing⟩ := List.map_eq_cons_iff.1 others
  obtain rfl := List.map_eq_nil_iff.1 nothing
  rw [GenerateOptions.files, grouped] at renders
  refine ⟨_, _, renders, by rw [DeclarationFile.rendered, base]; rfl,
    by rw [DeclarationFile.rendered, relation]; rfl, fun same => ?_⟩
  obtain rfl : f = g := DeclarationFile.structural_injective same
  rw [base] at relation
  cases relation

/-- A tree in whose current directory the output directory is a link to an empty one. -/
def outputElsewhere : Tree where
  entries := [(["app", "out"], .link ⟨"../store"⟩), (["store"], .directory), (["app"], .directory)]
  stored := []
  current := ["app"]
  grown := by decide +kernel
  kept := by decide +kernel
  standing := by decide +kernel

/-- Through a link for the output directory, both files are written into a new directory of the one
that it leads to. -/
theorem generation_all_or_nothing_elsewhere :
    let d := Desk.start outputElsewhere 0
    let directory : Path := ⟨"out/types"⟩
    ∃ files tree printed complained,
      files.map RenderedFile.name = ["active_record_base.json", "active_record_relation.json"] ∧
      d.perform (structuralOptions "out/types").run =
        (.ok (), { d with tree := tree, printed := printed, complained := complained }) ∧
      d.tree.Separate tree directory files ∧
      tree.find? ["store", "types"] = some .directory ∧
      ∀ f ∈ files, tree.read (directory.join f.name) = .ok f.contents := by
  intro d directory
  obtain ⟨base, relation, renders, baseName, relationName, -⟩ :=
    renders_structural (d := d) "out/types" (by decide +kernel)
  obtain ⟨-, -, rendered⟩ := generation_all_or_nothing d (structuralOptions "out/types")
  obtain ⟨-, -, -, result, tree, printed, complained, written, done, -, outcome, -, separate⟩ :=
    rendered _ _ renders
  change d.perform (structuralOptions "out/types").run = _ at done
  have made : (d.perform (structuralOptions "out/types").run).2.tree.find? ["store", "types"] =
      some .directory := by decide +kernel
  have succeeds : (d.perform (structuralOptions "out/types").run).1.toOption = some () := by
    decide +kernel
  rw [done] at made succeeds
  rcases outcome with ⟨rfl, rfl⟩ | ⟨fault, rfl⟩
  · have missing (f : RenderedFile) (place : Place) (found : (d.furnished directory).trace .make
        (directory.join f.name) = .ok (place, none)) :
        (d.furnished directory).Unlinked (directory.join f.name) := .of_missing found
    have freeBase := missing base ["store", "types", "active_record_base.json"]
      (by rw [baseName]; decide +kernel)
    have freeRelation := missing relation ["store", "types", "active_record_relation.json"]
      (by rw [relationName]; decide +kernel)
    have separated := separate
      (List.forall_mem_cons.2 ⟨freeBase, List.forall_mem_singleton.2 freeRelation⟩)
    refine ⟨_, tree, printed, complained, by simp [baseName, relationName], done, separated, made,
      fun f member => ?_⟩
    obtain ⟨place, holds⟩ := separated.holds f member
    exact holds.read
  · cases succeeds

/-- A tree in whose output directory both files are links to one path outside, where nothing is. -/
def outputLinked : Tree where
  entries := [(["out", "active_record_base.json"], .link ⟨"../notes"⟩),
    (["out", "active_record_relation.json"], .link ⟨"../notes"⟩), (["out"], .directory)]
  stored := []
  current := []
  grown := by decide +kernel
  kept := by decide +kernel
  standing := by decide +kernel

/-- If the names of both files are links, one file is made, and that outside of the output
directory; at the path of the first file the text of the second is read. -/
theorem generation_all_or_nothing_linked :
    let d := Desk.start outputLinked 0
    let directory : Path := ⟨"out"⟩
    ∃ base relation tree printed complained,
      d.Renders (structuralOptions "out") .standard [base, relation] ∧
      base.contents ≠ relation.contents ∧
      d.perform (structuralOptions "out").run =
        (.ok (), { d with tree := tree, printed := printed, complained := complained }) ∧
      tree.read (directory.join base.name) = .ok relation.contents ∧
      d.tree.find? ["notes"] = none ∧ tree.holding? ["notes"] = some (.text relation.contents) := by
  intro d directory
  obtain ⟨base, relation, renders, baseName, relationName, differ⟩ :=
    renders_structural (d := d) "out" (by decide +kernel)
  obtain ⟨result, tree, printed, complained, written, done, -, outcome, delivered, -⟩ :=
    perform_writing renders
  change d.perform (structuralOptions "out").run = _ at done
  have succeeds : (d.perform (structuralOptions "out").run).1.toOption = some () := by
    decide +kernel
  have led : ∀ name ∈ ["active_record_base.json", "active_record_relation.json"],
      (d.perform (structuralOptions "out").run).2.tree.locate (directory.join name) =
        .ok ["notes"] := by decide +kernel
  rw [done] at succeeds led
  rcases outcome with ⟨rfl, rfl⟩ | ⟨fault, rfl⟩
  · rw [List.forall_mem_cons, List.forall_mem_singleton, ← baseName, ← relationName] at led
    obtain ⟨place, located, holds⟩ :=
      Tree.read_eq_ok.1 (delivered.last [base] relation [] rfl (by simp))
    obtain rfl := Except.ok.inj (led.2.symm.trans located)
    exact ⟨base, relation, tree, printed, complained, renders, differ, done,
      Tree.read_eq_ok.2 ⟨_, led.1, holds⟩, by decide, holds⟩
  · cases succeeds

end Desk
end RecordTyping

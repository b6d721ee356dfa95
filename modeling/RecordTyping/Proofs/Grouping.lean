import RecordTyping.Declaration.Rendering
import RecordTyping.Proofs.Synthesis

/-!
# Signatures in files

Signatures are handed out to files one by one, each to the first file whose group holds its class.
Seen from the files, the first takes the signatures of its group in their order and leaves the
others to the files after it. Each class belongs to one group, so that what is left holds everything
of every other group, and nothing of the same group again. Whatever the signatures and the groups
are, every signature of a listed group therefore stands in one file, that of the first place of its
group, and none is lost or repeated. The signatures of all classes, in the order of the classes,
fill each file with what is worked out for its group alone.
-/

namespace RecordTyping

/-- The group that a class belongs to. -/
def HostClass.group : HostClass → DeclarationGroup
  | .baseRecord => .base
  | .relation | .associationRelation | .collectionProxy => .relation

/-- A group lists the classes that belong to it. -/
theorem DeclarationGroup.mem_hosts (group : DeclarationGroup) (host : HostClass) :
    host ∈ group.hosts ↔ host.group = group := by
  cases group <;> cases host <;> decide

/-- The signatures of a group's classes. -/
def DeclarationGroup.select (group : DeclarationGroup) (signatures : List ClassSignatures) :
    List ClassSignatures := signatures.filter fun s => s.host.group = group

/-- The signatures of the classes of other groups. -/
def DeclarationGroup.leave (group : DeclarationGroup) (signatures : List ClassSignatures) :
    List ClassSignatures := signatures.filter fun s => s.host.group ≠ group

/-- The classes that some signatures declare. -/
def declaredClasses (signatures : List ClassSignatures) : List ClassDecl :=
  signatures.map ClassSignatures.declaration

section Distribution

variable {comments : List String} {signatures : List ClassSignatures} {group : DeclarationGroup}
  {groups : List DeclarationGroup}

/-- A group leaves nothing of its own. -/
theorem select_leave_self : group.select (group.leave signatures) = [] := by
  simp [DeclarationGroup.select, DeclarationGroup.leave, List.filter_filter]

/-- A group leaves everything of every other group. -/
theorem select_leave_other {other : DeclarationGroup} (different : other ≠ group) :
    other.select (group.leave signatures) = other.select signatures := by
  rw [DeclarationGroup.select, DeclarationGroup.leave, List.filter_filter]
  apply List.filter_congr
  intro s _
  by_cases own : s.host.group = other
  · simp [own, different]
  · simp [own]

/-- A class is added to a file of its group. -/
theorem addClass_own {s : ClassSignatures} {file : DeclarationFile}
    (own : s.host.group = file.group) (rest : List DeclarationFile) : addClass s (file :: rest) =
      { file with classes := file.classes ++ [s.declaration] } :: rest := by
  simp [addClass, DeclarationGroup.mem_hosts, own]

/-- A file of another group is passed over. -/
theorem addClass_other {s : ClassSignatures} {file : DeclarationFile}
    (other : s.host.group ≠ file.group) (rest : List DeclarationFile) :
    addClass s (file :: rest) = file :: addClass s rest := by
  simp [addClass, DeclarationGroup.mem_hosts, other]

/-- The first file takes the signatures of its group and leaves the others to the files after it. -/
theorem foldl_addClass_cons (file : DeclarationFile) (rest : List DeclarationFile) :
    signatures.foldl (fun files s => addClass s files) (file :: rest) =
      { file with classes := file.classes ++ declaredClasses (file.group.select signatures) } ::
      (file.group.leave signatures).foldl (fun files s => addClass s files) rest := by
  induction signatures generalizing file rest with
  | nil => simp [declaredClasses, DeclarationGroup.select, DeclarationGroup.leave]
  | cons s signatures ih =>
    rw [List.foldl_cons]
    by_cases own : s.host.group = file.group
    · rw [addClass_own own, ih]
      simp [own, declaredClasses, DeclarationGroup.select, DeclarationGroup.leave]
    · rw [addClass_other own, ih]
      simp [own, DeclarationGroup.select, DeclarationGroup.leave]

/-- The file of the first listed group has its signatures, and the other groups share the rest. -/
theorem groupSignatures_cons : groupSignatures signatures (group :: groups) comments =
    ⟨group, comments, declaredClasses (group.select signatures)⟩ ::
      groupSignatures (group.leave signatures) groups comments := by
  rw [groupSignatures, List.map_cons, foldl_addClass_cons, List.nil_append]
  rfl

/-- Without groups there are no files. -/
theorem groupSignatures_nil : groupSignatures signatures [] comments = [] := by
  rw [groupSignatures, List.map_nil]
  induction signatures with
  | nil => rfl
  | cons s signatures ih => exact ih

/-- The files stand in the order of the groups. -/
theorem groups_groupSignatures :
    (groupSignatures signatures groups comments).map DeclarationFile.group = groups := by
  induction groups generalizing signatures with
  | nil => rw [groupSignatures_nil]; rfl
  | cons group groups ih => rw [groupSignatures_cons, List.map_cons, ih]

/-- There are as many files as groups. -/
theorem length_groupSignatures :
    (groupSignatures signatures groups comments).length = groups.length := by
  have ordered : (groupSignatures signatures groups comments).map DeclarationFile.group = groups :=
    groups_groupSignatures
  simpa using congrArg List.length ordered

/-- The file at a place has the signatures of its group if the group is not listed before, and no
classes otherwise. -/
theorem groupSignatures_getElem? (k : Nat) : (groupSignatures signatures groups comments)[k]? =
    groups[k]?.map fun group => ⟨group, comments, if group ∈ groups.take k then []
      else declaredClasses (group.select signatures)⟩ := by
  induction groups generalizing signatures k with
  | nil => simp [groupSignatures_nil]
  | cons first groups ih =>
    rw [groupSignatures_cons]
    cases k with
    | zero => simp
    | succ k =>
      rw [List.getElem?_cons_succ, ih, List.getElem?_cons_succ, List.take_succ_cons]
      apply congrArg (fun image => Option.map image groups[k]?)
      funext group
      by_cases same : group = first
      · simp [same, select_leave_self, declaredClasses]
      · simp [same, select_leave_other same]

/-- The signatures of a group, and those of further groups that it leaves, are the signatures of all
these groups. -/
theorem select_append_leave (group : DeclarationGroup) (groups : List DeclarationGroup)
    (signatures : List ClassSignatures) : (group.select signatures ++
      (group.leave signatures).filter fun s => s.host.group ∈ groups).Perm
        (signatures.filter fun s => s.host.group ∈ group :: groups) := by
  have here : (signatures.filter fun s => s.host.group ∈ group :: groups).filter
      (fun s => s.host.group = group) = group.select signatures := by
    rw [List.filter_filter, DeclarationGroup.select]
    exact List.filter_congr fun s _ => by by_cases own : s.host.group = group <;> simp [own]
  have later : (signatures.filter fun s => s.host.group ∈ group :: groups).filter
      (fun s => !decide (s.host.group = group)) =
        (group.leave signatures).filter fun s => s.host.group ∈ groups := by
    rw [List.filter_filter, DeclarationGroup.leave, List.filter_filter]
    exact List.filter_congr fun s _ => by by_cases own : s.host.group = group <;> simp [own]
  rw [← here, ← later]
  exact List.filter_append_perm _ _

/-- All files together have the signatures of the listed groups. -/
theorem classes_groupSignatures : ((groupSignatures signatures groups comments).flatMap
    DeclarationFile.classes).Perm
      (declaredClasses (signatures.filter fun s => s.host.group ∈ groups)) := by
  -- The first file has the signatures of its group, and what it leaves is shared by the others.
  induction groups generalizing signatures with
  | nil => simp [groupSignatures_nil, declaredClasses]
  | cons first groups ih =>
    have declared := (select_append_leave first groups signatures).map
      ClassSignatures.declaration
    rw [List.map_append] at declared
    rw [groupSignatures_cons, List.flatMap_cons]
    exact (ih.append_left _).trans declared

/-- A group asks for the signatures of its classes. -/
theorem select_eq (group : DeclarationGroup) (signatures : List ClassSignatures) :
    group.select signatures = signatures.filter fun s => s.host ∈ group.hosts :=
  List.filter_congr fun s _ => by simp only [group.mem_hosts]

/-- The group of a class is listed when a listed group holds the class. -/
theorem group_listed (host : HostClass) (groups : List DeclarationGroup) :
    host.group ∈ groups ↔ ∃ group ∈ groups, host ∈ group.hosts := by
  constructor
  · exact fun listed => ⟨_, listed, (DeclarationGroup.mem_hosts _ _).2 rfl⟩
  · rintro ⟨group, listed, member⟩
    exact (DeclarationGroup.mem_hosts _ _).1 member ▸ listed

/-- A declaration shows which class its signatures are for. -/
theorem declaration_host {s s' : ClassSignatures} (same : s.declaration = s'.declaration) :
    s.host = s'.host := by
  have named : s.host.className = s'.host.className := congrArg ClassDecl.name same
  generalize s.host = host, s'.host = host' at named
  revert named
  cases host <;> cases host' <;> decide

/-- A declaration of a class is among those of its own group only. -/
theorem group_of_declared {s : ClassSignatures}
    (declared : s.declaration ∈ declaredClasses (group.select signatures)) :
    s.host.group = group := by
  obtain ⟨other, selected, same⟩ := List.mem_map.1 declared
  have own : other.host.group = group := of_decide_eq_true (List.mem_filter.1 selected).2
  rw [← declaration_host same, own]

/-- A listed group stands first at one place. -/
theorem eq_of_first {k j : Nat} (here : groups[k]? = some group) (fresh : group ∉ groups.take k)
    (there : groups[j]? = some group) (fresh' : group ∉ groups.take j) : j = k := by
  have later {k j : Nat} (here : groups[k]? = some group) (fresh : group ∉ groups.take j) :
      j ≤ k := by
    by_contra before
    rw [← List.getElem?_take_of_lt (Nat.lt_of_not_le before)] at here
    exact fresh (List.mem_of_getElem? here)
  exact Nat.le_antisymm (later here fresh') (later there fresh)

/-- A file that declares a class is the one of the first place of its group. -/
theorem place_of_declared {s : ClassSignatures} {file : DeclarationFile} {k : Nat}
    (placed : (groupSignatures signatures groups comments)[k]? = some file)
    (declared : s.declaration ∈ file.classes) :
    groups[k]? = some s.host.group ∧ s.host.group ∉ groups.take k := by
  rw [groupSignatures_getElem?, Option.map_eq_some_iff] at placed
  obtain ⟨group, listed, rfl⟩ := placed
  dsimp only at declared
  split at declared
  · exact absurd declared List.not_mem_nil
  · next fresh =>
    obtain rfl := group_of_declared declared
    exact ⟨listed, fresh⟩

/-- A given class whose group is listed is declared in one file only. -/
theorem declared_once {s : ClassSignatures} (given : s ∈ signatures)
    (listed : s.host.group ∈ groups) : ∃! k : Nat, ∃ file : DeclarationFile,
      (groupSignatures signatures groups comments)[k]? = some file ∧
        s.declaration ∈ file.classes := by
  obtain ⟨before, after, split, fresh⟩ := List.eq_append_cons_of_mem listed
  have first : groups[before.length]? = some s.host.group := by simp [split]
  have unlisted : s.host.group ∉ groups.take before.length := by simpa [split] using fresh
  have declared : s.declaration ∈ declaredClasses (s.host.group.select signatures) :=
    List.mem_map_of_mem (List.mem_filter.2 ⟨given, decide_eq_true rfl⟩)
  have placed : (groupSignatures signatures groups comments)[before.length]? =
      some ⟨s.host.group, comments, declaredClasses (s.host.group.select signatures)⟩ := by
    rw [groupSignatures_getElem?, first, Option.map_some, if_neg unlisted]
  refine ⟨before.length, ⟨_, placed, declared⟩, ?_⟩
  rintro k ⟨file, found, member⟩
  obtain ⟨there, fresh'⟩ := place_of_declared found member
  exact eq_of_first first unlisted there fresh'

end Distribution

/-- Handing out any signatures gives a file for each listed group, in their order, with the given
comments. The file of a group that is listed before has no classes; any other one has the classes
of its group's signatures, in their order and as often as they are given. Together the files
declare what the signatures of the listed groups declare, neither more nor less, and each of these
signatures in one file, while a signature of another group is declared in none. -/
theorem signatures_placed_once (signatures : List ClassSignatures)
    (groups : List DeclarationGroup) (comments : List String) :
    let files := groupSignatures signatures groups comments
    files.map DeclarationFile.group = groups ∧
    (∀ file ∈ files, file.comments = comments) ∧
    (∀ (k : Nat) (group : DeclarationGroup), groups[k]? = some group →
      ∃ file, files[k]? = some file ∧ file.classes =
        if group ∈ groups.take k then []
        else (signatures.filter fun s => s.host ∈ group.hosts).map ClassSignatures.declaration) ∧
    (files.flatMap DeclarationFile.classes).Perm
      ((signatures.filter fun s => ∃ group ∈ groups, s.host ∈ group.hosts).map
        ClassSignatures.declaration) ∧
    ∀ s ∈ signatures,
      ((∃ group ∈ groups, s.host ∈ group.hosts) →
        ∃! k : Nat, ∃ file : DeclarationFile,
          files[k]? = some file ∧ s.declaration ∈ file.classes) ∧
      ((∀ group ∈ groups, s.host ∉ group.hosts) →
        ∀ file ∈ files, s.declaration ∉ file.classes) := by
  intro files
  refine ⟨groups_groupSignatures, ?_, ?_, ?_, fun s given => ⟨?_, ?_⟩⟩
  · intro file member
    obtain ⟨k, placed⟩ := List.mem_iff_getElem?.1 member
    rw [groupSignatures_getElem?, Option.map_eq_some_iff] at placed
    obtain ⟨group, -, rfl⟩ := placed
    rfl
  · intro k group listed
    have placed : files[k]? = _ := groupSignatures_getElem? k
    rw [listed, Option.map_some] at placed
    refine ⟨_, placed, ?_⟩
    rw [select_eq]
    rfl
  · simp only [← group_listed]
    exact classes_groupSignatures
  · intro asked
    exact declared_once given ((group_listed _ _).2 asked)
  · intro other file member declared
    obtain ⟨k, placed⟩ := List.mem_iff_getElem?.1 member
    have listed := (place_of_declared placed declared).1
    exact other _ (List.mem_of_getElem? listed) ((DeclarationGroup.mem_hosts _ _).2 rfl)

/-- Of signatures of two collection proxies, the base class and a relation, handed out to the
relations twice, the three of relations stand in the first file, as they are given, and the other
one nowhere. -/
theorem signatures_placed_once_repeated :
    let proxy : ClassSignatures := ⟨.collectionProxy, []⟩
    let signatures : List ClassSignatures :=
      [proxy, ⟨.baseRecord, []⟩, ⟨.relation, []⟩, proxy]
    let files := groupSignatures signatures [.relation, .relation] []
    (∃ first second, files = [first, second] ∧
      first.classes = [proxy.declaration, ClassSignatures.declaration ⟨.relation, []⟩,
        proxy.declaration] ∧ second.classes = []) ∧
    (∃! k : Nat, ∃ file : DeclarationFile,
      files[k]? = some file ∧ proxy.declaration ∈ file.classes) ∧
    ∀ file ∈ files, ClassSignatures.declaration ⟨.baseRecord, []⟩ ∉ file.classes := by
  intro proxy signatures files
  obtain ⟨groups, -, classes, -, each⟩ :=
    signatures_placed_once signatures [.relation, .relation] []
  obtain ⟨first, here, declared⟩ := classes 0 .relation rfl
  obtain ⟨second, there, empty⟩ := classes 1 .relation rfl
  have count : files.length = 2 := by simpa using congrArg List.length groups
  refine ⟨⟨first, second, List.ext_getElem? fun k => ?_, declared, empty⟩, ?_, ?_⟩
  · match k with
    | 0 => exact here
    | 1 => exact there
    | k + 2 => rw [List.getElem?_eq_none (by rw [count]; exact Nat.le_add_left 2 k)]; rfl
  · exact (each proxy (by simp [signatures])).1 ⟨.relation, by decide, by decide⟩
  · exact (each ⟨.baseRecord, []⟩ (by simp [signatures])).2 (by decide)

/-- A group's classes stand in the order of all classes. -/
theorem DeclarationGroup.select_declared (group : DeclarationGroup) (policy : Policy) :
    group.select (HostClass.all.map (HostClass.declaredSignatures policy)) =
      group.hosts.map (HostClass.declaredSignatures policy) := by
  cases group <;> rfl

/-- Handing out the signatures of all classes never fails, nor does working out one group. The
files that come of it stand in the order of the groups, and each is the file that is worked out for
its group alone, or a file without classes if its group is listed before. It is written under the
name of its group with the text of that file. -/
theorem grouping_agrees (policy : Policy) (parallel : Bool) (groups : List DeclarationGroup)
    (comments : List String) (format : OutputFormat) :
    ∃ signatures, synthesizeAll policy parallel = .ok signatures ∧
      (groupSignatures signatures groups comments).length = groups.length ∧
      ∀ k group, groups[k]? = some group → ∃ direct file,
        group.declarations policy comments = .ok direct ∧
        file = (if group ∈ groups.take k then ⟨group, comments, []⟩ else direct) ∧
        (groupSignatures signatures groups comments)[k]? = some file ∧
        ((groupSignatures signatures groups comments).map (DeclarationFile.rendered format))[k]? =
          some ⟨group.fileStem ++ "." ++ format.extension, file.render format⟩ := by
  refine ⟨_, synthesizeAll_eq policy parallel, length_groupSignatures, fun k group listed => ?_⟩
  have placed : (groupSignatures (HostClass.all.map (HostClass.declaredSignatures policy)) groups
      comments)[k]? = _ := groupSignatures_getElem? k
  rw [listed, Option.map_some, group.select_declared] at placed
  refine ⟨_, _, group.declarations_eq policy comments, rfl, ?_, ?_⟩
  · rw [placed]
    split <;> rfl
  · rw [List.getElem?_map, placed]
    split <;> rfl

/-- Of the files for the relations, the base class and again the relations, the first two are those
that are worked out alone, and the last has no classes. -/
theorem grouping_agrees_repeated :
    let policy : Policy := ⟨⟨5, 10, "5.10"⟩, .legacySplat, .directDeclarations⟩
    ∃ signatures relations base, synthesizeAll policy true = .ok signatures ∧
      DeclarationGroup.relation.declarations policy ["Generated."] = .ok relations ∧
      DeclarationGroup.base.declarations policy ["Generated."] = .ok base ∧
      groupSignatures signatures [.relation, .base, .relation] ["Generated."] =
        [relations, base, ⟨.relation, ["Generated."], []⟩] := by
  intro policy
  obtain ⟨signatures, all, count, each⟩ :=
    grouping_agrees policy true [.relation, .base, .relation] ["Generated."] .json
  obtain ⟨relations, file, declared, fresh, first, -⟩ := each 0 .relation rfl
  obtain ⟨base, file', declared', fresh', second, -⟩ := each 1 .base rfl
  obtain ⟨_, file'', -, repeated, third, -⟩ := each 2 .relation rfl
  refine ⟨signatures, relations, base, all, declared, declared', List.ext_getElem? fun k => ?_⟩
  match k with
  | 0 => exact first.trans (congrArg some fresh)
  | 1 => exact second.trans (congrArg some fresh')
  | 2 => exact third.trans (congrArg some repeated)
  | k + 3 => rw [List.getElem?_eq_none (by rw [count]; exact Nat.le_add_left 3 k)]; rfl

end RecordTyping

import RecordTyping.Command.Generate

/-!
# Running at a desk

What an action answers in a workspace in memory, and the desk that it leaves. What commands do
before they write only looks at the desk and leaves lines in the log: such an action has an answer,
and whatever comes after it finds the desk as it was, but for the log. Looking for a configuration
is of this kind, so that which one is found is a matter of the file tree and the current directory
alone.
-/

namespace RecordTyping

open Files (Fault Path)

namespace Desk

variable {α β : Type} {d d' d'' : Desk}

/-- What an action answers at a desk, and the desk after it. -/
def perform (d : Desk) (action : ExceptT Failure (StateM Desk) α) : Except Failure α × Desk :=
  action.run.run d

theorem perform_pure (value : α) :
    d.perform (pure value : ExceptT Failure (StateM Desk) α) = (.ok value, d) := rfl

theorem perform_log (d : Desk) (line : LogLine) :
    d.perform (Workspace.log line) = (.ok (), d.note line) := rfl

/-- An action is followed by what comes after it, at the desk that it leaves, unless it fails. -/
theorem perform_bind (action : ExceptT Failure (StateM Desk) α)
    (next : α → ExceptT Failure (StateM Desk) β) : d.perform (action >>= next) =
      match d.perform action with
      | (.ok value, d') => d'.perform (next value)
      | (.error e, d') => (.error e, d') := by
  simp only [perform, ExceptT.run_bind, StateT.run_bind]
  change (match action.run.run d with | (result, d') => _) = _
  rcases action.run.run d with ⟨_ | _, d'⟩ <;> rfl

/-- What comes after an action that has a value. -/
theorem perform_bind_ok {action : ExceptT Failure (StateM Desk) α} {value : α}
    (answered : d.perform action = (.ok value, d'))
    (next : α → ExceptT Failure (StateM Desk) β) :
    d.perform (action >>= next) = d'.perform (next value) := by
  rw [perform_bind, answered]

/-- Nothing comes after an action that fails. -/
theorem perform_bind_error {action : ExceptT Failure (StateM Desk) α} {e : Failure}
    (failed : d.perform action = (.error e, d'))
    (next : α → ExceptT Failure (StateM Desk) β) :
    d.perform (action >>= next) = (.error e, d') := by
  rw [perform_bind, failed]

/-- A desk is the same as another but for lines in the log. -/
def Noted (d d' : Desk) : Prop := ∃ complained, d' = { d with complained := complained }

namespace Noted

theorem refl (d : Desk) : d.Noted d := ⟨d.complained, rfl⟩

theorem trans (first : d.Noted d') (second : d'.Noted d'') : d.Noted d'' := by
  obtain ⟨_, rfl⟩ := first
  obtain ⟨complained, rfl⟩ := second
  exact ⟨complained, rfl⟩

theorem of_note (d : Desk) (line : LogLine) : d.Noted (d.note line) := by
  unfold note
  split
  · exact ⟨_, rfl⟩
  · exact refl d

end Noted

/-- An action has an answer and leaves the desk as it is, but for lines in the log. -/
def Answers (d : Desk) (action : ExceptT Failure (StateM Desk) α) (result : Except Failure α) :
    Prop := ∃ d', d.Noted d' ∧ d.perform action = (result, d')

namespace Answers

variable {action : ExceptT Failure (StateM Desk) α} {next : α → ExceptT Failure (StateM Desk) β}
  {value : α} {result : Except Failure β} {e : Failure}

theorem pure (d : Desk) (value : α) : d.Answers (Pure.pure value) (.ok value) :=
  ⟨d, .refl d, rfl⟩

theorem throw (d : Desk) (e : Failure) :
    d.Answers (MonadExcept.throw e : ExceptT Failure (StateM Desk) α) (.error e) :=
  ⟨d, .refl d, rfl⟩

theorem log (d : Desk) (line : LogLine) : d.Answers (Workspace.log line) (.ok ()) :=
  ⟨d.note line, .of_note d line, perform_log d line⟩

theorem read (d : Desk) (p : Path) : d.Answers (Workspace.read p) (.ok (d.tree.read p)) :=
  ⟨d, .refl d, rfl⟩

/-- The answer of an action with a value is that of what comes after it. -/
theorem bind (first : d.Answers action (.ok value))
    (second : ∀ d', d.Noted d' → d'.Answers (next value) result) :
    d.Answers (action >>= next) result := by
  obtain ⟨d', noted, answered⟩ := first
  obtain ⟨d'', noted', answered'⟩ := second d' noted
  exact ⟨d'', noted.trans noted', (perform_bind_ok answered next).trans answered'⟩

/-- The answer of an action that fails is its failure, whatever comes after it. -/
theorem bind_error (first : d.Answers action (.error e)) :
    d.Answers (action >>= next) (.error e) := by
  obtain ⟨d', noted, failed⟩ := first
  exact ⟨d', noted, perform_bind_error failed next⟩

/-- A result that is a value is the answer of its own action. -/
theorem orFail_ok {ε : Type} (d : Desk) (failure : ε → Failure) {given : Except ε α}
    (succeeded : given = .ok value) : d.Answers (orFail failure given) (.ok value) := by
  subst succeeded
  exact Answers.pure d value

/-- A result that is an error is the failure of its own action. -/
theorem orFail_error {ε : Type} {reason : ε} (d : Desk) (failure : ε → Failure)
    {given : Except ε α} (failed : given = .error reason) :
    d.Answers (orFail failure given) (.error (failure reason)) := by
  subst failed
  exact Answers.throw d (failure reason)

/-- Lines for each of some elements go to the log. -/
theorem forM_log {γ : Type} (d : Desk) (line : γ → LogLine) (elements : List γ) :
    d.Answers (elements.forM fun element => Workspace.log (line element)) (.ok ()) := by
  induction elements generalizing d with
  | nil => exact Answers.pure d ()
  | cons element elements ih => exact (Answers.log d (line element)).bind fun d' _ => ih d'

/-- What comes after an action with a value is done at the same desk, but for lines in the log. -/
theorem onward {last : ExceptT Failure (StateM Desk) β} (first : d.Answers action (.ok value))
    (rest : ∀ d', d.Noted d' → ∃ d'', d'.Noted d'' ∧ d'.perform (next value) = d''.perform last) :
    ∃ d'', d.Noted d'' ∧ d.perform (action >>= next) = d''.perform last := by
  obtain ⟨d', noted, answered⟩ := first
  obtain ⟨d'', noted', same⟩ := rest d' noted
  exact ⟨d'', noted.trans noted', (perform_bind_ok answered next).trans same⟩

end Answers

/-! ## Looking for a configuration -/

/-- The desk with some lines in the log. -/
def noteAll (d : Desk) (lines : List LogLine) : Desk := lines.foldl note d

theorem noteAll_append (d : Desk) (first second : List LogLine) :
    d.noteAll (first ++ second) = (d.noteAll first).noteAll second := List.foldl_append

theorem Noted.of_noteAll (d : Desk) (lines : List LogLine) : d.Noted (d.noteAll lines) := by
  induction lines generalizing d with
  | nil => exact refl d
  | cons line lines ih => exact (of_note d line).trans (ih (d.note line))

/-- The configuration in a file that may be missing or wrong. -/
def loaded? (d : Desk) (p : Path) : Option Configuration :=
  (d.tree.read p).toOption.bind fun text => (Configuration.read text).toOption

/-- The configuration that a search finds: that of the nearest file that has one. -/
def found (d : Desk) : Configuration :=
  match d.whereabouts with
  | .ok directory => ((Configuration.candidates directory).findSome? d.loaded?).getD .standard
  | .error _ => .standard

/-- The line about a file that has been tried. There is none about a file that is missing. -/
def triedLine? (d : Desk) (p : Path) : Option LogLine :=
  match d.tree.read p with
  | .error .notFound => none
  | .error fault => some (Configuration.searchLine .warning
      ("Failed to read config file " ++ p.text ++ ": " ++ fault.message))
  | .ok text =>
    match Configuration.read text with
    | .ok _ => some (Configuration.searchLine .detail ("Loaded config from " ++ p.text))
    | .error e => some (Configuration.searchLine .warning
        ("Ignoring " ++ p.text ++ ": " ++ e.message ++ ". Using defaults."))

/-- The lines about files that are tried up to the first that has a configuration. -/
def triedLines (d : Desk) : List Path → List LogLine
  | [] => []
  | p :: rest =>
    (d.triedLine? p).toList ++ if (d.loaded? p).isSome then [] else d.triedLines rest

theorem Noted.loaded?_eq (noted : d.Noted d') : d'.loaded? = d.loaded? := by
  obtain ⟨_, rfl⟩ := noted
  rfl

theorem Noted.triedLines_eq (noted : d.Noted d') (paths : List Path) :
    d'.triedLines paths = d.triedLines paths := by
  obtain ⟨_, rfl⟩ := noted
  induction paths with
  | nil => rfl
  | cons p paths ih => rw [triedLines, ih]; rfl

/-- A file that is missing or wrong is no configuration, and what is wrong is said in the log. -/
theorem perform_tryLoad (d : Desk) (p : Path) :
    d.perform (Configuration.tryLoad p) =
      (.ok (d.loaded? p), d.noteAll (d.triedLine? p).toList) := by
  have given : d.perform (Workspace.read p) = (.ok (d.tree.read p), d) := rfl
  refine (perform_bind_ok given _).trans ?_
  unfold loaded? triedLine?
  cases d.tree.read p with
  | error fault => cases fault <;> rfl
  | ok text =>
    rw [Except.toOption, Option.bind_some]
    dsimp only
    cases Configuration.read text with
    | ok c => rfl
    | error e => rfl

/-- Of some files the first that has a configuration is taken, and those after it are not tried. -/
theorem perform_firstLoaded (d : Desk) (paths : List Path) :
    d.perform (Configuration.firstLoaded paths) =
      (.ok (paths.findSome? d.loaded?), d.noteAll (d.triedLines paths)) := by
  induction paths generalizing d with
  | nil => rfl
  | cons p paths ih =>
    refine (perform_bind_ok (perform_tryLoad d p) _).trans ?_
    have noted := Noted.of_noteAll d (d.triedLine? p).toList
    rw [List.findSome?_cons, triedLines, noteAll_append]
    cases d.loaded? p with
    | some c => rfl
    | none =>
      refine (ih _).trans ?_
      rw [noted.loaded?_eq, noted.triedLines_eq]
      rfl

/-- The lines that a search leaves in the log. -/
def searchLines (d : Desk) : List LogLine :=
  match d.whereabouts with
  | .ok directory =>
    d.triedLines (Configuration.candidates directory) ++
      if ((Configuration.candidates directory).findSome? d.loaded?).isSome then []
      else [Configuration.searchLine .detail ("No config found after checking " ++
        Text.natNumeral Configuration.searchDepth ++ " directories. Using default config.")]
  | .error fault => [Configuration.searchLine .warning
      ("Failed to get current directory: " ++ fault.message ++ ". Using default config.")]

/-- A search finds a configuration. -/
theorem perform_search (d : Desk) :
    d.perform Configuration.search = (.ok d.found, d.noteAll d.searchLines) := by
  have placed : d.perform Workspace.currentDirectory = (.ok d.whereabouts, d) := rfl
  refine (perform_bind_ok placed _).trans ?_
  unfold found searchLines
  cases d.whereabouts with
  | error fault => exact perform_bind_ok (perform_log d _) _
  | ok directory =>
    refine (perform_bind_ok (perform_firstLoaded d _) _).trans ?_
    dsimp only
    rw [noteAll_append]
    generalize d.noteAll (d.triedLines _) = tried
    cases (Configuration.candidates directory).findSome? d.loaded? with
    | some c =>
      rw [Option.isSome_some, if_pos rfl]
      rfl
    | none =>
      rw [Option.isSome_none, if_neg Bool.false_ne_true]
      exact perform_bind_ok (perform_log tried _) _

/-- A search leaves the desk as it is, but for the log. -/
theorem answers_search (d : Desk) : d.Answers Configuration.search (.ok d.found) :=
  ⟨d.noteAll d.searchLines, .of_noteAll d d.searchLines, perform_search d⟩

/-- The configuration in a file that is named, or what is wrong with the file. -/
def loading (d : Desk) (p : Path) : Except Failure Configuration :=
  match d.tree.read p with
  | .error fault => .error (.file fault)
  | .ok text =>
    match Configuration.read text with
    | .error e => .error ((Failure.configuration e).withContext ("loading " ++ p.text))
    | .ok c => .ok c

theorem answers_load (d : Desk) (p : Path) : d.Answers (Configuration.load p) (d.loading p) := by
  refine (Answers.read d p).bind fun d' _ => ?_
  unfold loading
  cases d.tree.read p with
  | error fault => exact Answers.throw d' (.file fault)
  | ok text =>
    dsimp only
    cases Configuration.read text with
    | ok c => exact Answers.pure d' c
    | error e => exact Answers.throw d' _

end Desk
end RecordTyping

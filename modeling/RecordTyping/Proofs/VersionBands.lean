import Mathlib.Data.Prod.Lex
import RecordTyping.Declaration.Rendering
import RecordTyping.Framework.Policy
import RecordTyping.Proofs.Synthesis

/-!
# Bands of versions

A version is supported from 5.0 on, and its numbers put it into one of three bands: 5.0, 5.1, and
everything later, where 5.10 is later than 5.2 and not a kind of 5.1. The band decides the choices
of the policy, and different bands decide differently. The choices are all that the declarations
depend on, so that nothing else of a version text shows in them.
-/

namespace RecordTyping

/-- The numbers of a version, compared by the major one first. -/
def FrameworkVersion.release (v : FrameworkVersion) : ℕ ×ₗ ℕ := toLex (v.major, v.minor)

/-- A band of versions. -/
inductive Band where
  | fiveZero
  | fiveOne
  | later
deriving DecidableEq, Repr

namespace Band

/-- Which releases belong to a band. -/
def Holds : Band → ℕ ×ₗ ℕ → Prop
  | .fiveZero, release => release = toLex (5, 0)
  | .fiveOne, release => release = toLex (5, 1)
  | .later, release => toLex (5, 2) ≤ release

/-- The choices that are made for the versions of a band. -/
def choices : Band → ParamStyle × ProxyAccessors
  | .fiveZero => (.legacySplat, .directDeclarations)
  | .fiveOne => (.legacySplat, .lastOnly)
  | .later => (.keywordAttributes, .lastOnly)

/-- Different bands make different choices. -/
theorem choices_injective : Function.Injective choices := by
  rintro (_ | _ | _) (_ | _ | _) same <;> first | rfl | cases same

end Band

namespace FrameworkVersion

variable {v : FrameworkVersion} {b : Band}

/-- A release is reached by a later major number, or by the same and a minor one that reaches it. -/
theorem le_release {major minor : ℕ} : toLex (major, minor) ≤ v.release ↔
    major < v.major ∨ major = v.major ∧ minor ≤ v.minor := by
  rw [release, Prod.Lex.toLex_le_toLex]

/-- The release of a version is one by both numbers. -/
theorem release_eq {major minor : ℕ} :
    v.release = toLex (major, minor) ↔ v.major = major ∧ v.minor = minor := by
  rw [release, toLex_inj, Prod.mk.injEq]

/-- A version before 5.0 has not reached it. -/
theorem isBefore_iff : v.isBefore 5 0 = true ↔ ¬toLex (5, 0) ≤ v.release := by
  rw [le_release]
  simp only [isBefore, Bool.or_eq_true, Bool.and_eq_true, decide_eq_true_eq]
  omega

/-- A version is of a release by both numbers. -/
theorem isOf_iff {major minor : ℕ} :
    v.isOf major minor = true ↔ v.major = major ∧ v.minor = minor := by
  rw [isOf, Bool.and_eq_true, decide_eq_true_eq, decide_eq_true_eq]

/-- The band of a version that is supported. -/
def band (v : FrameworkVersion) : Band :=
  if v.isOf 5 0 then .fiveZero else if v.isOf 5 1 then .fiveOne else .later

/-- A version that has reached 5.0 is in one band. -/
theorem holds_iff (supported : toLex (5, 0) ≤ v.release) :
    b.Holds v.release ↔ v.band = b := by
  rw [le_release] at supported
  cases b <;> simp only [Band.Holds, release_eq, le_release, FrameworkVersion.band, isOf_iff] <;>
    split_ifs <;> simp <;> omega

end FrameworkVersion

/-- The choices of a policy. -/
def Policy.choices (p : Policy) : ParamStyle × ProxyAccessors := (p.paramStyle, p.proxyAccessors)

namespace Policy

variable {v : FrameworkVersion} {p q : Policy} {text : String}

/-- A version has a policy exactly if it has reached 5.0, and its band makes the choices. -/
theorem ofVersion_eq_ok : ofVersion v = .ok p ↔
    toLex (5, 0) ≤ v.release ∧ p.version = v ∧ p.choices = v.band.choices := by
  obtain ⟨version, style, accessors⟩ := p
  by_cases early : v.isBefore 5 0 = true
  · rw [ofVersion, if_pos early]
    simp [FrameworkVersion.isBefore_iff.1 early]
  · have supported : toLex (5, 0) ≤ v.release := by
      by_contra late
      exact early (FrameworkVersion.isBefore_iff.2 late)
    rw [ofVersion, if_neg early]
    by_cases zero : v.isOf 5 0 = true <;> by_cases one : v.isOf 5 1 = true <;>
      simp [supported, FrameworkVersion.band, Band.choices, choices, zero, one, eq_comm]

/-- A text has a policy exactly if it is a version that has one. -/
theorem resolve_eq_ok : resolve text = .ok p ↔
    FrameworkVersion.parse text = .ok p.version ∧ toLex (5, 0) ≤ p.version.release ∧
      p.choices = p.version.band.choices := by
  rw [resolve, Traversal.bind_eq_ok]
  constructor
  · rintro ⟨v, read, resolved⟩
    obtain ⟨supported, rfl, chosen⟩ := ofVersion_eq_ok.1 resolved
    exact ⟨read, supported, chosen⟩
  · rintro ⟨read, supported, chosen⟩
    exact ⟨p.version, read, ofVersion_eq_ok.2 ⟨supported, rfl, chosen⟩⟩

/-- Policies of the same choices declare the same methods for each class. -/
theorem declared_of_choices (same : p.choices = q.choices) (host : HostClass) :
    host.declared p = host.declared q := by
  obtain ⟨style, accessors⟩ := Prod.mk.inj same
  have reversioned : { p with version := q.version } = q := by
    rw [style, accessors]
  rw [← host.declared_version p q.version, reversioned]

/-- The collection proxy declares as many methods as its accessors need. -/
theorem length_declared_proxy (p : Policy) : (HostClass.collectionProxy.declared p).length =
    match p.proxyAccessors with
    | .directDeclarations => 14
    | .lastOnly => 7 := by
  obtain ⟨version, style, _ | _⟩ := p <;> rfl

/-- The first finder of the base class takes its arguments in the style of the policy. -/
theorem shape_declared_base (p : Policy) :
    (HostClass.baseRecord.declared p).head?.map MethodSpec.parameterShape =
      match p.paramStyle with
      | .legacySplat => some .untypedSplat
      | .keywordAttributes => some .attributesWithDefault := by
  obtain ⟨version, _ | _, accessors⟩ := p <;> rfl

/-- Policies that declare the same methods for each class make the same choices. -/
theorem choices_of_declared (same : ∀ host : HostClass, host.declared p = host.declared q) :
    p.choices = q.choices := by
  have count := congrArg List.length (same .collectionProxy)
  have shape := congrArg (fun methods => methods.head?.map MethodSpec.parameterShape)
    (same .baseRecord)
  simp only [length_declared_proxy] at count
  simp only [shape_declared_base] at shape
  obtain ⟨version, style, accessors⟩ := p
  obtain ⟨version', style', accessors'⟩ := q
  cases accessors <;> cases accessors' <;> cases style <;> cases style' <;> simp_all [choices]

end Policy

/-- Two policies have the same output: the same signatures, the same file for every group under
any comments, and the same text of it in either format. -/
structure Policy.SameOutput (p q : Policy) : Prop where
  methods (host : HostClass) : host.synthesize p = host.synthesize q
  signatures (parallel : Bool) : synthesizeAll p parallel = synthesizeAll q parallel
  files (group : DeclarationGroup) (comments : List String) :
    group.declarations p comments = group.declarations q comments
  texts (group : DeclarationGroup) (comments : List String) (format : OutputFormat) :
    (group.declarations p comments).map (DeclarationFile.render format) =
      (group.declarations q comments).map (DeclarationFile.render format)

/-- The choices of a policy are all that its output shows, and it shows all of them. -/
theorem Policy.sameOutput_iff {p q : Policy} : p.SameOutput q ↔ p.choices = q.choices := by
  constructor
  · intro same
    refine choices_of_declared fun host => ?_
    have methods := same.methods host
    rw [host.synthesize_eq, host.synthesize_eq] at methods
    exact Except.ok.inj methods
  · intro same
    have declared : HostClass.declaredSignatures p = HostClass.declaredSignatures q := by
      funext host
      rw [HostClass.declaredSignatures, declared_of_choices same, HostClass.declaredSignatures]
    have files (group : DeclarationGroup) (comments : List String) :
        group.declarations p comments = group.declarations q comments := by
      rw [group.declarations_eq, group.declarations_eq, declared]
    exact {
      methods := fun host => by
        rw [host.synthesize_eq, host.synthesize_eq, declared_of_choices same]
      signatures := fun parallel => by rw [synthesizeAll_eq, synthesizeAll_eq, declared]
      files := files
      texts := fun group comments format => by rw [files group comments] }

/-- A version text has a policy exactly if its numbers reach 5.0. The numbers of two texts that
have one are each in one band, and the output is the same exactly if the bands are. -/
theorem output_by_band :
    (∀ text v, FrameworkVersion.parse text = .ok v →
      ((∃ p, Policy.resolve text = .ok p) ↔ toLex (5, 0) ≤ v.release)) ∧
    ∀ text text' p p', Policy.resolve text = .ok p → Policy.resolve text' = .ok p' →
      (FrameworkVersion.parse text = .ok p.version ∧ ∃! b : Band, b.Holds p.version.release) ∧
      ∀ b b' : Band, b.Holds p.version.release → b'.Holds p'.version.release →
        (p.SameOutput p' ↔ b = b') := by
  constructor
  · intro text v read
    constructor
    · rintro ⟨p, resolved⟩
      obtain ⟨read', supported, -⟩ := Policy.resolve_eq_ok.1 resolved
      rw [read] at read'
      exact Except.ok.inj read' ▸ supported
    · intro supported
      exact ⟨⟨v, v.band.choices.1, v.band.choices.2⟩, Policy.resolve_eq_ok.2 ⟨read, supported, rfl⟩⟩
  · intro text text' p p' resolved resolved'
    obtain ⟨read, supported, chosen⟩ := Policy.resolve_eq_ok.1 resolved
    obtain ⟨-, supported', chosen'⟩ := Policy.resolve_eq_ok.1 resolved'
    have banded {b : Band} : b.Holds p.version.release ↔ p.version.band = b :=
      FrameworkVersion.holds_iff supported
    refine ⟨⟨read, p.version.band, banded.2 rfl, fun b holds => (banded.1 holds).symm⟩, ?_⟩
    intro b b' holds holds'
    rw [Policy.sameOutput_iff, chosen, chosen', Band.choices_injective.eq_iff, banded.1 holds,
      (FrameworkVersion.holds_iff supported').1 holds']

/-- A late minor number, a `v`, zeros, blanks and a tail do not show: 5.10 and a loosely written 7.0
have the same output, and 5.1 has another. -/
theorem output_by_band_later : ∃ p q r, Policy.resolve "5.10.0-rc1" = .ok p ∧
    Policy.resolve " v007.0\n" = .ok q ∧ Policy.resolve "5.1" = .ok r ∧
    p.SameOutput q ∧ ¬p.SameOutput r := by
  have late : Policy.resolve "5.10.0-rc1" =
      .ok ⟨⟨5, 10, "5.10.0-rc1"⟩, .keywordAttributes, .lastOnly⟩ :=
    Traversal.eq_ok_of_toOption (by decide +kernel)
  have loose : Policy.resolve " v007.0\n" =
      .ok ⟨⟨7, 0, "v007.0"⟩, .keywordAttributes, .lastOnly⟩ :=
    Traversal.eq_ok_of_toOption (by decide +kernel)
  have early : Policy.resolve "5.1" = .ok ⟨⟨5, 1, "5.1"⟩, .legacySplat, .lastOnly⟩ :=
    Traversal.eq_ok_of_toOption (by decide +kernel)
  have isLate : Band.later.Holds (toLex (5, 10)) := Prod.Lex.toLex_le_toLex.2 (by decide)
  have isLoose : Band.later.Holds (toLex (7, 0)) := Prod.Lex.toLex_le_toLex.2 (by decide)
  obtain ⟨-, same⟩ := output_by_band.2 _ _ _ _ late loose
  obtain ⟨-, other⟩ := output_by_band.2 _ _ _ _ late early
  exact ⟨_, _, _, late, loose, early, (same .later .later isLate isLoose).2 rfl,
    fun equal => absurd ((other .later .fiveOne isLate rfl).1 equal) (by decide)⟩

end RecordTyping

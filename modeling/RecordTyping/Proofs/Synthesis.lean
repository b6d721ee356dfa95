import RecordTyping.Declaration
import RecordTyping.Proofs.Names
import RecordTyping.Proofs.Traversal

/-!
# Synthesis never fails

The names of the methods of a host class are distinct whatever the policy, so that the check for
repeated names always passes. What is declared reads the choices of the policy and not its version.
Working the classes out side by side gives what working them out one after the other does.
-/

namespace RecordTyping

namespace HostClass

/-- The methods of a class do not depend on the version that the choices were made for. -/
theorem declared_version (host : HostClass) (policy : Policy) (v : FrameworkVersion) :
    host.declared { policy with version := v } = host.declared policy := by
  cases host <;> rfl

/-- The methods of a class have distinct names. -/
theorem declared_names_nodup (host : HostClass) (policy : Policy) :
    ((host.declared policy).map MethodSpec.name).Nodup := by
  -- the version is put aside, so that there are only the choices to look at
  have choices : ∀ style accessors,
      ((host.declared ⟨⟨0, 0, ""⟩, style, accessors⟩).map MethodSpec.name).Nodup := by
    rintro (_ | _) (_ | _) <;> cases host <;> decide
  rw [← host.declared_version policy ⟨0, 0, ""⟩]
  exact choices policy.paramStyle policy.proxyAccessors

/-- Methods of distinct names pass the check. -/
theorem ensureUnique_distinct (host : HostClass) {methods : List MethodSpec}
    (distinct : (methods.map MethodSpec.name).Nodup) : host.ensureUnique methods = .ok () := by
  rw [ensureUnique, (firstRepeated?_eq_none _).2 distinct]

/-- Methods that repeat a name are refused with the first repeated one. -/
theorem ensureUnique_repeated (host : HostClass) {methods : List MethodSpec} {name : String}
    (repeated : FirstRepeat (methods.map MethodSpec.name) name) :
    host.ensureUnique methods = .error ⟨host.className, name⟩ := by
  rw [ensureUnique, (firstRepeated?_eq_some _ _).2 repeated]

/-- The methods of a class are always synthesized. -/
theorem synthesize_eq (host : HostClass) (policy : Policy) :
    host.synthesize policy = .ok (host.declared policy) := by
  rw [synthesize, host.ensureUnique_distinct (host.declared_names_nodup policy)]
  rfl

/-- A class with the methods that it declares. -/
def declaredSignatures (policy : Policy) (host : HostClass) : ClassSignatures :=
  ⟨host, host.declared policy⟩

/-- The signatures of a class are always synthesized. -/
theorem signatures_eq (policy : Policy) (host : HostClass) :
    signatures policy host = .ok (declaredSignatures policy host) := by
  rw [signatures, synthesize_eq]
  rfl

/-- The signatures of classes are those of each. -/
theorem mapM_signatures (policy : Policy) (hosts : List HostClass) :
    hosts.mapM (signatures policy) = .ok (hosts.map (declaredSignatures policy)) :=
  Traversal.mapM_eq_ok_map fun host _ => signatures_eq policy host

end HostClass

/-- The signatures of all classes are always synthesized, side by side or not. -/
theorem synthesizeAll_eq (policy : Policy) (parallel : Bool) :
    synthesizeAll policy parallel =
      .ok (HostClass.all.map (HostClass.declaredSignatures policy)) := by
  rw [← HostClass.mapM_signatures]
  cases parallel with
  | false => rfl
  | true => rw [synthesizeAll, if_pos rfl, List.mapM_map]; rfl

/-- The file of a group is always worked out. -/
theorem DeclarationGroup.declarations_eq (group : DeclarationGroup) (policy : Policy)
    (comments : List String) : group.declarations policy comments = .ok ⟨group, comments,
      (group.hosts.map (HostClass.declaredSignatures policy)).map ClassSignatures.declaration⟩ := by
  rw [declarations, HostClass.mapM_signatures]
  rfl

end RecordTyping

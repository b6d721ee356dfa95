import Mathlib.Data.List.Infix
import RecordTyping.Proofs.Paths
import RecordTyping.Workspace

/-!
# The paths of places

The path of a place has its names one after the other, each behind a slash. So the path of the place
above is the parent of it, and a name in the directory of that path is the path of the place
below: the ancestors of a path are the paths of the places above, up to the root.
-/

namespace RecordTyping

open Files (Path Place)

namespace Files.Path

/-- A path is its text. -/
theorem eq_of_toList {p q : Path} (same : p.text.toList = q.text.toList) : p = q := by
  obtain ⟨text⟩ := p
  exact congrArg Path.mk (String.toList_inj.1 same)

/-- A text that ends with a name has nothing at its end to take off. -/
theorem IsName.trimBack_reverse {name : String} (isName : IsName name) (rest : List Char) :
    trimBack (name.toList.reverse ++ rest) = name.toList.reverse ++ rest := by
  have filled : name.toList.reverse ≠ [] := by simpa using isName.filled
  have unbroken : '/' ∉ name.toList.reverse := by simpa using isName.unbroken
  have proper : name.toList.reverse ≠ ['.'] := by
    intro point
    refine isName.proper.1 (String.toList_inj.1 ?_)
    rw [← List.reverse_reverse name.toList, point]
    rfl
  obtain ⟨c, more, name⟩ := List.exists_cons_of_ne_nil filled
  rw [name] at unbroken proper ⊢
  rw [List.mem_cons, not_or] at unbroken
  rw [List.cons_append]
  unfold trimBack
  split
  · next slash => exact absurd (List.cons.inj slash).1.symm unbroken.1
  · next point =>
    obtain ⟨rfl, alone⟩ := List.cons.inj point
    rw [(List.append_eq_nil_iff.1 alone).1] at proper
    exact absurd rfl proper
  · next point =>
    obtain ⟨rfl, broken⟩ := List.cons.inj point
    cases more with
    | nil => exact absurd rfl proper
    | cons d more =>
      rw [(List.cons.inj broken).1] at unbroken
      exact absurd List.mem_cons_self unbroken.2
  · rfl

/-- The parent of an absolute path that ends with a name is what stands before the name, without
the slashes at its end. -/
theorem IsName.parentText?_behind {name : String} (isName : IsName name) {front : List Char}
    (whole : front.reverse.dropWhile (· ≠ '/') = front.reverse) :
    parentText? ('/' :: (front ++ name.toList)) =
      some ('/' :: (trimBack front.reverse).reverse) := by
  have filled : name.toList.reverse ≠ [] := by simpa using isName.filled
  have kept : trimBack (front ++ name.toList).reverse = name.toList.reverse ++ front.reverse := by
    rw [List.reverse_append, isName.trimBack_reverse]
  have cut : (name.toList.reverse ++ front.reverse).dropWhile (· ≠ '/') = front.reverse := by
    rw [List.dropWhile_append_of_pos, whole]
    intro c member
    have other : c ≠ '/' := by
      rintro rfl
      exact isName.unbroken (List.mem_reverse.1 member)
    simpa using other
  obtain ⟨c, more, last⟩ := List.exists_cons_of_ne_nil filled
  rw [last, List.cons_append] at kept cut
  simp only [parentText?, headLength, List.take_succ_cons, List.take_zero, List.drop_succ_cons,
    List.drop_zero, kept, cut, List.cons_append, List.nil_append]

end Files.Path

namespace Desk

open Files.Path (IsName)

variable {place above : Place} {name : String}

/-- Names one after the other, each behind a slash. -/
def slashed (place : Place) : List Char := place.flatMap fun name => '/' :: name.toList

theorem slashed_concat (place : Place) (name : String) :
    slashed (place ++ [name]) = slashed place ++ '/' :: name.toList := by
  simp [slashed]

/-- The path of a place has its names behind slashes, and that of the root is a slash. -/
theorem pathOf_text (place : Place) :
    (pathOf place).text.toList = if place = [] then ['/'] else slashed place := by
  have behind (name : String) (rest : Place) :
      '/' :: ['/'].intercalate ((name :: rest).map String.toList) = slashed (name :: rest) := by
    induction rest generalizing name with
    | nil => simp [slashed]
    | cons next rest ih =>
      have more : (next :: rest).map String.toList ≠ [] := by simp
      rw [List.map_cons, List.intercalate_cons_of_ne_nil more, slashed, List.flatMap_cons,
        ← slashed, ← ih next]
      simp
  have whole : (pathOf place).text.toList = '/' :: ['/'].intercalate (place.map String.toList) := by
    simp [pathOf, String.toList_intercalate]
  rw [whole]
  cases place with
  | nil => rfl
  | cons name rest => rw [behind, if_neg (List.cons_ne_nil name rest)]

/-- Below a place that is not the root there is one more slash before the name. -/
theorem slashed_below (place : Place) (name : String) :
    ∃ front, slashed (place ++ [name]) = '/' :: (front ++ name.toList) ∧
      (place = [] ∧ front = [] ∨ place ≠ [] ∧ '/' :: front = slashed place ++ ['/']) := by
  rw [slashed_concat]
  cases place with
  | nil => exact ⟨[], rfl, Or.inl ⟨rfl, rfl⟩⟩
  | cons first rest =>
    have head : slashed (first :: rest) = '/' :: (first.toList ++ slashed rest) := by
      rw [slashed, List.flatMap_cons, List.cons_append]
      rfl
    refine ⟨first.toList ++ slashed rest ++ ['/'], ?_, Or.inr ⟨List.cons_ne_nil first rest, ?_⟩⟩
    · rw [head]
      simp
    · rw [head]
      simp

/-- The root has no parent. -/
theorem parent?_root : (pathOf []).parent? = none := by rfl

/-- The parent of the path of a place is the path of the place above. -/
theorem parent?_pathOf (names : ∀ other ∈ place ++ [name], IsName other) :
    (pathOf (place ++ [name])).parent? = some (pathOf place) := by
  have isName : IsName name := names name (by simp)
  obtain ⟨front, text, before⟩ := slashed_below place name
  have parent : Files.Path.parentText? (pathOf (place ++ [name])).text.toList =
      some (pathOf place).text.toList := by
    rw [pathOf_text, if_neg (by simp), text, pathOf_text]
    rcases before with ⟨rfl, rfl⟩ | ⟨below, behind⟩
    · rw [isName.parentText?_behind rfl]
      rfl
    · -- the place has a last name of its own, up to which the slash is taken off
      obtain ⟨above, last, rfl⟩ := (List.eq_nil_or_concat' place).resolve_left below
      have isLast : IsName last := names last (by simp)
      obtain ⟨front', text', -⟩ := slashed_below above last
      rw [text', List.cons_append] at behind
      obtain rfl := (List.cons.inj behind).2
      have back : (front' ++ last.toList ++ ['/']).reverse =
          '/' :: (last.toList.reverse ++ front'.reverse) := by simp
      rw [isName.parentText?_behind (by rw [back]; rfl), back, Files.Path.trimBack,
        isLast.trimBack_reverse, if_neg below, text']
      simp
  rw [Files.Path.parent?, parent, Option.map_some]
  exact congrArg some (Files.Path.eq_of_toList String.toList_ofList)

/-- A name in the directory of a place is the path of the place below. -/
theorem join_pathOf (names : ∀ other ∈ place, IsName other) (isName : IsName name) :
    (pathOf place).join name = pathOf (place ++ [name]) := by
  have filled : (pathOf place).text.isEmpty = false := by
    rw [String.isEmpty_eq_false_iff]
    intro empty
    have slash : (pathOf place).text.toList.head? = some '/' := by
      simp [pathOf]
    rw [empty] at slash
    cases slash
  have below : (pathOf (place ++ [name])).text.toList = slashed place ++ '/' :: name.toList := by
    rw [pathOf_text, if_neg (by simp), slashed_concat]
  refine Files.Path.eq_of_toList ?_
  rw [below, Files.Path.join, isName.relative, filled, Bool.or_false, if_neg (by decide)]
  rcases List.eq_nil_or_concat' place with rfl | ⟨above, last, rfl⟩
  · rw [if_pos (by rfl), String.toList_append, pathOf_text, if_pos rfl]
    rfl
  · have isLast : IsName last := names last (by simp)
    have text : (pathOf (above ++ [last])).text.toList = slashed (above ++ [last]) := by
      rw [pathOf_text, if_neg (by simp)]
    have unended : (pathOf (above ++ [last])).text.toList.getLast? ≠ some '/' := by
      intro slash
      rw [text, slashed_concat, List.getLast?_append_cons,
        List.getLast?_cons_of_ne_nil isLast.filled] at slash
      exact isLast.unbroken (List.mem_of_getLast? slash)
    rw [if_neg unended, String.toList_append, String.toList_append, text]
    simp

/-- The ancestors of the path of a place are the paths of the places above it, the nearest first. -/
theorem ancestors_pathOf (names : ∀ name ∈ place, IsName name) (limit : Nat) :
    (pathOf place).ancestors limit = (place.inits.reverse.take limit).map pathOf := by
  induction limit generalizing place with
  | zero => rfl
  | succ limit ih =>
    rw [Files.Path.ancestors]
    rcases List.eq_nil_or_concat' place with rfl | ⟨above, name, rfl⟩
    · rw [parent?_root]
      simp
    · have higher : ∀ other ∈ above, IsName other :=
        fun other member => names other (List.mem_append_left [name] member)
      have inits : (above ++ [name]).inits.reverse = (above ++ [name]) :: above.inits.reverse := by
        simp [List.inits_append]
      rw [parent?_pathOf names, inits, List.take_succ_cons, List.map_cons, ← ih higher]

end Desk

end RecordTyping

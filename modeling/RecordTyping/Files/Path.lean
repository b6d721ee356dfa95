/-!
# Paths

A path is the text that names a file, with a slash between its parts. Empty parts and parts that
are a single point say nothing, except for a point at the start. The parent of a path is
the path without its last part that says something, cut off behind the part before it. What is done
with a path may fail, for one of a few reasons that the system has words for.
-/

namespace RecordTyping.Files

/-- Why an operation on a path failed. -/
inductive Fault where
  | notFound
  | alreadyExists
  | notADirectory
  | isADirectory
  | nameTooLong
  | tooManyLinks
  /-- A path cannot hold the character U+0000. -/
  | nullInName
  /-- The bytes of a file are no text. -/
  | notText
  /-- Any other fault, in the words of the system. -/
  | other (text : String)
deriving DecidableEq, Repr

/-- The wording of a fault. -/
def Fault.message : Fault → String
  | .notFound => "No such file or directory (os error 2)"
  | .alreadyExists => "File exists (os error 17)"
  | .notADirectory => "Not a directory (os error 20)"
  | .isADirectory => "Is a directory (os error 21)"
  | .nameTooLong => "File name too long (os error 36)"
  | .tooManyLinks => "Too many levels of symbolic links (os error 40)"
  | .nullInName => "file name contained an unexpected NUL byte"
  | .notText => "stream did not contain valid UTF-8"
  | .other text => text

/-- A path. -/
structure Path where
  text : String
deriving DecidableEq, Repr

namespace Path

/-- Whether a path starts at the root of the file system. -/
def isAbsolute (p : Path) : Bool := p.text.toList.head? == some '/'

/-- The number of characters at the start that belong to no part: the root, or a point that stands
for the current directory. -/
def headLength : List Char → Nat
  | '/' :: _ => 1
  | ['.'] => 1
  | '.' :: '/' :: _ => 1
  | _ => 0

/-- A text that is given backwards, without the slashes and points at its end that say nothing. -/
def trimBack : List Char → List Char
  | '/' :: rest => trimBack rest
  | ['.'] => []
  | '.' :: '/' :: rest => trimBack rest
  | rest => rest

/-- The text of the parent of a path. The root and the empty path have none. -/
def parentText? (s : List Char) : Option (List Char) :=
  let head := s.take (headLength s)
  match trimBack (s.drop (headLength s)).reverse with
  | [] => if head = ['.'] then some [] else none
  | last => some (head ++ (trimBack (last.dropWhile (· ≠ '/'))).reverse)

/-- The parent of a path. -/
def parent? (p : Path) : Option Path :=
  (parentText? p.text.toList).map fun s => ⟨String.ofList s⟩

/-- A path and its ancestors, the nearest first, up to a number of paths. -/
def ancestors : Nat → Path → List Path
  | 0, _ => []
  | limit + 1, p =>
    p :: (match p.parent? with
      | some parent => ancestors limit parent
      | none => [])

/-- A path and all its ancestors. A path has no more of them than characters. -/
def ancestry (p : Path) : List Path := p.ancestors (p.text.length + 1)

/-- The path of a name inside a directory. A name that is absolute stands for itself. -/
def join (directory : Path) (name : String) : Path :=
  if (Path.mk name).isAbsolute || directory.text.isEmpty then ⟨name⟩
  else if directory.text.toList.getLast? = some '/' then ⟨directory.text ++ name⟩
  else ⟨directory.text ++ "/" ++ name⟩

/-- The texts between the slashes of a path. -/
def split : List Char → List (List Char)
  | [] => [[]]
  | c :: rest =>
    if c = '/' then [] :: split rest
    else
      match split rest with
      | [] => [[c]]
      | part :: parts => (c :: part) :: parts

/-- The parts of a path that are not empty. -/
def parts (p : Path) : List String :=
  ((split p.text.toList).filter fun part => !part.isEmpty).map String.ofList

/-- Whether a path ends with a slash, so that it can only name a directory. -/
def namesDirectory (p : Path) : Bool := p.text.toList.getLast? == some '/'

/-- The names that lead along a path, with an empty one for a slash at the end. -/
def steps (p : Path) : List String := p.parts ++ if p.namesDirectory then [""] else []

/-- The most bytes that a path may have. -/
def maxSize : Nat := 4095

/-- A path must be one that the system takes. -/
def check (p : Path) : Except Fault Unit :=
  if p.text.toList.any fun c => c.toNat = 0 then .error .nullInName
  else if p.text.isEmpty then .error .notFound
  else if maxSize < p.text.utf8ByteSize then .error .nameTooLong
  else .ok ()

/-- The most bytes that a name may have. -/
def maxNameSize : Nat := 255

/-- A name that a file can have in a directory: it stands for itself, and the system takes it. -/
structure IsName (name : String) : Prop where
  filled : name.toList ≠ []
  unbroken : '/' ∉ name.toList
  proper : name ≠ "." ∧ name ≠ ".."
  /-- The character U+0000 would end the name before its end. -/
  unended : Char.ofNat 0 ∉ name.toList
  short : name.utf8ByteSize ≤ maxNameSize

instance decidableIsName (name : String) : Decidable (IsName name) :=
  decidable_of_iff (name.toList ≠ [] ∧ '/' ∉ name.toList ∧ (name ≠ "." ∧ name ≠ "..") ∧
      Char.ofNat 0 ∉ name.toList ∧ name.utf8ByteSize ≤ maxNameSize)
    ⟨fun ⟨filled, unbroken, proper, unended, short⟩ => ⟨filled, unbroken, proper, unended, short⟩,
      fun isName => ⟨isName.filled, isName.unbroken, isName.proper, isName.unended, isName.short⟩⟩

end Path

end RecordTyping.Files

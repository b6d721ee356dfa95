import RecordTyping.Text.Numeral

/-!
# TOML text

The characters of a TOML text, its comments, and its four kinds of strings: between quotation marks,
with escapes, or between apostrophes, without; and either of them on one line or, between three
marks each, on several. A reader takes something off the front of a text and returns what is left.
-/

namespace RecordTyping.Toml

/-- A reader takes a value off the front of a text. -/
abbrev Reader (α : Type) : Type := List Char → Option (α × List Char)

/-- The blanks within a line. -/
def isBlank (c : Char) : Bool := c = ' ' || c = '\t'

/-- What is left after leading blanks. -/
def skipBlanks (s : List Char) : List Char := s.dropWhile isBlank

/-- The characters that may stand in comments and in strings on one line: all but the control
characters other than the tab. -/
def isTextChar (c : Char) : Bool := c = '\t' || (0x20 ≤ c.toNat && c.toNat ≠ 0x7F)

/-- What is left after the end of a line: a line feed, maybe after a carriage return, or the
end of the text. -/
def lineEnd? : List Char → Option (List Char)
  | [] => some []
  | '\n' :: rest => some rest
  | '\r' :: '\n' :: rest => some rest
  | _ => none

/-- What is left after a line on which nothing more than blanks and a comment may stand. -/
def skipLine? (s : List Char) : Option (List Char) :=
  match skipBlanks s with
  | '#' :: rest => lineEnd? (rest.dropWhile isTextChar)
  | rest => lineEnd? rest

/-- What is left after blanks, line ends and comments. The flag says whether the text starts
inside a comment. -/
def skipGaps? : Bool → List Char → Option (List Char)
  | _, [] => some []
  | _, '\n' :: rest => skipGaps? false rest
  | _, '\r' :: '\n' :: rest => skipGaps? false rest
  | true, c :: rest => if isTextChar c then skipGaps? true rest else none
  | false, c :: rest =>
    if isBlank c then skipGaps? false rest
    else if c = '#' then skipGaps? true rest
    else some (c :: rest)

/-- The character of a one-letter escape. -/
def escaped? (c : Char) : Option Char :=
  if c = '"' then some '"'
  else if c = '\\' then some '\\'
  else if c = 'b' then some (Char.ofNat 0x08)
  else if c = 't' then some '\t'
  else if c = 'n' then some '\n'
  else if c = 'f' then some (Char.ofNat 0x0C)
  else if c = 'r' then some '\r'
  else if c = 'e' then some (Char.ofNat 0x1B)
  else none

/-- The character of a number that is given by hexadecimal digits; surrogates and numbers
beyond the last character are none. -/
def scalar? (digits : List Char) : Option Char := do
  let n ← Text.hexValue? digits
  if n < 0xD800 ∨ (0xDFFF < n ∧ n < 0x110000) then some (Char.ofNat n) else none

/-- Puts characters before the text that a reader of strings returns. -/
def before (cs : List Char) (r : Option (List Char × List Char)) : Option (List Char × List Char) :=
  r.map fun (s, rest) => (cs ++ s, rest)

/-- Reads a string with escapes up to its closing mark on the same line. -/
def readQuoted : Reader (List Char)
  | '"' :: rest => some ([], rest)
  | '\\' :: 'x' :: a :: b :: rest => do before [← scalar? [a, b]] (readQuoted rest)
  | '\\' :: 'u' :: a :: b :: c :: d :: rest => do before [← scalar? [a, b, c, d]] (readQuoted rest)
  | '\\' :: 'U' :: a :: b :: c :: d :: e :: f :: g :: h :: rest => do
    before [← scalar? [a, b, c, d, e, f, g, h]] (readQuoted rest)
  | '\\' :: c :: rest => do before [← escaped? c] (readQuoted rest)
  | c :: rest => if isTextChar c && c ≠ '\\' then before [c] (readQuoted rest) else none
  | [] => none

/-- Reads a string without escapes up to its closing mark on the same line. -/
def readLiteral (s : List Char) : Option (List Char × List Char) :=
  match s.dropWhile fun c => isTextChar c && c ≠ '\'' with
  | '\'' :: rest => some (s.takeWhile fun c => isTextChar c && c ≠ '\'', rest)
  | _ => none

/-- The closing marks of a string of several lines, after the first three. Up to two more belong
to the string. -/
def closing (mark : Char) (s : List Char) : List Char × List Char :=
  match s with
  | a :: b :: rest =>
    if a = mark ∧ b = mark then ([mark, mark], rest)
    else if a = mark then ([mark], b :: rest)
    else ([], s)
  | [a] => if a = mark then ([mark], []) else ([], s)
  | [] => ([], [])

/-- Where a reader of a string of several lines stands. -/
inductive LineJoin where
  /-- In the text. -/
  | none
  /-- After a backslash and blanks, before the end of the line. -/
  | beforeEnd
  /-- After the end of such a line, before the next character that is neither blank nor a line end.
  -/
  | afterEnd
deriving DecidableEq

/-- Reads a string with escapes up to its three closing marks. A backslash at the end of a line
takes the blanks and line ends after it away. -/
def readQuotedLines : LineJoin → Reader (List Char)
  | _, [] => Option.none
  | .beforeEnd, '\n' :: rest => readQuotedLines .afterEnd rest
  | .beforeEnd, '\r' :: '\n' :: rest => readQuotedLines .afterEnd rest
  | .beforeEnd, c :: rest => if isBlank c then readQuotedLines .beforeEnd rest else Option.none
  | .afterEnd, '\n' :: rest => readQuotedLines .afterEnd rest
  | .afterEnd, '\r' :: '\n' :: rest => readQuotedLines .afterEnd rest
  | .afterEnd, ' ' :: rest => readQuotedLines .afterEnd rest
  | .afterEnd, '\t' :: rest => readQuotedLines .afterEnd rest
  | _, '"' :: '"' :: '"' :: rest => some (closing '"' rest)
  | _, '\n' :: rest => before ['\n'] (readQuotedLines .none rest)
  | _, '\r' :: '\n' :: rest => before ['\r', '\n'] (readQuotedLines .none rest)
  | _, '\\' :: 'x' :: a :: b :: rest => do
    before [← scalar? [a, b]] (readQuotedLines .none rest)
  | _, '\\' :: 'u' :: a :: b :: c :: d :: rest => do
    before [← scalar? [a, b, c, d]] (readQuotedLines .none rest)
  | _, '\\' :: 'U' :: a :: b :: c :: d :: e :: f :: g :: h :: rest => do
    before [← scalar? [a, b, c, d, e, f, g, h]] (readQuotedLines .none rest)
  | _, '\\' :: '\n' :: rest => readQuotedLines .afterEnd rest
  | _, '\\' :: '\r' :: '\n' :: rest => readQuotedLines .afterEnd rest
  | _, '\\' :: c :: rest =>
    if isBlank c then readQuotedLines .beforeEnd rest
    else do before [← escaped? c] (readQuotedLines .none rest)
  | _, c :: rest =>
    if isTextChar c && c ≠ '\\' then before [c] (readQuotedLines .none rest) else Option.none

/-- Reads a string without escapes up to its three closing marks. -/
def readLiteralLines : Reader (List Char)
  | [] => none
  | '\'' :: '\'' :: '\'' :: rest => some (closing '\'' rest)
  | '\n' :: rest => before ['\n'] (readLiteralLines rest)
  | '\r' :: '\n' :: rest => before ['\r', '\n'] (readLiteralLines rest)
  | c :: rest => if isTextChar c then before [c] (readLiteralLines rest) else none

/-- What is left after a line end that follows the opening marks at once. -/
def skipFirstLineEnd : List Char → List Char
  | '\n' :: rest => rest
  | '\r' :: '\n' :: rest => rest
  | rest => rest

/-- Reads a string on one line, if there is one. -/
def readLineString : Reader (List Char)
  | '"' :: rest => readQuoted rest
  | '\'' :: rest => readLiteral rest
  | _ => none

/-- Reads a string of any kind, if there is one. -/
def readString : Reader (List Char)
  | '"' :: '"' :: '"' :: rest => readQuotedLines .none (skipFirstLineEnd rest)
  | '\'' :: '\'' :: '\'' :: rest => readLiteralLines (skipFirstLineEnd rest)
  | s => readLineString s

end RecordTyping.Toml

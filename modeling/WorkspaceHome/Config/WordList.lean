/-!
# Lists of words

A list of words is written with commas between them. A word may hold a comma, a blank or a mark in
quotes or after a backslash; inside double quotes a backslash stands for itself unless a double
quote or a backslash follows. A hash sign starts a comment, which ends the word before it and goes
on to the end of the line. Blanks at the ends of a word are dropped. Where nothing stands between
two commas there is no word; a pair of quotes with nothing in it is an empty one.
-/

namespace WorkspaceHome.Config.WordList

/-- Where a reader is: between words, in a word, inside quotes, after a backslash, or in a
comment. -/
inductive Place where
  | between
  | word
  | quoted (mark : Char)
  | escaped (mark : Option Char)
  | comment
  deriving DecidableEq, Repr

/-- Whether a character is an ASCII blank. -/
def isBlank (c : Char) : Bool := c == ' ' || (0x9 ≤ c.toNat && c.toNat ≤ 0xD)

/-- A word from its characters, the last one first. -/
def finish (word : List Char) : String :=
  String.ofList ((word.dropWhile isBlank).reverse.dropWhile isBlank)

/-- Reads words from a place on; `word` holds the characters of the word that is being read, the
last one first. Open quotes and a backslash at the end are faults. -/
def readFrom (place : Place) (word : List Char) : List Char → Option (List String)
  | [] =>
    match place with
    | .between | .comment => some []
    | .word => some [finish word]
    | .quoted _ | .escaped _ => none
  | c :: rest =>
    match place with
    | .comment => readFrom (if c == '\n' then .between else .comment) [] rest
    | .quoted mark =>
      if c == mark then readFrom .word word rest
      else if c == '\\' && mark == '"' then readFrom (.escaped (some mark)) word rest
      else readFrom (.quoted mark) (c :: word) rest
    | .escaped none => readFrom .word (c :: word) rest
    | .escaped (some mark) =>
      let kept := if c == '\\' || c == mark then word else '\\' :: word
      readFrom (.quoted mark) (c :: kept) rest
    | .between =>
      if c == ',' then readFrom .between [] rest
      else if c == '#' then readFrom .comment [] rest
      else if c == '\\' then readFrom (.escaped none) [] rest
      else if c == '"' || c == '\'' then readFrom (.quoted c) [] rest
      else readFrom .word [c] rest
    | .word =>
      if c == ',' then (finish word :: ·) <$> readFrom .between [] rest
      -- A comment ends the word before it, as a comma does.
      else if c == '#' then (finish word :: ·) <$> readFrom .comment [] rest
      else if c == '\\' then readFrom (.escaped none) word rest
      else if c == '"' || c == '\'' then readFrom (.quoted c) word rest
      else readFrom .word (c :: word) rest

/-- Reads a list of words. -/
def read? (s : String) : Option (List String) := readFrom .between [] s.toList

end WorkspaceHome.Config.WordList

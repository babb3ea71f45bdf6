import WorkspaceHome.Text.AsciiFold

/-!
# Slugs

A slug is the form of a name that stands in an address. The name is cut to its ASCII part and to
lower case; of what is left, letters, digits, underscores, hyphens and blanks are kept; every run
of hyphens and blanks becomes one hyphen; hyphens and underscores at the ends are dropped.
-/

namespace WorkspaceHome.Text

/-- Whether an ASCII character is a letter, a digit or an underscore. -/
def isWordChar (c : Char) : Bool := c.isAlphanum || c == '_'

/-- Whether an ASCII character is a blank or a separator. -/
def isAsciiBlank (c : Char) : Bool :=
  (0x9 ≤ c.toNat && c.toNat ≤ 0xD) || (0x1C ≤ c.toNat && c.toNat ≤ 0x20)

/-- Whether a character ends a word inside a slug. -/
def isBreak (c : Char) : Bool := c == '-' || isAsciiBlank c

/-- Writes one hyphen for every run of breaks; `inRun` tells whether one has just been written. -/
def joinWords (inRun : Bool) : List Char → List Char
  | [] => []
  | c :: cs =>
    if isBreak c then if inRun then joinWords true cs else '-' :: joinWords true cs
    else c :: joinWords false cs

/-- Drops the hyphens and underscores at both ends. -/
def trimJoiners (cs : List Char) : List Char :=
  let isJoiner (c : Char) : Bool := c == '-' || c == '_'
  ((cs.dropWhile isJoiner).reverse.dropWhile isJoiner).reverse

/-- The slug of a name, over characters. -/
def slugChars (name : List Char) : List Char :=
  let lowered := (toAscii name).map Char.toLower
  trimJoiners (joinWords false (lowered.filter fun c => isWordChar c || isBreak c))

/-- The slug of a name. -/
def slug (name : String) : String := String.ofList (slugChars name.toList)

end WorkspaceHome.Text

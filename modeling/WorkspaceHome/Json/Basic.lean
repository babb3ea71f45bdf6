import WorkspaceHome.Number.Binary64

/-!
# JSON values

A number of a JSON text is a whole number of any size or a binary number, and the two stay apart:
`1` and `1.0` are different representations of one value. `Json.same` is the equality of values, by
which ids and metadata are compared: numbers are equal when their values are, and the truth values
count as one and zero. A text is equal to a text only.

A JSON text can hold a surrogate that has no partner, which stands for no character. Such a `torn`
text is kept as its code points; it can be compared and stored, but not sent. The key of a member
can be torn as well. Keys are strings, in which one character marks what is no character
(`keyOfCodes`), so that different keys are different strings.
-/

namespace WorkspaceHome

/-- A JSON value. The members of an object have distinct keys, in the order of their arrival. -/
inductive Json where
  | null
  | bool (b : Bool)
  | int (n : Int)
  | float (x : Binary64)
  | text (s : String)
  | torn (codes : List Nat)
  | list (items : List Json)
  | object (members : List (String × Json))
  deriving Inhabited, Repr

namespace Json

/-! ### Texts by their code points -/

/-- Whether a code point stands for a character. -/
def isScalar (code : Nat) : Bool := code < 0xD800 || (0xDFFF < code && code < 0x110000)

/-- The text with given code points. -/
def ofCodes (codes : List Nat) : Json :=
  if codes.all isScalar then .text (String.ofList (codes.map Char.ofNat)) else .torn codes

/-! ### Keys -/

/-- The character that marks an escape in a key. -/
def keyMark : Char := Char.ofNat 0x10FFFF

/-- A code point inside a key: a character is written as it is, the mark is written twice, and a
surrogate is written as a character of the last plane after the mark. -/
def keyChars (code : Nat) : List Char :=
  if code = keyMark.toNat then [keyMark, keyMark]
  else if isScalar code then [Char.ofNat code]
  else [keyMark, Char.ofNat (0x100000 + code)]

/-- The key with given code points. -/
def keyOfCodes (codes : List Nat) : String := String.ofList (codes.flatMap keyChars)

/-- The code points of the characters of a key. -/
def keyCodes : List Char → List Nat
  | [] => []
  | [c] => [c.toNat]
  | c :: d :: rest =>
    if c = keyMark then (if d = keyMark then d.toNat else d.toNat - 0x100000) :: keyCodes rest
    else c.toNat :: keyCodes (d :: rest)

/-- The code points of a key. -/
def codesOfKey (key : String) : List Nat := keyCodes key.toList

/-! ### Members of an object -/

/-- The value of a key. -/
def lookup (key : String) : List (String × Json) → Option Json
  | [] => none
  | (k, v) :: rest => if k = key then some v else lookup key rest

/-- Gives a key a value; a key that is there keeps its place. -/
def assign (key : String) (value : Json) : List (String × Json) → List (String × Json)
  | [] => [(key, value)]
  | (k, v) :: rest => if k = key then (k, value) :: rest else (k, v) :: assign key value rest

/-- The object with given members; the last value of a key holds, at the key's first place. -/
def ofMembers (members : List (String × Json)) : Json :=
  .object (members.foldl (fun done (k, v) => assign k v done) [])

/-! ### Equality of values -/

/-- The number that a value counts as: an integer, or a binary number. -/
def number? : Json → Option (Int ⊕ Binary64)
  | .bool b => some (.inl (if b then 1 else 0))
  | .int n => some (.inl n)
  | .float x => some (.inr x)
  | _ => none

/-- Equality of two numbers, exact across the two kinds. -/
def sameNumber : Int ⊕ Binary64 → Int ⊕ Binary64 → Bool
  | .inl m, .inl n => m == n
  | .inl m, .inr y => y.sameInt m
  | .inr x, .inl n => x.sameInt n
  | .inr x, .inr y => x.same y

/-- Equality of values that hold no others. -/
def sameScalar : Json → Json → Bool
  | .null, .null => true
  | .text s, .text t => s == t
  | .torn s, .torn t => s == t
  | a, b =>
    match a.number?, b.number? with
    | some x, some y => sameNumber x y
    | _, _ => false

mutual

/-- Equality of values. Objects are equal when they have the same keys with equal values. -/
def same : Json → Json → Bool
  | .list xs, .list ys => sameItems xs ys
  | .object xs, .object ys => xs.length == ys.length && sameMembers xs ys
  | a, b => sameScalar a b

/-- Equality of lists, item by item. -/
def sameItems : List Json → List Json → Bool
  | [], [] => true
  | x :: xs, y :: ys => same x y && sameItems xs ys
  | _, _ => false

/-- Whether every member has an equal one of its key among others. -/
def sameMembers : List (String × Json) → List (String × Json) → Bool
  | [], _ => true
  | (k, v) :: rest, others =>
    (match lookup k others with
      | some w => same v w
      | none => false) && sameMembers rest others

end

/-! ### Properties of a value -/

/-- Whether a value counts as true: zero, the empty values and `null` do not. -/
def truthy : Json → Bool
  | .null => false
  | .bool b => b
  | .int n => n != 0
  | .float x => !x.isZero
  | .text s => s != ""
  | .torn _ => true
  | .list items => !items.isEmpty
  | .object members => !members.isEmpty

/-- Whether a value holds no others, so that it can be a key of a table. -/
def isScalarValue : Json → Bool
  | .list _ | .object _ => false
  | _ => true

/-- The values that a value can be taken apart into: the items of a list, the characters of a text,
the keys of an object. -/
def iterate? : Json → Option (List Json)
  | .list items => some items
  | .text s => some (s.toList.map fun c => .text c.toString)
  | .torn codes => some (codes.map fun n => ofCodes [n])
  | .object members => some (members.map fun (k, _) => ofCodes (codesOfKey k))
  | _ => none

mutual

/-- Whether a predicate holds of a value and of all that it holds. -/
def everywhere (p : Json → Bool) : Json → Bool
  | .list items => p (.list items) && everywhereItems p items
  | .object members => p (.object members) && everywhereMembers p members
  | v => p v

/-- Whether a predicate holds everywhere in the items of a list. -/
def everywhereItems (p : Json → Bool) : List Json → Bool
  | [] => true
  | v :: rest => everywhere p v && everywhereItems p rest

/-- Whether a predicate holds everywhere in the members of an object. -/
def everywhereMembers (p : Json → Bool) : List (String × Json) → Bool
  | [] => true
  | (_, v) :: rest => everywhere p v && everywhereMembers p rest

end

mutual

/-- How many calls are open at once while a value is copied: two for a list or an object around
those for what it holds, and three for anything else, as for a key. -/
def copyCalls : Json → Nat
  | .list items => 2 + copyCallsOfItems items
  | .object members => 2 + copyCallsOfMembers members
  | _ => 3

/-- How many calls are open at once while the items of a list are copied. -/
def copyCallsOfItems : List Json → Nat
  | [] => 0
  | v :: rest => max (copyCalls v) (copyCallsOfItems rest)

/-- How many calls are open at once while the members of an object are copied. -/
def copyCallsOfMembers : List (String × Json) → Nat
  | [] => 0
  | (_, v) :: rest => max (max 3 (copyCalls v)) (copyCallsOfMembers rest)

end

/-- Whether a value is a finite number or no number at all. -/
def isFinite : Json → Bool
  | .float (.infinite _) | .float .nan => false
  | _ => true

/-- Whether a value is no torn text. -/
def isWhole : Json → Bool
  | .torn _ => false
  | _ => true

/-- Whether a key is not torn. -/
def isWholeKey (key : String) : Bool := (codesOfKey key).all isScalar

/-- Whether a value is no torn text and no object with a torn key. -/
def isEncodable : Json → Bool
  | .torn _ => false
  | .object members => members.all fun (k, _) => isWholeKey k
  | _ => true

end Json

end WorkspaceHome

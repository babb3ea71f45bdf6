import WorkspaceHome.Text.Quoted

/-!
# Numeric addresses of hosts

A host can be given by four decimal numbers with points between them, or, in brackets, by up to
eight groups of hexadecimal digits with colons between them, where `::` stands for the groups that
are missing.
-/

namespace WorkspaceHome.Url

/-- Splits a text at every occurrence of a character. -/
def splitAt (mark : Char) : List Char → List (List Char)
  | [] => [[]]
  | c :: rest =>
    if c == mark then [] :: splitAt mark rest
    else match splitAt mark rest with
      | [] => [[c]]
      | part :: parts => (c :: part) :: parts

/-! ### Four numbers -/

/-- Whether a text consists of four runs of digits with one character between any two of them;
`left` of these are still to come, and `started` tells whether a run has begun. -/
def looksNumeric (left : Nat) (started : Bool) : List Char → Bool
  | [] => left == 0 && started
  | c :: rest =>
    (c.isDigit && looksNumeric left true rest) ||
      (started && match left with
        | 0 => false
        | left + 1 => looksNumeric left false rest)

/-- Whether a text is a number up to 255 without needless zeros. -/
def isOctet (cs : List Char) : Bool :=
  !cs.isEmpty && cs.all Char.isDigit && cs.length ≤ 3 &&
    (cs.length == 1 || cs.head? != some '0') &&
    cs.foldl (fun n c => n * 10 + (c.toNat - '0'.toNat)) 0 ≤ 255

/-- Whether a text is an address of four numbers. -/
def isIpv4 (cs : List Char) : Bool :=
  let parts := splitAt '.' cs
  parts.length == 4 && parts.all isOctet

/-! ### Eight groups -/

/-- Whether a text is a group of hexadecimal digits. -/
def isGroup (cs : List Char) : Bool :=
  !cs.isEmpty && cs.length ≤ 4 && cs.all fun c => (Text.hexDigit? c).isSome

/-- Writes an address of four numbers at the end as two groups. -/
def joinTail (parts : List (List Char)) : Option (List (List Char)) :=
  match parts.getLast? with
  | some tail =>
    if tail.contains '.' then
      if isIpv4 tail then some (parts.dropLast ++ [['0'], ['0']]) else none
    else some parts
  | none => none

/-- Whether groups fill an address. A `::` shows as an empty part between two others; the empty
part at an end is allowed only next to it. -/
def fillAddress (parts : List (List Char)) : Bool :=
  let inner := (parts.drop 1).dropLast
  match inner.count [] with
  | 0 => parts.length == 8 && parts.all isGroup
  | 1 =>
    let place := inner.idxOf [] + 1
    let before := parts.take place
    let after := parts.drop (place + 1)
    let high := if before == [[]] then [] else before
    let low := if after == [[]] then [] else after
    high.length + low.length ≤ 7 && high.all isGroup && low.all isGroup
  | _ => false

/-- Whether a text is an address of eight groups; a zone may follow after a percent sign. -/
def isIpv6 (cs : List Char) : Bool :=
  match splitAt '%' cs with
  | [address] => isAddress address
  | [address, zone] => !zone.isEmpty && isAddress address
  | _ => false
where
  /-- Whether a text without a zone is an address. -/
  isAddress (address : List Char) : Bool :=
    let parts := splitAt ':' address
    3 ≤ parts.length && !address.contains '/' &&
      match joinTail parts with
      | some parts => parts.length ≤ 9 && fillAddress parts
      | none => false

end WorkspaceHome.Url

import WorkspaceHome.Text.Quoted
import WorkspaceHome.Text.Utf8

/-!
# Percent encoding

A character that may not stand in an address is written as the bytes of its UTF-8 form, each as a
percent sign and two upper-case hexadecimal digits. Which characters may stand there depends on the
part of the address.
-/

namespace WorkspaceHome.Text.Percent

/-! ### Classes of characters -/

/-- Whether a character is a letter, a digit or one of four marks, which may stand anywhere. -/
def isUnreserved (c : Char) : Bool :=
  c.isAlphanum || c == '-' || c == '.' || c == '_' || c == '~'

/-- Whether a character is a space or a visible ASCII character. -/
def isVisible (c : Char) : Bool := ' ' ≤ c && c ≤ '~'

/-- Whether a character is a visible ASCII character other than the given ones. -/
def isVisibleExcept (others : String) (c : Char) : Bool := isVisible c && !others.toList.contains c

/-- Whether a character is unreserved or one of the given ones. -/
def isUnreservedOr (others : String) (c : Char) : Bool :=
  isUnreserved c || others.toList.contains c

/-! ### Writing -/

/-- An upper-case hexadecimal digit. -/
def upperDigit (n : Nat) : Char := (Nat.digitChar n).toUpper

/-- A byte as a percent sign and two digits. -/
def escapeByte (b : UInt8) : List Char :=
  ['%', upperDigit (b.toNat / 16), upperDigit (b.toNat % 16)]

/-- Writes every character that is not safe as its bytes. -/
def encode (safe : Char → Bool) (cs : List Char) : List Char :=
  cs.flatMap fun c => if safe c then [c] else (encodeUtf8 [c]).flatMap escapeByte

/-- Writes a value of a form: only unreserved characters are safe, and a space is a plus. -/
def encodeForm (cs : List Char) : List Char :=
  cs.flatMap fun c => if c == ' ' then ['+'] else encode isUnreserved [c]

/-! ### Reading -/

/-- The bytes that a text stands for. A percent sign without two digits stands for itself. -/
def decode : List Char → List UInt8
  | '%' :: a :: b :: rest =>
    match hexDigit? a, hexDigit? b with
    | some high, some low => UInt8.ofNat (high * 16 + low) :: decode rest
    | _, _ => '%'.toUInt8 :: decode (a :: b :: rest)
  | c :: rest => encodeUtf8 [c] ++ decode rest
  | [] => []
  termination_by cs => cs.length

end WorkspaceHome.Text.Percent

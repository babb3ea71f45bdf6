import WorkspaceHome.Failure
import WorkspaceHome.Text.Base64
import WorkspaceHome.Text.Percent

/-!
# Values of headers

A header can carry Latin-1. A value with any other character is sent as an encoded word, which names
UTF-8 and holds the bytes of the value, in base64 or with an equals sign in front of the digits of
every byte that is no letter, no digit and none of five marks. The shorter form is taken, and the
second one if both are as long. A value with a line end in it would be two headers, and is not sent.
-/

namespace WorkspaceHome.Http.HeaderValue

open Text

/-- Whether a character of a value would end its header. -/
def endsLine (c : Char) : Bool := c == '\n' || c == '\r'

/-- Whether a header can carry a character as it is. -/
def isLatin1 (c : Char) : Bool := c.toNat < 0x100

/-- A byte in the second form of an encoded word, where a space is an underscore. -/
def quotedByte (b : UInt8) : List Char :=
  let c := Char.ofNat b.toNat
  if c == ' ' then ['_']
  else if c.isAlphanum || "-!*+/".toList.contains c then [c]
  else '=' :: (Percent.escapeByte b).drop 1

/-- A value as an encoded word. -/
def encodedWord (cs : List Char) : List Char :=
  let bytes := encodeUtf8 cs
  let inBase64 := Base64.encode bytes
  let inQuotes := bytes.flatMap quotedByte
  let (form, body) :=
    if inBase64.length < inQuotes.length then ('b', inBase64) else ('q', inQuotes)
  "=?utf-8?".toList ++ form :: '?' :: body ++ "?=".toList

/-- A value as it is sent. -/
def sent (value : String) : Except Failure String :=
  let cs := value.toList
  if cs.any endsLine then .error .brokenHeader
  else if cs.all isLatin1 then .ok value
  else .ok (String.ofList (encodedWord cs))

end WorkspaceHome.Http.HeaderValue

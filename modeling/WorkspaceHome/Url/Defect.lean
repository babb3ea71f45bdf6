import WorkspaceHome.Text.Quoted

/-!
# What is wrong with an address

An address, or a part of it by name, can be too long or hold a control character; its host or its
port need not be one; and its path has to fit what stands before it. `Url.Defect.message` says it in
words.
-/

namespace WorkspaceHome.Url

/-- Why a text is no address. A part that is concerned as a whole is told by its name; without one
it is the whole address. -/
inductive Defect where
  | tooLong (part : Option String)
  | unprintable (part : Option String) (char : Char) (place : Nat)
  | notIpv4 (host : String)
  | notIpv6 (host : String)
  | notHostName (host : String)
  | notPort (port : String)
  | pathWithoutSlash
  | pathWithSlashes
  | pathWithColon
  deriving DecidableEq, Repr

/-- What is wrong, in words. -/
def Defect.message : Defect → String
  | .tooLong none => "URL too long"
  | .tooLong (some part) => "URL component '" ++ part ++ "' too long"
  | .unprintable part char place =>
    "Invalid non-printable ASCII character in URL" ++
      (match part with
        | some part => " " ++ part ++ " component, "
        | none => ", ") ++
      Text.quoted char.toString ++ " at position " ++ toString place ++ "."
  | .notIpv4 host => "Invalid IPv4 address: " ++ Text.quoted host
  | .notIpv6 host => "Invalid IPv6 address: " ++ Text.quoted host
  | .notHostName host => "Invalid IDNA hostname: " ++ Text.quoted host
  | .notPort port => "Invalid port: " ++ Text.quoted port
  | .pathWithoutSlash => "For absolute URLs, path must be empty or begin with '/'"
  | .pathWithSlashes => "Relative URLs cannot have a path starting with '//'"
  | .pathWithColon => "Relative URLs cannot have a path starting with ':'"

end WorkspaceHome.Url

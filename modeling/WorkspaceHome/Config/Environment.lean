import WorkspaceHome.Config.WordList
import WorkspaceHome.Failure
import WorkspaceHome.Number.Numeral

/-!
# The environment of a service

An environment gives texts to names. A setting is read from it, or takes its default; one without a
default has to be there. A text that is not of the kind of its setting is a fault.
-/

namespace WorkspaceHome.Config

/-- The texts of an environment by name. -/
abbrev Environment := List (String × String)

namespace Environment

/-- The text of a name. -/
def get? (env : Environment) (name : String) : Option String :=
  (env.find? fun (n, _) => n == name).map Prod.snd

/-- The text of a name, or a default. -/
def text (env : Environment) (name default : String) : String := (env.get? name).getD default

/-- The text of a name that has to be there. -/
def required (env : Environment) (name : String) : Except Failure String :=
  match env.get? name with
  | some s => .ok s
  | none => .error .undefinedSetting

/-- A text read as a value of a kind. -/
def cast {α : Type} (read : String → Option α) (s : String) : Except Failure α :=
  match read s with
  | some a => .ok a
  | none => .error .malformed

/-- The value of a name, or a default. -/
def value {α : Type} (env : Environment) (name : String) (read : String → Option α)
    (default : α) : Except Failure α :=
  match env.get? name with
  | some s => cast read s
  | none => .ok default

/-- Reads a truth value: one of twelve words, in letters of any size; an empty text is false. -/
def flag? (s : String) : Option Bool :=
  let word := s.map Char.toLower
  if s = "" then some false
  else if ["y", "yes", "t", "true", "on", "1"].contains word then some true
  else if ["n", "no", "f", "false", "off", "0"].contains word then some false
  else none

/-- A copy in which a name without a text has one. -/
def withDefault (env : Environment) (name s : String) : Environment :=
  if (env.get? name).isSome then env else env ++ [(name, s)]

end Environment

end WorkspaceHome.Config

import WorkspaceHome.Failure

/-!
# Release notes

A `Node` is one release as the feed lists it, the newest first. The feed gives an object with a tag,
and with a name, an address and a date that may be missing; name and address are empty texts then,
and also when they count as false. No field has to be a text.

`Node.toCached` and `Node.ofCached?` are the form in which a node is kept.
-/

namespace WorkspaceHome.ReleaseNotes

/-- One release. -/
structure Node where
  tagName : Json
  name : Json := .text ""
  url : Json := .text ""
  publishedAt : Json := .null
  deriving Repr, Inhabited

namespace Node

/-- The value of a field that is an empty text when it counts as false. -/
def orEmpty (v : Json) : Json := if v.truthy then v else .text ""

/-- The node that an entry of the feed stands for. -/
def ofFeed (entry : Json) : Except Failure Node := do
  let tagName ← entry.index "tagName"
  let name ← entry.member "name"
  let url ← entry.member "url"
  let publishedAt ← entry.member "publishedAt"
  return ⟨tagName, orEmpty name, orEmpty url, publishedAt⟩

/-- A node as an object. -/
def toCached (n : Node) : Json :=
  .object [("tag_name", n.tagName), ("name", n.name), ("url", n.url),
    ("published_at", n.publishedAt)]

/-- How many calls are open at once while the fields of a node are copied. -/
def copyCalls (n : Node) : Nat :=
  max (max n.tagName.copyCalls n.name.copyCalls) (max n.url.copyCalls n.publishedAt.copyCalls)

/-- The keys of a kept node. -/
def cachedKeys : List String := ["tag_name", "name", "url", "published_at"]

/-- The node that an object stands for: it has a tag, and no keys but those of a node. -/
def ofCached? : Json → Option Node
  | .object members => do
    let tagName ← Json.lookup "tag_name" members
    let field (key : String) (default : Json) : Json := (Json.lookup key members).getD default
    if members.all fun (k, _) => cachedKeys.contains k then
      some ⟨tagName, field "name" (.text ""), field "url" (.text ""), field "published_at" .null⟩
    else none
  | _ => none

end Node

/-! ### Lists of nodes -/

/-- The nodes of what the feed sends: the entries under `nodes` under `data`. -/
def nodesOfPayload (payload : Json) : Except Failure (List Node) := do
  let entries ← (← (← payload.index "data").index "nodes").items
  entries.mapM Node.ofFeed

/-- Nodes as they are kept. -/
def toCached (nodes : List Node) : Json := .list (nodes.map Node.toCached)

/-- The nodes that a kept value stands for. -/
def ofCached? (v : Json) : Option (List Node) := do (← v.iterate?).mapM Node.ofCached?

/-! ### Counting what is new -/

/-- How many releases are newer than one that has been seen. -/
inductive News where
  | exactly (count : Nat)
  | atLeast (count : Nat)
  deriving DecidableEq, Repr, Inhabited

/-- How the number of newer releases is written. -/
def News.text : News → String
  | .exactly n => toString n
  | .atLeast n => toString n ++ "+"

/-- The number of newer releases as a badge, which is empty when there are none. -/
def News.badge : News → String
  | .exactly 0 => ""
  | n => n.text

/-- The releases that are newer than a version: those before the first one with its tag. If none has
it, all are newer, and there may be more. No version counts as the newest. -/
def newsSince (version : Json) (nodes : List Node) : News :=
  match version, nodes with
  | .null, _ | _, [] => .exactly 0
  | version, nodes =>
    match nodes.findIdx? fun n => n.tagName.same version with
    | some n => .exactly n
    | none => .atLeast nodes.length

end WorkspaceHome.ReleaseNotes

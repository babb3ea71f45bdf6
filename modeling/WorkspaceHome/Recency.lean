import WorkspaceHome.Failure

/-!
# Order by recency

A recency list holds ids, the most recently used first. It is a hint for sorting only: an id that no
longer exists is ignored, and what the list does not name keeps its place after all that it names.

`Recency.prioritise` puts the ids of a list in front of others, each id once, at its first place.
`Recency.sortBy` orders items by the last place of their ids. `Recency.touch` moves an id to the
front and cuts the list to a limit. Ids are compared as values, by `Json.same`; of two equal ids the
one that is met first stays.
-/

namespace WorkspaceHome.Recency

/-! ### Lists of ids -/

/-- Drops every id that is equal to an earlier one. -/
def distinct : List Json → List Json
  | [] => []
  | v :: rest => v :: (distinct rest).filter fun w => !v.same w

/-- The ids of a recency list, then the other ones, each once. -/
def prioritise (recent all : List Json) : List Json := distinct (recent ++ all)

/-- The last place of an id in a list. -/
def lastPlace? (v : Json) : List Json → Option Nat
  | [] => none
  | w :: rest =>
    match lastPlace? v rest with
    | some n => some (n + 1)
    | none => if w.same v then some 0 else none

/-- The rank of an id: its last place, and after all places if the list does not name it. -/
def rank (recent : List Json) (v : Json) : Nat := (lastPlace? v recent).getD recent.length

/-- Orders items by the rank of their ids; items of one rank keep their order. -/
def sortBy {α : Type} (key : α → Json) (recent : List Json) (items : List α) : List α :=
  items.mergeSort fun a b => decide (rank recent (key a) ≤ rank recent (key b))

/-- Moves an id to the front of a list and cuts the list to a limit; a negative limit leaves
nothing. -/
def touch (recent : List Json) (v : Json) (limit : Int) : List Json :=
  (v :: (distinct recent).filter fun w => !w.same v).take limit.toNat

/-! ### Lists as they are stored

A stored list can be any value. One that counts as false is an empty list; any other has to be a
list of scalars, or something that can be taken apart into them. -/

/-- `prioritise` for stored lists. -/
def prioritiseStored (recent all : Json) : Except Failure (List Json) := do
  return prioritise (← recent.idsIfAny) (← all.ids)

/-- The rank table of a stored list has scalars for keys, and so has every item. -/
def sortStored {α : Type} (key : α → Except Failure Json) (recent : Json) (items : List α) :
    Except Failure (List α) :=
  if recent.truthy then do
    let ids ← recent.ids
    let keyed ← items.mapM fun item => do
      let k ← key item
      if k.isScalarValue then return (item, k) else throw .unhashable
    return (sortBy Prod.snd ids keyed).map Prod.fst
  else .ok items

/-- `sortStored` for items that are any values, by themselves or by one of their members. -/
def sortValues (items recent : Json) (key : Option String) : Except Failure (List Json) := do
  let items ← items.items
  sortStored (match key with
    | none => .ok
    | some k => Json.index k) recent items

/-- `touch` for a stored list. -/
def touchStored (recent : Json) (v : Json) (limit : Int) : Except Failure (List Json) := do
  return touch (← recent.idsIfAny) v limit

/-- The limit that a value stands for. A negative number of any kind stands for none at all. -/
def limit? : Json → Option Int
  | .int n => some n
  | .bool b => some (if b then 1 else 0)
  | .float x => if x.isNegative then some 0 else none
  | _ => none

/-- `touch` for a stored list and a limit that is any value. -/
def touchValue (recent : Json) (v : Json) (limit : Json) : Except Failure (List Json) := do
  let ids ← recent.idsIfAny
  match limit? limit with
  | some n => return touch ids v n
  | none => throw .notWhole

end WorkspaceHome.Recency

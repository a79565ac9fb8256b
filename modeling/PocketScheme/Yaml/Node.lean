import PocketScheme.Yaml.Tag

/-!
Nodes: what a document says. An alias names an anchored node by its number, and a document keeps
its anchored nodes in a table, so that a node may hold an alias of itself.
-/

namespace PocketScheme.Yaml

/-- A node, with the line on which it starts, from 1. -/
inductive Node where
  | scalar (tag : Tag) (text : String) (line : Nat)
  | sequence (tag : Tag) (items : List Node) (line : Nat)
  | mapping (tag : Tag) (pairs : List (Node × Node)) (line : Nat)
  | reference (anchor : Nat) (name : String) (line : Nat)

instance : Inhabited Node := ⟨.scalar .null "" 0⟩

namespace Node

/-- The line of a node. -/
def line : Node → Nat
  | scalar _ _ n | sequence _ _ n | mapping _ _ n | reference _ _ n => n

/-- The number of nodes in a node. -/
def size : Node → Nat
  | scalar _ _ _ | reference _ _ _ => 1
  | sequence _ items _ => 1 + sizes items
  | mapping _ pairs _ => 1 + pairSizes pairs
where
  /-- The number of nodes in a list. -/
  sizes : List Node → Nat
    | [] => 0
    | n :: ns => n.size + sizes ns
  /-- The number of nodes in a list of pairs. -/
  pairSizes : List (Node × Node) → Nat
    | [] => 0
    | (k, v) :: ps => k.size + v.size + pairSizes ps

/-- Two keys that are spelled alike: scalars by their text, aliases by the name, and collections of
one kind always. -/
def sameKey : Node → Node → Bool
  | scalar _ a _, scalar _ b _ => a == b
  | reference _ a _, reference _ b _ => a == b
  | sequence _ _ _, sequence _ _ _ => true
  | mapping _ _ _, mapping _ _ _ => true
  | _, _ => false

/-- How a key is spelled. -/
def keyText : Node → String
  | scalar _ text _ => text
  | reference _ name _ => name
  | sequence _ _ _ | mapping _ _ _ => ""

end Node

/-- A document: its root and its anchored nodes. -/
structure Document where
  root : Node
  anchors : List (Nat × Node)

namespace Document

/-- The node that an alias names; any other node is itself. -/
def target (d : Document) : Node → Node
  | .reference anchor name line => (d.anchors.lookup anchor).getD (.reference anchor name line)
  | node => node

/-- The tag of a node, for an alias that of the node it names. -/
def tagOf (d : Document) (node : Node) : Tag :=
  match d.target node with
  | .scalar tag _ _ | .sequence tag _ _ | .mapping tag _ _ => tag
  | .reference _ _ _ => .other ""

/-- The number of nodes of a document. -/
def size (d : Document) : Nat :=
  d.root.size

end Document

end PocketScheme.Yaml

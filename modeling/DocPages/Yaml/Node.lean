import DocPages.Yaml.Event
import DocPages.Yaml.Tag
/-!
# YAML nodes

The nodes of a YAML document form a graph: an alias stands for the node its anchor named, so one
node may appear in several places, and a collection may contain itself, since an anchor names
its node from the moment the node starts. Nodes are held in an array and refer to each other by
their place in it.

Every node has a full tag. A scalar without a tag, or with the tag `!`, that may be resolved
from its text gets the tag of the type its text has (`Tag.ofPlain`); any other scalar without a
tag is a string, and a collection without a tag is a sequence or a mapping.

Composing reads the events of one document; an alias to an anchor not yet defined, an anchor
defined twice in the document and a second document are faults.

Composing runs on the loader's stack, one step for each node and one more for the collection it
starts, so each level of nesting takes two frames; a node asks for its events one frame above
its step. How deep a document may nest is what the stack leaves: the frames of the loader's
callers, of the composer, and of the deepest event the parser must produce.
-/

namespace DocPages.Yaml

/-- A node of a YAML document. -/
inductive Node where
  /-- A scalar: its tag and text. -/
  | scalar (tag : String) (value : Text)
  /-- A sequence: its tag and the places of its items. -/
  | seq (tag : String) (items : List Nat)
  /-- A mapping: its tag and the places of the keys and values of its pairs, in order. -/
  | map (tag : String) (pairs : List (Nat × Nat))
  deriving Repr, DecidableEq, Inhabited

/-- The node's tag. -/
def Node.tag : Node → String
  | .scalar t _ => t
  | .seq t _ => t
  | .map t _ => t

/-- The node with its tag replaced. -/
def Node.withTag (n : Node) (t : String) : Node :=
  match n with
  | .scalar _ v => .scalar t v
  | .seq _ items => .seq t items
  | .map _ pairs => .map t pairs

/-- A document being composed: the events, the nodes so far and the anchors defined. -/
structure Composer where
  /-- The events. -/
  parser : Parser
  /-- The nodes so far. -/
  nodes : Array Node := #[]
  /-- The anchors defined in the document, latest first. -/
  anchors : List (String × Nat) := []
  deriving Inhabited

namespace Composer

/-- The next event, asked for by a step at depth `d`. -/
def peek (c : Composer) (d : Nat) : LoadResult (Event × Composer) := do
  let (e, p) ← c.parser.peekEvent (d + 1)
  match e with
  | some e => pure (e, { c with parser := p })
  | none => throw .malformed

/-- Takes the next event, for a step at depth `d`. -/
def skip (c : Composer) (d : Nat) : LoadResult Composer := do
  let (_, p) ← c.parser.takeEvent (d + 1)
  pure { c with parser := p }

/-- Adds a node, named by `anchor` when it has one, and gives its place. -/
def add (c : Composer) (anchor : Option String) (n : Node) : Nat × Composer :=
  let id := c.nodes.size
  let anchors := match anchor with
    | some a => (a, id) :: c.anchors
    | none => c.anchors
  (id, { c with nodes := c.nodes.push n, anchors })

/-- The full tag of a collection written with `tag`. -/
def collectionTag (tag : Option String) (default : String) : String :=
  match tag with
  | none => default
  | some t => if t == "!" then default else t

/-- The full tag of a scalar written with `tag`. -/
def scalarTag (tag : Option String) (resolvable : Bool) (value : Text) : String :=
  let resolved := if resolvable then Tag.ofPlain value else Tag.str
  match tag with
  | none => resolved
  | some t => if t == "!" then resolved else t

mutual

/-- Composes the node that starts with the next event, in a step at depth `d`, and gives its
place. A scalar or a collection is made by a step one frame above, which takes its event, and a
collection's items are composed by steps one frame above that. A fault of the node is reported
with an error made by the step. -/
def node (c : Composer) (d : Nat) : Nat → LoadResult (Nat × Composer)
  | 0 => .error .malformed
  | fuel + 1 => do
    enter d .step
    let (e, c) ← c.peek d
    match e with
    | .alias name =>
      let c ← c.skip d
      match c.anchors.lookup name with
      | some id => pure (id, c)
      | none =>
        makeFrom d
        throw .malformed
    | _ =>
      if let some a := e.anchor? then
        if (c.anchors.lookup a).isSome then
          makeFrom d
          throw .malformed
      let m := d + 1
      enter m .step
      match e with
      | .scalar anchor tag resolvable value =>
        let c ← c.skip m
        enter (m + 1) .step
        makeFrom m
        pure (c.add anchor (.scalar (scalarTag tag resolvable value) value))
      | .sequenceStart anchor tag =>
        let c ← c.skip m
        enter (m + 1) .step
        makeFrom m
        let (id, c) := c.add anchor (.seq (collectionTag tag Tag.seq) [])
        let (items, c) ← items c m [] fuel
        pure (id, { c with nodes := c.nodes.set! id (.seq (collectionTag tag Tag.seq) items) })
      | .mappingStart anchor tag =>
        let c ← c.skip m
        enter (m + 1) .step
        makeFrom m
        let (id, c) := c.add anchor (.map (collectionTag tag Tag.map) [])
        let (pairs, c) ← pairs c m [] fuel
        pure (id, { c with nodes := c.nodes.set! id (.map (collectionTag tag Tag.map) pairs) })
      | _ => throw .malformed

/-- The items of a sequence up to its end, for the step at depth `d` that makes the sequence;
`acc` holds those so far, reversed. -/
def items (c : Composer) (d : Nat) (acc : List Nat) : Nat → LoadResult (List Nat × Composer)
  | 0 => .error .malformed
  | fuel + 1 => do
    let (e, c) ← c.peek d
    match e with
    | .sequenceEnd => pure (acc.reverse, ← c.skip d)
    | _ =>
      let (id, c) ← node c (d + 1) fuel
      items c d (id :: acc) fuel

/-- The pairs of a mapping up to its end, for the step at depth `d` that makes the mapping;
`acc` holds those so far, reversed. -/
def pairs (c : Composer) (d : Nat) (acc : List (Nat × Nat)) :
    Nat → LoadResult (List (Nat × Nat) × Composer)
  | 0 => .error .malformed
  | fuel + 1 => do
    let (e, c) ← c.peek d
    match e with
    | .mappingEnd => pure (acc.reverse, ← c.skip d)
    | _ =>
      let (k, c) ← node c (d + 1) fuel
      let (v, c) ← node c (d + 1) fuel
      pairs c d ((k, v) :: acc) fuel

end

end Composer

/-- The nodes of a stream's only document and the place of its root, read by a step at depth
`d`, which composes the document one frame above; none for a stream without a document. -/
def Composer.single (d : Nat) (text : String) : LoadResult (Option (Array Node × Nat)) := do
  let p ← Parser.ofString text
  let c : Composer := { parser := p }
  enter d .step
  let c ← c.skip d
  let (e, c) ← c.peek d
  let (doc, c) ← match e with
    | .streamEnd => pure (none, c)
    | _ => do
      enter (d + 1) .step
      let c ← c.skip (d + 1)
      let (root, c) ← c.node (d + 2) (64 * (text.length + 4))
      let c ← c.skip (d + 1)
      pure (some (c.nodes, root), { c with anchors := [] })
  let (e, c) ← c.peek d
  match e with
  | .streamEnd =>
    let _ ← c.skip d
    pure doc
  | _ => throw .malformed

end DocPages.Yaml

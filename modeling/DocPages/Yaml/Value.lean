import DocPages.Yaml.Node
import DocPages.Yaml.Scalar
/-!
# YAML values

The values a YAML document builds from its nodes: null, truth values, integers, floats,
strings, bytes, timestamps, lists, pairs (the items of ordered maps), dictionaries and sets.
Values live in a heap and collections refer to their elements by place, so the sharing and
nesting of nodes carries over to values.

Each node becomes one value, built once. A scalar's value is made at once, while a collection
is made empty and filled later, collections in the order they were made. So a collection may
contain itself, and of two faults the one met first in that order is reported.

A scalar node, or a mapping with a `=` key whose value is a scalar of this kind, gives the
text of scalar types. A mapping may merge other mappings with `<<` keys: the pairs of a merged
mapping, or of a list of mappings with the later ones first, come before the mapping's own
pairs, and a later pair with an equal key replaces an earlier value. Merging changes the
mapping node itself, so a node merged again later is merged as it stands then. A dictionary key
or set member must not be a list, dictionary or set.
-/

namespace DocPages.Yaml

/-- A value of a YAML document. -/
inductive Value where
  /-- Nothing. -/
  | null
  /-- A truth value. -/
  | bool (b : Bool)
  /-- An integer. -/
  | int (n : Int)
  /-- A float. -/
  | float (x : Binary64)
  /-- A string. -/
  | str (t : Text)
  /-- Bytes. -/
  | bytes (bs : List UInt8)
  /-- A date, or a date and time. -/
  | date (s : Stamp)
  /-- A list: the places of its items. -/
  | list (items : List Nat)
  /-- A pair of an ordered map: the places of its key and value. -/
  | pair (key value : Nat)
  /-- A dictionary: its keys and the places of their values, in the order the keys came. -/
  | dict (entries : List (Value × Nat))
  /-- A set: its members, in the order they came. -/
  | set (members : List Value)
  deriving Repr, Inhabited

/-- A number as a key compares: `n / 2 ^ k` in lowest terms, or an infinity. -/
inductive NumberKey where
  | ratio (n : Int) (k : Nat)
  | infinity (negative : Bool)
  deriving Repr, DecidableEq, Inhabited

/-- `n / 2 ^ k` in lowest terms. -/
def NumberKey.reduce (n : Int) : Nat → NumberKey
  | 0 => .ratio n 0
  | k + 1 => if n % 2 == 0 then NumberKey.reduce (n / 2) k else .ratio n (k + 1)

namespace Value

/-- The number a value is, when it is a number; truth values are the numbers 1 and 0, and
not-a-number equals nothing. -/
def number? : Value → Option NumberKey
  | .bool b => some (.ratio (if b then 1 else 0) 0)
  | .int n => some (.ratio n 0)
  | .float (.finite negative m q) =>
    let n : Int := if negative then -(m : Int) else m
    if m == 0 then some (.ratio 0 0)
    else if 0 ≤ q then some (.ratio (n * (Nat.pow 2 q.toNat : Nat)) 0)
    else some (NumberKey.reduce n (-q).toNat)
  | .float (.infinite negative) => some (.infinity negative)
  | _ => none

/-- Whether two keys are equal: numbers by value, strings, bytes and timestamps by content. -/
def keyEq (a b : Value) : Bool :=
  match a, b with
  | .null, .null => true
  | .str x, .str y => x == y
  | .bytes x, .bytes y => x == y
  | .date x, .date y => x == y
  | _, _ =>
    match a.number?, b.number? with
    | some x, some y => x == y
    | _, _ => false

/-- Whether a value may be a key: it is no list, dictionary or set. -/
def isKey : Value → Bool
  | .list _ | .dict _ | .set _ => false
  | _ => true

/-- Whether a value counts as true: it is not null, false, zero or empty. -/
def truthy : Value → Bool
  | .null => false
  | .bool b => b
  | .int n => n != 0
  | .float x => x.isNonzero
  | .str t => !t.isEmpty
  | .bytes bs => !bs.isEmpty
  | .date _ => true
  | .list items => !items.isEmpty
  | .pair _ _ => true
  | .dict entries => !entries.isEmpty
  | .set members => !members.isEmpty

/-- The place of the value a dictionary gives a string key. -/
def field? (v : Value) (key : Text) : Option Nat :=
  match v with
  | .dict entries => (entries.find? fun e => e.1.keyEq (.str key)).map (·.2)
  | _ => none

end Value

/-- Entries with `key` given `value`: an equal key keeps its place and takes the new value. -/
def setEntry (entries : List (Value × Nat)) (key : Value) (value : Nat) : List (Value × Nat) :=
  if entries.any (·.1.keyEq key) then
    entries.map fun e => if e.1.keyEq key then (e.1, value) else e
  else entries ++ [(key, value)]

/-- Members with `key` added unless an equal one is there. -/
def addMember (members : List Value) (key : Value) : List Value :=
  if members.any (·.keyEq key) then members else members ++ [key]

/-- A collection made empty and still to be filled from its node. -/
inductive Fill where
  | list (node place : Nat)
  | dict (node place : Nat)
  | set (node place : Nat)
  | pairs (node place : Nat)
  deriving Repr, DecidableEq, Inhabited

/-- How deep a chain of `=` keys may be followed to a scalar's text. -/
def maxValueChain : Nat := 980

/-- Values being built from nodes: the nodes, which merging changes, the heap, the value of
each node built so far, and the collections still to fill, in order. -/
structure Builder where
  /-- The nodes. -/
  nodes : Array Node
  /-- The values. -/
  heap : Array Value := #[]
  /-- The place of each node's value, once built. -/
  built : Array (Option Nat)
  /-- The collections to fill, first to fill first. -/
  queue : List Fill := []
  deriving Inhabited

namespace Builder

/-- The node at a place. -/
def node (b : Builder) (n : Nat) : Node :=
  b.nodes.getD n default

/-- Adds a value to the heap and gives its place. -/
def alloc (b : Builder) (v : Value) : Nat × Builder :=
  (b.heap.size, { b with heap := b.heap.push v })

/-- The text of a scalar node, or of the value of the first `=` key of a mapping node, followed
at most `fuel` keys deep. -/
def scalarText (b : Builder) (n : Nat) : Nat → LoadResult Text
  | 0 => .error (.tooDeep .step)
  | fuel + 1 =>
    match b.node n with
    | .scalar _ v => .ok v
    | .map _ pairs =>
      match pairs.find? fun p => (b.node p.1).tag == Tag.standard "value" with
      | some (_, v) => scalarText b v fuel
      | none => .error .malformed
    | .seq _ _ => .error .malformed

/-- The value of a scalar node of type `name`, or none when the type is not a scalar type. -/
def scalarValue (b : Builder) (n : Nat) (name : String) : Option (LoadResult Value) :=
  let text := b.scalarText n maxValueChain
  if name == "null" then some (text.map fun _ => .null)
  else if name == "bool" then some (text.bind fun t => (Scalar.bool t).map .bool)
  else if name == "int" then some (text.bind fun t => (Scalar.int t).map .int)
  else if name == "float" then some (text.bind fun t => (Scalar.float t).map .float)
  else if name == "binary" then some (text.bind fun t => (Scalar.binary t).map .bytes)
  else if name == "str" then some (text.map .str)
  else if name == "timestamp" then
    some (text.bind fun _ =>
      match b.node n with
      | .scalar _ v => (Scalar.timestamp v).map .date
      | _ => .error .timestampOfList)
  else none

/-- The place of the value of a node: the one built before, or a new one. -/
def object (b : Builder) (n : Nat) : LoadResult (Nat × Builder) := do
  match b.built.getD n none with
  | some place => pure (place, b)
  | none =>
    let tag := (b.node n).tag
    let std := "tag:yaml.org,2002:"
    let name := if tag.startsWith std then (tag.drop std.length).toString else ""
    let (place, b) ← match b.scalarValue n name with
      | some r => do
        let v ← r
        pure (b.alloc v)
      | none =>
        if !tag.startsWith std then throw .malformed
        else if name == "seq" then
          let (p, b) := b.alloc (.list [])
          pure (p, { b with queue := b.queue ++ [.list n p] })
        else if name == "map" then
          let (p, b) := b.alloc (.dict [])
          pure (p, { b with queue := b.queue ++ [.dict n p] })
        else if name == "set" then
          let (p, b) := b.alloc (.set [])
          pure (p, { b with queue := b.queue ++ [.set n p] })
        else if name == "omap" || name == "pairs" then
          let (p, b) := b.alloc (.list [])
          pure (p, { b with queue := b.queue ++ [.pairs n p] })
        else throw .malformed
    pure (place, { b with built := b.built.set! n (some place) })

/-- The pairs of a mapping node as they stand. -/
def pairsOf (b : Builder) (n : Nat) : List (Nat × Nat) :=
  match b.node n with
  | .map _ pairs => pairs
  | _ => []

/-- The builder with a mapping node's pairs replaced. -/
def setPairs (b : Builder) (n : Nat) (pairs : List (Nat × Nat)) : Builder :=
  { b with nodes := b.nodes.set! n (.map (b.node n).tag pairs) }

/-- The builder with a node's tag replaced. -/
def setTag (b : Builder) (n : Nat) (tag : String) : Builder :=
  { b with nodes := b.nodes.set! n ((b.node n).withTag tag) }

mutual

/-- Merges into a mapping node the mappings its `<<` keys name, from the pair at `index` on;
`merged` holds the pairs merged so far. A `=` key becomes a string key. -/
def flattenFrom (b : Builder) (n index : Nat) (merged : List (Nat × Nat)) :
    Nat → LoadResult Builder
  | 0 => .error .malformed
  | fuel + 1 =>
    match (b.pairsOf n)[index]? with
    | none =>
      .ok (if merged.isEmpty then b else b.setPairs n (merged ++ b.pairsOf n))
    | some (k, v) =>
      let keyTag := (b.node k).tag
      if keyTag == Tag.standard "merge" then
        let b := b.setPairs n ((b.pairsOf n).eraseIdx index)
        match b.node v with
        | .map _ _ => do
          let b ← flattenFrom b v 0 [] fuel
          flattenFrom b n index (merged ++ b.pairsOf v) fuel
        | .seq _ items => do
          let (b, groups) ← flattenEach b items [] fuel
          flattenFrom b n index (merged ++ groups.flatten) fuel
        | .scalar _ _ => .error .malformed
      else if keyTag == Tag.standard "value" then
        flattenFrom (b.setTag k Tag.str) n (index + 1) merged fuel
      else flattenFrom b n (index + 1) merged fuel

/-- Merges each mapping of a list of mappings, and gives their pairs, the last mapping's
first; `acc` holds those so far. -/
def flattenEach (b : Builder) (items : List Nat) (acc : List (List (Nat × Nat))) :
    Nat → LoadResult (Builder × List (List (Nat × Nat)))
  | 0 => .error .malformed
  | fuel + 1 =>
    match items with
    | [] => .ok (b, acc)
    | m :: rest =>
      match b.node m with
      | .map _ _ => do
        let b ← flattenFrom b m 0 [] fuel
        flattenEach b rest (b.pairsOf m :: acc) fuel
      | _ => .error .malformed

end

/-- The places of the values of nodes, built in order. -/
def objects (b : Builder) : List Nat → LoadResult (List Nat × Builder)
  | [] => .ok ([], b)
  | n :: rest => do
    let (p, b) ← b.object n
    let (ps, b) ← objects b rest
    pure (p :: ps, b)

/-- The keys and values of a mapping's pairs, each key checked to be a key before its value is
built; `acc` holds the entries so far. -/
def entries (b : Builder) (acc : List (Value × Nat)) :
    List (Nat × Nat) → LoadResult (List (Value × Nat) × Builder)
  | [] => .ok (acc, b)
  | (k, v) :: rest => do
    let (kp, b) ← b.object k
    let key := b.heap.getD kp default
    if !key.isKey then throw .malformed
    let (vp, b) ← b.object v
    entries b (setEntry acc key vp) rest

/-- The entries of a mapping node, after merging. -/
def mapping (b : Builder) (n : Nat) (fuel : Nat) : LoadResult (List (Value × Nat) × Builder) := do
  let b ← match b.node n with
    | .map _ _ => b.flattenFrom n 0 [] fuel
    | _ => pure b
  match b.node n with
  | .map _ pairs => b.entries [] pairs
  | _ => throw .malformed

/-- The pairs of an ordered map: each item a mapping of one pair. -/
def orderedPairs (b : Builder) : List Nat → LoadResult (List Nat × Builder)
  | [] => .ok ([], b)
  | m :: rest => do
    match b.node m with
    | .map _ [(k, v)] =>
      let (kp, b) ← b.object k
      let (vp, b) ← b.object v
      let (p, b) := b.alloc (.pair kp vp)
      let (ps, b) ← orderedPairs b rest
      pure (p :: ps, b)
    | _ => throw .malformed

/-- A bound on the steps of merging. Every step drops a `<<` pair or passes a pair or an item;
merging never adds a `<<` pair, and dropping one at most doubles a mapping, so the pairs passed
stay below two to the power of the pairs and items there are. -/
def mergeFuel (b : Builder) : Nat :=
  let size := b.nodes.foldl (fun s n => match n with
    | .map _ pairs => s + pairs.length
    | .seq _ items => s + items.length
    | .scalar _ _ => s + 1) 1
  Nat.pow 2 (2 * size + 8)

/-- Fills a collection from its node. -/
def fill (b : Builder) : Fill → LoadResult Builder
  | .list n p => do
    match b.node n with
    | .seq _ items =>
      let (ps, b) ← b.objects items
      pure { b with heap := b.heap.set! p (.list ps) }
    | _ => throw .malformed
  | .dict n p => do
    let (es, b) ← b.mapping n b.mergeFuel
    pure { b with heap := b.heap.set! p (.dict es) }
  | .set n p => do
    let (es, b) ← b.mapping n b.mergeFuel
    pure { b with heap := b.heap.set! p (.set (es.foldl (fun ms e => addMember ms e.1) [])) }
  | .pairs n p => do
    match b.node n with
    | .seq _ items =>
      let (ps, b) ← b.orderedPairs items
      pure { b with heap := b.heap.set! p (.list ps) }
    | _ => throw .malformed

/-- Fills the collections in order, also those made while filling. Each node makes at most one
collection, so the number of nodes bounds the rounds. -/
def run (b : Builder) : Nat → LoadResult Builder
  | 0 => .ok b
  | fuel + 1 =>
    match b.queue with
    | [] => .ok b
    | f :: rest => do
      let b ← { b with queue := rest }.fill f
      run b fuel

end Builder

/-- The values of a document and the place of its root. -/
structure Document where
  /-- The values. -/
  heap : Array Value
  /-- The place of the root value. -/
  root : Nat
  deriving Repr, Inhabited

namespace Document

/-- The value at a place. -/
def get (d : Document) (p : Nat) : Value :=
  d.heap.getD p default

/-- The root value. -/
def rootValue (d : Document) : Value :=
  d.get d.root

/-- The document built from a graph of nodes and its root. -/
def ofNodes (nodes : Array Node) (root : Nat) : LoadResult Document := do
  let b : Builder := { nodes, built := Array.replicate nodes.size none }
  let (r, b) ← b.object root
  let b ← b.run (nodes.size + 1)
  pure { heap := b.heap, root := r }

/-- How many frames above the loader of a stream its documents are read: the loading and the
reading of the single document. -/
def readerFrames : Nat := 3

/-- The document a YAML stream holds, loaded at depth `d` on the stack; none for a stream
without one. -/
def load (d : Nat) (text : String) : LoadResult (Option Document) := do
  match ← Composer.single (d + readerFrames) text with
  | none => pure none
  | some (nodes, root) => pure (some (← ofNodes nodes root))

end Document

end DocPages.Yaml

import DocPages.Yaml.Token
/-!
# YAML events

A YAML stream read as events: the starts and ends of the stream, of documents and of
collections, scalars and aliases. The parser is a state machine over the tokens, with a stack of
the states to return to when a node ends, and it produces one event when asked, reading only the
tokens that event needs. So a fault in the stream is met only when the events before it have
been used, in the order a reader of the events meets them.

Tags are written with a handle, which the `%TAG` directives of the document define; `!` and
`!!` stand for `!` and `tag:yaml.org,2002:` unless a directive says otherwise. A document may
say which version of YAML it is written in, at most once, and the major version must be 1.

A scalar whose tag is absent or `!` and that was written plain, or whose tag is `!`, may have
its tag resolved from its text later (`resolvable`); an empty node with an anchor or tag only is
an empty scalar.

The parser runs on the loader's stack. An event is asked for at some depth and the step of the
state produces it one frame above; a step asks for tokens one frame above itself, hands a node
to the step for nodes one or two frames above, and makes each event it gives, which takes two
frames more.
-/

namespace DocPages.Yaml

/-- An event of a YAML stream. -/
inductive Event where
  /-- The stream starts. -/
  | streamStart
  /-- The stream ends. -/
  | streamEnd
  /-- A document starts. -/
  | documentStart
  /-- A document ends. -/
  | documentEnd
  /-- A node named by an anchor before. -/
  | alias (name : String)
  /-- A scalar: its anchor, tag, whether its tag may be resolved from its text, and its text. -/
  | scalar (anchor : Option String) (tag : Option String) (resolvable : Bool) (value : Text)
  /-- A sequence starts. -/
  | sequenceStart (anchor : Option String) (tag : Option String)
  /-- A sequence ends. -/
  | sequenceEnd
  /-- A mapping starts. -/
  | mappingStart (anchor : Option String) (tag : Option String)
  /-- A mapping ends. -/
  | mappingEnd
  deriving Repr, DecidableEq, Inhabited

/-- The anchor an event gives its node. -/
def Event.anchor? : Event → Option String
  | .scalar a _ _ _ => a
  | .sequenceStart a _ => a
  | .mappingStart a _ => a
  | _ => none

/-- Where the parser stands: what the next event may be. -/
inductive ParseState where
  | streamStart
  | implicitDocumentStart
  | documentStart
  | documentEnd
  | documentContent
  | blockNode
  | blockSequenceFirstEntry
  | blockSequenceEntry
  | indentlessSequenceEntry
  | blockMappingFirstKey
  | blockMappingKey
  | blockMappingValue
  | flowSequenceFirstEntry
  | flowSequenceEntry
  | flowSequenceEntryMappingKey
  | flowSequenceEntryMappingValue
  | flowSequenceEntryMappingEnd
  | flowMappingFirstKey
  | flowMappingKey
  | flowMappingValue
  | flowMappingEmptyValue
  deriving Repr, DecidableEq, Inhabited

/-- The tag handles every document has unless its directives redefine them. -/
def defaultHandles : List (String × String) :=
  [("!", "!"), ("!!", "tag:yaml.org,2002:")]

/-- The parser: the scanner, the state, the states to return to, the tag handles of the
document, and the event produced and not yet taken. -/
structure Parser where
  /-- The tokens. -/
  scanner : Scanner
  /-- The state, none after the end of the stream. -/
  state : Option ParseState := some .streamStart
  /-- The states to return to, innermost first. -/
  states : List ParseState := []
  /-- The tag handles of the current document. -/
  handles : List (String × String) := []
  /-- The event produced and not yet taken. -/
  current : Option Event := none
  deriving Inhabited

namespace Parser

/-- The next token, scanned if need be, asked for by a step at depth `d`; there is always one
before the stream ends. -/
def peek (p : Parser) (d : Nat) : LoadResult (Token × Parser) := do
  let (t, s) ← p.scanner.peekToken (d + 1)
  match t with
  | some t => pure (t, { p with scanner := s })
  | none => throw .malformed

/-- Takes the next token, for a step at depth `d`. -/
def take (p : Parser) (d : Nat) : LoadResult (Token × Parser) := do
  let (t, s) ← p.scanner.takeToken (d + 1)
  match t with
  | some t => pure (t, { p with scanner := s })
  | none => throw .malformed

/-- Takes the next token, which was looked at before, for a step at depth `d`. -/
def skip (p : Parser) (d : Nat) : LoadResult Parser := do
  let (_, p) ← p.take d
  pure p

/-- Goes on in state `st`. -/
def goTo (p : Parser) (st : ParseState) : Parser :=
  { p with state := some st }

/-- Returns to the state below on the stack. -/
def pop (p : Parser) : LoadResult Parser :=
  match p.states with
  | st :: rest => .ok { p with state := some st, states := rest }
  | [] => .error .malformed

/-- Saves `st` to return to. -/
def push (p : Parser) (st : ParseState) : Parser :=
  { p with states := st :: p.states }

/-- An empty plain scalar, made by a step one frame above a step at depth `d`, in state `st`
after it. -/
def emptyScalar (p : Parser) (st : ParseState) (d : Nat) : LoadResult (Event × Parser) := do
  enter (d + 1) .step
  makeFrom (d + 1)
  pure (.scalar none none true [], p.goTo st)

/-- The directives before an explicit document, read by a step at depth `d`: the tag handles
they define, with the default ones added. A second `%YAML`, a version other than 1.x and a
handle defined twice are faults. -/
def directives (p : Parser) (d : Nat) : LoadResult Parser := do
  enter d .step
  go p none [] (p.scanner.input.size + 1)
where
  /-- One directive at a time. -/
  go (p : Parser) (version : Option (Nat × Nat)) (handles : List (String × String)) :
      Nat → LoadResult Parser
    | 0 => .error .malformed
    | fuel + 1 => do
      let (t, p) ← p.peek d
      match t with
      | .directive dir =>
        let p ← p.skip d
        match dir with
        | .yaml major minor =>
          if version.isSome || major != 1 then throw .malformed
          go p (some (major, minor)) handles fuel
        | .tag handle pfx =>
          if (handles.lookup handle).isSome then throw .malformed
          go p version (handles ++ [(handle, pfx)]) fuel
        | .other => go p version handles fuel
      | _ =>
        let missing := defaultHandles.filter fun h => (handles.lookup h.1).isNone
        pure { p with handles := handles ++ missing }

/-- The full tag a written tag stands for. -/
def fullTag (p : Parser) : Option String → String → LoadResult String
  | none, suffix => .ok suffix
  | some handle, suffix =>
    match p.handles.lookup handle with
    | some pfx => .ok (pfx ++ suffix)
    | none => .error .malformed

/-- The anchor and tag before a node, in either order, read by the step for nodes at depth
`d`. -/
def properties (p : Parser) (d : Nat) :
    LoadResult (Option String × Option (Option String × String) × Parser) := do
  let (t, p) ← p.peek d
  match t with
  | .anchor a =>
    let p ← p.skip d
    let (t, p) ← p.peek d
    match t with
    | .tag h s => pure (some a, some (h, s), ← p.skip d)
    | _ => pure (some a, none, p)
  | .tag h s =>
    let p ← p.skip d
    let (t, p) ← p.peek d
    match t with
    | .anchor a => pure (some a, some (h, s), ← p.skip d)
    | _ => pure (none, some (h, s), p)
  | _ => pure (none, none, p)

/-- A node, read by the step for nodes at depth `d`: an alias, or a scalar or the start of a
collection with its properties. In block context (`block`) a block collection may start here,
and where `indentless` holds a sequence may start without indentation. -/
def node (p : Parser) (d : Nat) (block indentless : Bool) : LoadResult (Event × Parser) := do
  enter d .step
  let (t, p) ← p.peek d
  match t with
  | .alias name =>
    let p ← p.skip d
    makeFrom d
    pure (.alias name, ← p.pop)
  | _ =>
    let (anchor, written, p) ← p.properties d
    let tag ← match written with
      | some (h, s) => (p.fullTag h s).map some
      | none => pure none
    let implicit := tag.isNone || tag == some "!"
    let (t, p) ← p.peek d
    let empty : LoadResult (Event × Parser) :=
      if anchor.isSome || tag.isSome then do
        makeFrom d
        pure (.scalar anchor tag implicit [], ← p.pop)
      else throw .malformed
    let start (e : Event) (st : ParseState) : LoadResult (Event × Parser) := do
      makeFrom d
      pure (e, p.goTo st)
    match t with
    | .blockEntry =>
      if indentless then start (.sequenceStart anchor tag) .indentlessSequenceEntry
      else empty
    | .scalar value plain =>
      let p ← p.skip d
      makeFrom d
      pure (.scalar anchor tag ((plain && tag.isNone) || tag == some "!") value, ← p.pop)
    | .flowSequenceStart => start (.sequenceStart anchor tag) .flowSequenceFirstEntry
    | .flowMappingStart => start (.mappingStart anchor tag) .flowMappingFirstKey
    | .blockSequenceStart =>
      if block then start (.sequenceStart anchor tag) .blockSequenceFirstEntry
      else empty
    | .blockMappingStart =>
      if block then start (.mappingStart anchor tag) .blockMappingFirstKey
      else empty
    | _ => empty

/-- The start of a document, after any extra document end markers, or the end of the stream,
read by a step at depth `d`. -/
def documentStart (p : Parser) (d : Nat) : LoadResult (Event × Parser) := do
  enter d .step
  let p ← skipEnds p (p.scanner.input.size + 1)
  let (t, p) ← p.peek d
  match t with
  | .streamEnd =>
    let p ← p.skip d
    makeFrom d
    pure (.streamEnd, { p with state := none })
  | _ =>
    let p ← p.directives (d + 1)
    let (t, p) ← p.peek d
    match t with
    | .documentStart =>
      let p ← p.skip d
      makeFrom d
      pure (.documentStart, (p.push .documentEnd).goTo .documentContent)
    | _ => throw .malformed
where
  /-- Skips document end markers. -/
  skipEnds (p : Parser) : Nat → LoadResult Parser
    | 0 => .error .malformed
    | fuel + 1 => do
      let (t, p) ← p.peek d
      match t with
      | .documentEnd => skipEnds (← p.skip d) fuel
      | _ => pure p

/-- An entry of a flow sequence, read by a step at depth `d`, after a `,` unless it is the
first: a single-pair mapping when it starts with `?`. -/
def flowSequenceEntry (p : Parser) (d : Nat) (first : Bool) : LoadResult (Event × Parser) := do
  enter d .step
  let (t, p) ← p.peek d
  match t with
  | .flowSequenceEnd =>
    let p ← p.skip d
    makeFrom d
    pure (.sequenceEnd, ← p.pop)
  | _ =>
    let p ← if first then pure p else do
      let (t, p) ← p.peek d
      match t with
      | .flowEntry => p.skip d
      | _ => throw .malformed
    let (t, p) ← p.peek d
    match t with
    | .key =>
      makeFrom d
      pure (.mappingStart none none, p.goTo .flowSequenceEntryMappingKey)
    | .flowSequenceEnd =>
      let p ← p.skip d
      makeFrom d
      pure (.sequenceEnd, ← p.pop)
    | _ => (p.push .flowSequenceEntry).node (d + 2) false false

/-- A key of a flow mapping, read by a step at depth `d`, after a `,` unless it is the
first. -/
def flowMappingKey (p : Parser) (d : Nat) (first : Bool) : LoadResult (Event × Parser) := do
  enter d .step
  let (t, p) ← p.peek d
  match t with
  | .flowMappingEnd =>
    let p ← p.skip d
    makeFrom d
    pure (.mappingEnd, ← p.pop)
  | _ =>
    let p ← if first then pure p else do
      let (t, p) ← p.peek d
      match t with
      | .flowEntry => p.skip d
      | _ => throw .malformed
    let (t, p) ← p.peek d
    match t with
    | .key =>
      let p ← p.skip d
      let (t, p) ← p.peek d
      match t with
      | .value | .flowEntry | .flowMappingEnd => p.emptyScalar .flowMappingValue d
      | _ => (p.push .flowMappingValue).node (d + 2) false false
    | .flowMappingEnd =>
      let p ← p.skip d
      makeFrom d
      pure (.mappingEnd, ← p.pop)
    | _ => (p.push .flowMappingEmptyValue).node (d + 2) false false

/-- Produces the next event from the state the parser is in, by the step of that state at
depth `d`. -/
def step (p : Parser) (d : Nat) : ParseState → LoadResult (Event × Parser)
  | .streamStart => do
    enter d .step
    let p ← p.skip d
    makeFrom d
    pure (.streamStart, p.goTo .implicitDocumentStart)
  | .implicitDocumentStart => do
    enter d .step
    let (t, p) ← p.peek d
    match t with
    | .directive _ | .documentStart | .streamEnd => p.documentStart (d + 1)
    | _ =>
      makeFrom d
      pure (.documentStart, ({ p with handles := defaultHandles }.push .documentEnd).goTo .blockNode)
  | .documentStart => p.documentStart d
  | .documentEnd => do
    enter d .step
    let (t, p) ← p.peek d
    let p ← match t with
      | .documentEnd => p.skip d
      | _ => pure p
    makeFrom d
    pure (.documentEnd, p.goTo .documentStart)
  | .documentContent => do
    enter d .step
    let (t, p) ← p.peek d
    match t with
    | .directive _ | .documentStart | .documentEnd | .streamEnd =>
      enter (d + 1) .step
      makeFrom (d + 1)
      pure (.scalar none none true [], ← p.pop)
    | _ => p.node (d + 2) true false
  | .blockNode => do
    enter d .step
    p.node (d + 1) true false
  | .blockSequenceFirstEntry => do
    enter d .step
    let p ← p.skip d
    blockSequenceEntry p (d + 1)
  | .blockSequenceEntry => blockSequenceEntry p d
  | .indentlessSequenceEntry => do
    enter d .step
    let (t, p) ← p.peek d
    match t with
    | .blockEntry =>
      let p ← p.skip d
      let (t, p) ← p.peek d
      match t with
      | .blockEntry | .key | .value | .blockEnd => p.emptyScalar .indentlessSequenceEntry d
      | _ => (p.push .indentlessSequenceEntry).node (d + 2) true false
    | _ =>
      makeFrom d
      pure (.sequenceEnd, ← p.pop)
  | .blockMappingFirstKey => do
    enter d .step
    let p ← p.skip d
    blockMappingKey p (d + 1)
  | .blockMappingKey => blockMappingKey p d
  | .blockMappingValue => do
    enter d .step
    let (t, p) ← p.peek d
    match t with
    | .value =>
      let p ← p.skip d
      let (t, p) ← p.peek d
      match t with
      | .key | .value | .blockEnd => p.emptyScalar .blockMappingKey d
      | _ => (p.push .blockMappingKey).node (d + 2) true true
    | _ => p.emptyScalar .blockMappingKey d
  | .flowSequenceFirstEntry => do
    enter d .step
    let p ← p.skip d
    p.flowSequenceEntry (d + 1) true
  | .flowSequenceEntry => p.flowSequenceEntry d false
  | .flowSequenceEntryMappingKey => do
    enter d .step
    let p ← p.skip d
    let (t, p) ← p.peek d
    match t with
    | .value | .flowEntry | .flowSequenceEnd => p.emptyScalar .flowSequenceEntryMappingValue d
    | _ => (p.push .flowSequenceEntryMappingValue).node (d + 2) false false
  | .flowSequenceEntryMappingValue => do
    enter d .step
    let (t, p) ← p.peek d
    match t with
    | .value =>
      let p ← p.skip d
      let (t, p) ← p.peek d
      match t with
      | .flowEntry | .flowSequenceEnd => p.emptyScalar .flowSequenceEntryMappingEnd d
      | _ => (p.push .flowSequenceEntryMappingEnd).node (d + 2) false false
    | _ => p.emptyScalar .flowSequenceEntryMappingEnd d
  | .flowSequenceEntryMappingEnd => do
    enter d .step
    let (_, p) ← p.peek d
    makeFrom d
    pure (.mappingEnd, p.goTo .flowSequenceEntry)
  | .flowMappingFirstKey => do
    enter d .step
    let p ← p.skip d
    p.flowMappingKey (d + 1) true
  | .flowMappingKey => p.flowMappingKey d false
  | .flowMappingValue => do
    enter d .step
    let (t, p) ← p.peek d
    match t with
    | .value =>
      let p ← p.skip d
      let (t, p) ← p.peek d
      match t with
      | .flowEntry | .flowMappingEnd => p.emptyScalar .flowMappingKey d
      | _ => (p.push .flowMappingKey).node (d + 2) false false
    | _ => p.emptyScalar .flowMappingKey d
  | .flowMappingEmptyValue => do
    enter d .step
    let (_, p) ← p.peek d
    p.emptyScalar .flowMappingKey d
where
  /-- An entry of a block sequence, or its end, read by a step at depth `b`. -/
  blockSequenceEntry (p : Parser) (b : Nat) : LoadResult (Event × Parser) := do
    enter b .step
    let (t, p) ← p.peek b
    match t with
    | .blockEntry =>
      let p ← p.skip b
      let (t, p) ← p.peek b
      match t with
      | .blockEntry | .blockEnd => p.emptyScalar .blockSequenceEntry b
      | _ => (p.push .blockSequenceEntry).node (b + 2) true false
    | .blockEnd =>
      let p ← p.skip b
      makeFrom b
      pure (.sequenceEnd, ← p.pop)
    | _ => throw .malformed
  /-- A key of a block mapping, or its end, read by a step at depth `b`. -/
  blockMappingKey (p : Parser) (b : Nat) : LoadResult (Event × Parser) := do
    enter b .step
    let (t, p) ← p.peek b
    match t with
    | .key =>
      let p ← p.skip b
      let (t, p) ← p.peek b
      match t with
      | .key | .value | .blockEnd => p.emptyScalar .blockMappingValue b
      | _ => (p.push .blockMappingValue).node (b + 2) true true
    | .blockEnd =>
      let p ← p.skip b
      makeFrom b
      pure (.mappingEnd, ← p.pop)
    | _ => throw .malformed

/-- The next event, produced if need be, without taking it, for a request whose frame stands at
depth `d`; none after the end of the stream. -/
def peekEvent (p : Parser) (d : Nat) : LoadResult (Option Event × Parser) := do
  enter d .step
  match p.current, p.state with
  | some e, _ => pure (some e, p)
  | none, none => pure (none, p)
  | none, some st =>
    let (e, p) ← p.step (d + 1) st
    pure (some e, { p with current := some e })

/-- Takes the next event, for a request whose frame stands at depth `d`. -/
def takeEvent (p : Parser) (d : Nat) : LoadResult (Option Event × Parser) := do
  let (e, p) ← p.peekEvent d
  pure (e, { p with current := none })

/-- A parser of a stream: the stream must hold printable characters only. -/
def ofString (text : String) : LoadResult Parser := do
  pure { scanner := ← Scanner.ofText text }

end Parser

end DocPages.Yaml

import Blueprint.Fields
import Blueprint.Yaml.Token

/-!
YAML nodes: the tree that the tokens of one document describe, its tags written out and its aliases
replaced by what they stand for.
-/
set_option autoImplicit false

namespace Blueprint.Yaml

/-- A node. A tag is absent unless the text gives one. -/
inductive Node where
  | scalar (tag : Option String) (text : String) (plain : Bool)
  | sequence (tag : Option String) (items : List Node)
  | mapping (tag : Option String) (entries : List (Node × Node))
  /-- A collection around the place itself, by an alias to it. -/
  | enclosing

namespace Node

instance : Inhabited Node := ⟨.enclosing⟩

/-- The node where nothing is written. -/
def empty : Node := .scalar none "" true

end Node

/-- What is known between two tokens: the tokens left, the nodes that have names, and the tag handles
of the document. -/
structure NodeState where
  tokens : List Token
  anchors : List (String × Node) := []
  handles : Fields String := []

/-- A step of reading nodes. -/
abbrev NodeReader := StateT NodeState (Except Problem)

namespace NodeReader

/-- Gives up unless a condition holds. -/
def require (condition : Bool) : NodeReader Unit :=
  if condition then pure () else throw .malformed

def peek : NodeReader (Option Token) := return (← get).tokens.head?

def take : NodeReader Unit :=
  modify fun state => { state with tokens := state.tokens.drop 1 }

/-- Takes the next token if it is a given one; says whether it was. -/
def takeIf (token : Token) : NodeReader Bool := do
  if (← peek) == some token then
    take
    return true
  else return false

/-- Whether the next token is one of some; at the end of the text none is. -/
def isAt (tokens : List Token) : NodeReader Bool := do
  return ((← peek).map (tokens.contains ·)).getD false

/-- Repeats a step until it says that it was the last one. Every step but the last takes a token, so
the number of tokens left bounds the repetition. -/
def loopWithin {σ : Type} (step : σ → NodeReader (σ × Bool)) : Nat → σ → NodeReader σ
  | 0, state => pure state
  | fuel + 1, state => do
    let (state, more) ← step state
    if more then loopWithin step fuel state else pure state

/-- Repeats a step until it says that it was the last one. -/
def loop {σ : Type} (step : σ → NodeReader (σ × Bool)) (state : σ) : NodeReader σ := do
  loopWithin step ((← get).tokens.length + 1) state

/-- What may stand at a place: only flow collections, block collections too, or also a sequence at
the indentation of the mapping around it. -/
inductive Place where
  | flow
  | block
  | mappingPart
  deriving DecidableEq, Repr

/-- The tag and the anchor before a node, in either order. -/
def properties : NodeReader (Option String × Option String) := do
  loop (fun (tag, anchor) => do
    match (← peek), tag, anchor with
    | some (.tag handle suffix), none, _ => do
      take
      let written ← match handle with
        | none => pure suffix
        | some handle =>
          match Fields.get? handle (← get).handles with
          | some expansion => pure (expansion ++ suffix)
          | none => throw .malformed
      return ((some written, anchor), true)
    | some (.anchor name), _, none => do
      take
      return ((tag, some name), true)
    | _, _, _ => return ((tag, anchor), false)) (none, none)

def bind (anchor : Option String) (node : Node) : NodeReader Unit :=
  match anchor with
  | none => pure ()
  | some name => modify fun state => { state with anchors := (name, node) :: state.anchors }

/-- The entries of a block sequence; an entry may be empty. -/
def blockEntries (node : Place → NodeReader Node) (closing : List Token) : NodeReader (List Node) :=
  loop (fun items => do
    if ← takeIf .blockEntry then
      let item ← if ← isAt closing then pure Node.empty else node .block
      return (items ++ [item], true)
    else return (items, false)) []

def mappingClosing : List Token := [.key, .value, .blockEnd]

/-- A part of a block mapping after its mark, if the mark is there. -/
def blockPart (node : Place → NodeReader Node) (mark : Token) : NodeReader Node := do
  if ← takeIf mark then
    if ← isAt mappingClosing then return .empty else node .mappingPart
  else return .empty

/-- The entries of a block mapping; keys and values may be empty. -/
def blockPairs (node : Place → NodeReader Node) : NodeReader (List (Node × Node)) :=
  loop (fun entries => do
    if ← isAt [.key, .value] then
      let key ← blockPart node .key
      let value ← blockPart node .value
      return (entries ++ [(key, value)], true)
    else return (entries, false)) []

/-- A part of an entry in a flow collection after its mark, if the mark is there. -/
def flowPart (node : Place → NodeReader Node) (mark : Token) (closing : List Token) :
    NodeReader Node := do
  if ← takeIf mark then
    if ← isAt closing then return .empty else node .flow
  else return .empty

/-- The entries of a flow collection, with commas between them and perhaps one at the end. -/
def flowEntries {α : Type} (closing : Token) (entry : NodeReader α) : NodeReader (List α) := do
  let entries ← loop (fun (entries : List α) => do
    if ← isAt [closing] then return (entries, false)
    if !entries.isEmpty then
      require (← takeIf .flowEntry)
    if ← isAt [closing] then return (entries, false)
    return (entries ++ [← entry], true)) []
  require (← takeIf closing)
  return entries

/-- An entry of a flow sequence: a node, or a pair that is a mapping of its own. -/
def flowItem (node : Place → NodeReader Node) : NodeReader Node := do
  if (← peek) == some .key then
    let key ← flowPart node .key [.value, .flowEntry, .flowSequenceEnd]
    let value ← flowPart node .value [.flowEntry, .flowSequenceEnd]
    return .mapping none [(key, value)]
  else node .flow

/-- An entry of a flow mapping; a node without a value is a key. -/
def flowPair (node : Place → NodeReader Node) : NodeReader (Node × Node) := do
  if (← peek) == some .key then
    let key ← flowPart node .key [.value, .flowEntry, .flowMappingEnd]
    let value ← flowPart node .value [.flowEntry, .flowMappingEnd]
    return (key, value)
  else return (← node .flow, .empty)

/-- The content of a node after its properties; `node` reads the nodes inside. -/
def content (node : Place → NodeReader Node) (place : Place) (tag anchor : Option String) :
    NodeReader Node := do
  match ← peek with
  | some (.scalar text plain) => do
    take
    return .scalar tag text plain
  | some .blockEntry => do
    require (place == .mappingPart)
    bind anchor .enclosing
    return .sequence tag (← blockEntries node [.blockEntry, .key, .value, .blockEnd])
  | some .flowSequenceStart => do
    take
    bind anchor .enclosing
    return .sequence tag (← flowEntries .flowSequenceEnd (flowItem node))
  | some .flowMappingStart => do
    take
    bind anchor .enclosing
    return .mapping tag (← flowEntries .flowMappingEnd (flowPair node))
  | some .blockSequenceStart => do
    require (place != .flow)
    take
    bind anchor .enclosing
    let items ← blockEntries node [.blockEntry, .blockEnd]
    require (← takeIf .blockEnd)
    return .sequence tag items
  | some .blockMappingStart => do
    require (place != .flow)
    take
    bind anchor .enclosing
    let entries ← blockPairs node
    require (← takeIf .blockEnd)
    return .mapping tag entries
  | _ => do
    require (tag.isSome || anchor.isSome)
    return .scalar tag "" true

/-- A node whose collections are nested at most `depth` deep. -/
def nodeWithin : Nat → Place → NodeReader Node
  | 0, _ => throw .malformed
  | depth + 1, place => do
    match ← peek with
    | some (.alias name) => do
      take
      match (← get).anchors.lookup name with
      | some node => return node
      | none => throw .malformed
    | _ => do
      let (tag, anchor) ← properties
      let named := (← get).anchors
      require ((anchor.map fun name => (named.lookup name).isNone).getD true)
      let node ← content (nodeWithin depth) place tag anchor
      bind anchor node
      return node

/-- A node. Every collection takes a token, so collections are nested no deeper than there are
tokens. -/
def node (place : Place) : NodeReader Node := do
  nodeWithin ((← get).tokens.length + 1) place

/-- The handles that every document has. -/
def defaultHandles : Fields String := [("!", "!"), ("!!", "tag:yaml.org,2002:")]

/-- Reads the directives before a document: the version, at most once and the supported one, and tag
handles, each at most once. -/
def directives : NodeReader Unit := do
  let (_, handles) ← loop (fun (versions, handles) => do
    match ← peek with
    | some (.directive content) => do
      take
      match content with
      | .version major => do
        require (versions == 0 && major == 1)
        return ((versions + 1, handles), true)
      | .tagHandle handle expansion => do
        require (Fields.get? handle handles).isNone
        return ((versions, Fields.insert handle expansion handles), true)
      | .other => return ((versions, handles), true)
    | _ => return ((versions, handles), false)) (0, ([] : Fields String))
  let missing := defaultHandles.filter fun entry => (Fields.get? entry.1 handles).isNone
  modify fun state => { state with handles := handles ++ missing }

def documentEnds : NodeReader Unit := do
  let _ ← loop (fun _ => do
    let passed ← takeIf .documentEnd
    return ((), passed)) ()

/-- The node of a text that holds at most one document. -/
def document : NodeReader (Option Node) := do
  modify fun state => { state with handles := defaultHandles }
  let explicit ← match ← peek with
    | some (.directive _) | some .documentStart => pure true
    | _ => pure false
  let found ← match explicit, ← peek with
    | false, none => pure none
    | false, _ => pure (some (← node .block))
    | true, _ => do
      directives
      require (← takeIf .documentStart)
      match ← peek with
      | none | some (.directive _) | some .documentStart | some .documentEnd =>
        pure (some Node.empty)
      | _ => pure (some (← node .block))
  documentEnds
  require (← peek).isNone
  return found

end NodeReader

/-- The node that a text describes; an empty text describes none. -/
def Node.ofText (text : List Char) : Except Problem (Option Node) := do
  let tokens ← tokenize text
  let (found, _) ← NodeReader.document.run { tokens := tokens }
  return found

end Blueprint.Yaml

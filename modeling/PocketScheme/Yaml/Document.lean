import PocketScheme.Yaml.Node
import PocketScheme.Yaml.Token.Lexer

/-!
From tokens to the first document. Reading gives no document at all for a text without content, and
fails for a malformed one. What follows the first document does not matter, as long as the token
behind it can be handed on.

* `Assembly`: the reader of tokens, anchors so far;
* `Document.read`: the first document of a file.
-/

namespace PocketScheme.Yaml

/-- The state of building nodes. -/
structure Assembly where
  lexer : Lexer
  /-- The numbers of the anchors by name, the latest one first. -/
  names : List (String × Nat)
  /-- The finished anchored nodes. -/
  anchors : List (Nat × Node)
  /-- What tag handles stand for. -/
  handles : List (String × Text)

/-- Building fails on malformed documents. -/
abbrev Assembling := StateT Assembly Option

namespace Assembly

/-- The next token. -/
def peek : Assembling Token := fun s => do
  let ((), l) ← Lexer.supply (s.lexer.source.size + 8) s.lexer
  let t ← l.waiting.head?
  return (t, { s with lexer := l })

/-- Moves behind the next token. -/
def skip : Assembling Unit :=
  modify fun s => { s with lexer := s.lexer.handOn }

/-- The document is malformed. -/
def malformed {α : Type} : Assembling α := fun _ => none

/-- The node that stands where nothing is written. -/
def emptyNode (line : Nat) : Node :=
  .scalar .null "" (line + 1)

/-- The tag that a handle and a suffix spell. -/
def expandTag (handle : String) (suffix : Text) : Assembling Text := fun s =>
  if handle.isEmpty then some (suffix, s)
  else match s.handles.lookup handle with
    | some expansion => some (expansion ++ suffix, s)
    | none => none

/-- What may stand in front of a node: a tag and an anchor, in either order. -/
structure Properties where
  tag : Option Text
  anchor : Option String

/-- Reads a tag. -/
def tag? : Assembling (Option Text) := do
  match (← peek).lexeme with
  | .tag handle suffix =>
    skip
    return some (← expandTag handle suffix)
  | _ => return none

/-- Reads an anchor. -/
def anchor? : Assembling (Option String) := do
  match (← peek).lexeme with
  | .anchor name =>
    skip
    return some name
  | _ => return none

/-- Reads the properties of a node. -/
def properties : Assembling Properties := do
  match ← anchor? with
  | some name => return ⟨← tag?, some name⟩
  | none =>
    let tag ← tag?
    match tag with
    | some _ => return ⟨tag, ← anchor?⟩
    | none => return ⟨none, none⟩

/-- Gives an anchor its number, from which on aliases of its name mean it. -/
def enter (anchor : Option String) : Assembling (Option Nat) := fun s =>
  match anchor with
  | some name =>
    let number := s.names.length
    some (some number, { s with names := (name, number) :: s.names })
  | none => some (none, s)

/-- Puts a finished node into the table of anchors. -/
def leave (number : Option Nat) (node : Node) : Assembling Node := fun s =>
  match number with
  | some n => some (node, { s with anchors := (n, node) :: s.anchors })
  | none => some (node, s)

/-- The node that an alias names, by number. -/
def referenceNode (name : String) (line : Nat) : Assembling Node := fun s =>
  (s.names.lookup name).map fun number => (.reference number name (line + 1), s)

/-- The tag of a node: its own, unless it is only `!`, or else the given one. -/
def tagOr (own : Option Text) (default : Tag) : Tag :=
  match own with
  | some text => if text == "!" then default else .ofText text
  | none => default

/-- The tag of a scalar without one of its own. -/
def scalarTag (text : String) (isPlain : Bool) : Tag :=
  if !isPlain then .str else if text == "<<" then .merge else .resolve text

/-- What a token is for the structure around it. -/
def isOneOf (ls : List Lexeme) (t : Token) : Bool :=
  ls.contains t.lexeme

mutual

/-- Reads a node. In block context block structures may follow, and as the value of a mapping a
sequence may stand at the column of its key. -/
def node (fuel : Nat) (inBlock indentless : Bool) : Assembling Node :=
  match fuel with
  | 0 => malformed
  | fuel + 1 => do
    let first ← peek
    match first.lexeme with
    | .reference name =>
      skip
      referenceNode name first.line
    | _ =>
      let line := first.line + 1
      let p ← properties
      let t ← peek
      let number ← enter p.anchor
      match t.lexeme with
      | .scalar text isPlain =>
        skip
        leave number (.scalar (tagOr p.tag (scalarTag text isPlain)) text line)
      | .flowSequenceStart =>
        skip
        let items ← flowItems fuel true
        leave number (.sequence (tagOr p.tag .seq) items line)
      | .flowMappingStart =>
        skip
        let pairs ← flowPairs fuel true
        leave number (.mapping (tagOr p.tag .map) pairs line)
      | lexeme =>
        if indentless && lexeme == .blockEntry then do
          let items ← indentlessItems fuel
          leave number (.sequence (tagOr p.tag .seq) items line)
        else if inBlock && lexeme == .blockSequenceStart then do
          skip
          let items ← blockItems fuel
          leave number (.sequence (tagOr p.tag .seq) items line)
        else if inBlock && lexeme == .blockMappingStart then do
          skip
          let pairs ← blockPairs fuel
          leave number (.mapping (tagOr p.tag .map) pairs line)
        else if p.tag.isSome || p.anchor.isSome then
          leave number (.scalar (tagOr p.tag (scalarTag "" true)) "" line)
        else malformed

/-- The items of a block sequence, up to the token that closes it. -/
def blockItems (fuel : Nat) : Assembling (List Node) :=
  match fuel with
  | 0 => malformed
  | fuel + 1 => do
    let t ← peek
    match t.lexeme with
    | .blockEntry =>
      skip
      let next ← peek
      let item ← if isOneOf [.blockEntry, .blockEnd] next then pure (emptyNode t.line)
        else node fuel true false
      return item :: (← blockItems fuel)
    | .blockEnd =>
      skip
      return []
    | _ => malformed

/-- The items of a sequence at the column of its key, which nothing closes. -/
def indentlessItems (fuel : Nat) : Assembling (List Node) :=
  match fuel with
  | 0 => malformed
  | fuel + 1 => do
    let t ← peek
    match t.lexeme with
    | .blockEntry =>
      skip
      let next ← peek
      let item ← if isOneOf [.blockEntry, .key, .value, .blockEnd] next then
          pure (emptyNode t.line)
        else node fuel true false
      return item :: (← indentlessItems fuel)
    | _ => return []

/-- The pairs of a block mapping, up to the token that closes it. -/
def blockPairs (fuel : Nat) : Assembling (List (Node × Node)) :=
  match fuel with
  | 0 => malformed
  | fuel + 1 => do
    let t ← peek
    match t.lexeme with
    | .key =>
      skip
      let next ← peek
      let key ← if isOneOf [.key, .value, .blockEnd] next then pure (emptyNode t.line)
        else node fuel true true
      let value ← blockValue fuel
      return (key, value) :: (← blockPairs fuel)
    | .blockEnd =>
      skip
      return []
    | _ => malformed

/-- The value of a key in a block mapping. -/
def blockValue (fuel : Nat) : Assembling Node :=
  match fuel with
  | 0 => malformed
  | fuel + 1 => do
    let t ← peek
    match t.lexeme with
    | .value =>
      skip
      let next ← peek
      if isOneOf [.key, .value, .blockEnd] next then return emptyNode t.line
      else node fuel true true
    | _ => return emptyNode t.line

/-- The items of a sequence in brackets, up to the closing one. -/
def flowItems (fuel : Nat) (first : Bool) : Assembling (List Node) :=
  match fuel with
  | 0 => malformed
  | fuel + 1 => do
    let t ← peek
    if t.lexeme == .flowSequenceEnd then
      skip
      return []
    else
      if !first then
        if t.lexeme == .flowEntry then skip else malformed
      let t ← peek
      match t.lexeme with
      | .flowSequenceEnd =>
        skip
        return []
      | .key =>
        skip
        let pair ← flowPair fuel t.line
        return pair :: (← flowItems fuel false)
      | _ =>
        let item ← node fuel false false
        return item :: (← flowItems fuel false)

/-- A single pair among the items of a sequence in brackets. -/
def flowPair (fuel : Nat) (line : Nat) : Assembling Node :=
  match fuel with
  | 0 => malformed
  | fuel + 1 => do
    let t ← peek
    let key ← if isOneOf [.value, .flowEntry, .flowSequenceEnd] t then do
        skip
        pure (emptyNode t.line)
      else node fuel false false
    let value ← flowValue fuel [.flowEntry, .flowSequenceEnd]
    return .mapping .map [(key, value)] (line + 1)

/-- The value of a key inside brackets, which ends in front of the given tokens. -/
def flowValue (fuel : Nat) (ends : List Lexeme) : Assembling Node :=
  match fuel with
  | 0 => malformed
  | fuel + 1 => do
    let t ← peek
    if t.lexeme == .value then
      skip
      let next ← peek
      if isOneOf ends next then return emptyNode next.line
      else node fuel false false
    else return emptyNode t.line

/-- The pairs of a mapping in brackets, up to the closing one. -/
def flowPairs (fuel : Nat) (first : Bool) : Assembling (List (Node × Node)) :=
  match fuel with
  | 0 => malformed
  | fuel + 1 => do
    let t ← peek
    if t.lexeme == .flowMappingEnd then
      skip
      return []
    else
      if !first then
        if t.lexeme == .flowEntry then skip else malformed
      let t ← peek
      match t.lexeme with
      | .flowMappingEnd =>
        skip
        return []
      | .key =>
        skip
        let next ← peek
        let key ← if isOneOf [.value, .flowEntry, .flowMappingEnd] next then
            pure (emptyNode next.line)
          else node fuel false false
        let value ← flowValue fuel [.flowEntry, .flowMappingEnd]
        return (key, value) :: (← flowPairs fuel false)
      | _ =>
        let key ← node fuel false false
        let next ← peek
        return (key, emptyNode next.line) :: (← flowPairs fuel false)

end

/-! ### Documents -/

/-- The handles that need no directive. -/
def standardHandles : List (String × Text) :=
  [("!", "!"), ("!!", Tag.standard)]

/-- Reads directives: at most one version, which is 1.1, and each handle at most once. -/
def directives (fuel : Nat) (versioned : Bool) (handles : List (String × Text)) :
    Assembling (List (String × Text)) :=
  match fuel with
  | 0 => malformed
  | fuel + 1 => do
    match (← peek).lexeme with
    | .version major minor =>
      if versioned || major != 1 || minor != 1 then malformed
      else
        skip
        directives fuel true handles
    | .tagHandle handle expansion =>
      if (handles.lookup handle).isSome then malformed
      else
        skip
        directives fuel versioned ((handle, expansion) :: handles)
    | _ => return handles

/-- Reads the first document, if there is one. -/
def document (fuel : Nat) : Assembling (Option Node) := do
  let t ← peek
  match t.lexeme with
  | .streamEnd => return none
  | .version _ _ | .tagHandle _ _ | .documentStart =>
    let handles ← directives fuel false []
    modify fun s => { s with handles := handles ++ standardHandles }
    let t ← peek
    if t.lexeme != .documentStart then malformed
    else
      skip
      let next ← peek
      let root ← match next.lexeme with
        | .version _ _ | .tagHandle _ _ | .documentStart | .documentEnd | .streamEnd =>
          pure (emptyNode next.line)
        | _ => node fuel true false
      let _ ← peek
      return some root
  | _ =>
    let root ← node fuel true false
    let _ ← peek
    return some root

end Assembly

/-- What a file holds. -/
inductive Content where
  | malformed
  | empty
  | document (d : Document)

/-- The first document of a file. -/
def Document.read (bytes : Text.Bytes) : Content :=
  let lexer := Lexer.start (.ofBytes bytes)
  let start : Assembly := ⟨lexer, [], [], Assembly.standardHandles⟩
  match Assembly.document (16 * lexer.source.size + 64) start with
  | none => .malformed
  | some (none, _) => .empty
  | some (some root, s) => .document ⟨root, s.anchors⟩

end PocketScheme.Yaml

import PocketScheme.Yaml.Node
import PocketScheme.Yaml.Value
import PocketScheme.Number.Printer
import PocketScheme.Text.Base64
import PocketScheme.Text.Quoted

/-!
Reading values of a program out of a document. What does not fit is an issue; issues are collected,
and reading goes on without the value. A value that cannot be read at all ends the reading, and so
do aliases that make a small document a large one.

A mapping may merge others, whose pairs count unless their key is taken. For that the keys of the
mapping are read once more, each as the value that it is on its own; none of them may be a
collection.

* `Issue`: what does not fit, with its line;
* `Decoding`: computations that collect issues;
* `decodeValue`: a node as what it is on its own;
* `decodeString`, `decodeRecord`, `decodeRecords`: a string, a mapping with named fields, and a
  sequence of such mappings;
* `decodeRoot`: a whole document.
-/

namespace PocketScheme.Yaml

/-! ### Issues -/

/-- Something in a document that does not fit. -/
inductive Issue where
  /-- A node of the wrong kind. -/
  | mismatch (line : Nat) (tag : Tag) (text : String) (expected : String)
  /-- A key that is there twice. -/
  | duplicateKey (line : Nat) (key : String) (first : Nat)
  /-- A field that is set twice, under keys that are spelled differently. -/
  | repeatedField (line : Nat) (field : Text) (type : String)
  /-- A field that does not exist. -/
  | unknownField (line : Nat) (field : Text) (type : String)

namespace Issue

/-- How a scalar of the wrong kind is shown: more than ten bytes are cut to seven. -/
def shorten (text : Text) : Text :=
  if 10 < text.bytes.length then .ofBytes (text.bytes.take 7) ++ "..." else text

/-- The text of an issue. -/
def message : Issue → Text
  | mismatch line tag text expected =>
    let shown : Text := if tag == .seq || tag == .map then text else " `" ++ shorten text ++ "`"
    "line " ++ Number.natText line ++ ": cannot unmarshal " ++ tag.render ++ shown ++ " into " ++
      expected
  | duplicateKey line key first =>
    "line " ++ Number.natText line ++ ": mapping key " ++ Text.quote key ++
      " already defined at line " ++
      Number.natText first
  | repeatedField line field type =>
    "line " ++ Number.natText line ++ ": field " ++ field ++ " already set in type " ++ type
  | unknownField line field type =>
    "line " ++ Number.natText line ++ ": field " ++ field ++ " not found in type " ++ type

end Issue

/-- Why a document could not be read: it is malformed, it holds binary data that is not in base 64,
a collection is a key where keys are compared, it does not fit, or a reader of a part of it refused
it for a reason of its own. -/
inductive Refusal (ε : Type) where
  | malformed
  | badBinary
  | incomparable (type : String)
  | mismatched (issues : List Issue)
  | custom (reason : ε)

namespace Refusal

/-- The text of a malformed document. -/
def malformedText : String := "yaml: syntax error"

/-- The text of binary data that is not in base 64. -/
def binaryText : String := "yaml: !!binary value contains invalid base64 data"

/-- The text of a collection that is a key. -/
def incomparableText (type : String) : String := "runtime error: hash of unhashable type " ++ type

/-- The text of collected issues. -/
def issuesText (issues : List Issue) : Text :=
  "yaml: unmarshal errors:" ++ Text.join (issues.map fun i => "\n  " ++ i.message)

/-- The text of a refusal. -/
def message {ε : Type} (reason : ε → Text) : Refusal ε → Text
  | malformed => malformedText
  | badBinary => binaryText
  | incomparable type => incomparableText type
  | mismatched issues => issuesText issues
  | custom e => reason e

end Refusal

/-! ### Decoding -/

/-- What ends a decoding at once. -/
inductive Abort (ε : Type) where
  | malformed
  | badBinary
  | incomparable (type : String)
  | custom (reason : ε)

/-- What a decoding keeps. -/
structure Tally where
  issues : List Issue
  /-- The number of nodes that were visited. -/
  visits : Nat
  /-- The number of those that were visited through an alias. -/
  aliased : Nat
  /-- The number of aliases around the present node. -/
  depth : Nat
  /-- Inside a merge, the keys that are taken. -/
  taken : Option (List Value)

namespace Tally

/-- Nothing is read yet. -/
def start : Tally := ⟨[], 0, 0, 0, none⟩

/-- Too much of a document comes from aliases: more than 99 of 100 visits, from 400,000 visits on
fewer and fewer, down to 10 of 100 at 4,000,000. Small documents may do as they like. -/
def isExcessive (t : Tally) : Bool :=
  let range := 3600000
  let beyond := min (t.visits - 400000) range
  100 < t.aliased && 1000 < t.visits &&
    t.visits * (99 * range - 89 * beyond) < t.aliased * (100 * range)

/-- The tally after a visit. -/
def visit (t : Tally) : Tally :=
  { t with visits := t.visits + 1, aliased := if 0 < t.depth then t.aliased + 1 else t.aliased }

end Tally

/-- Computations that collect issues and may end at once. -/
abbrev Decoding (ε : Type) := StateT Tally (Except (Abort ε))

namespace Decoding

variable {ε α : Type}

/-- Adds issues to those collected. -/
def report (issues : List Issue) : Decoding ε Unit :=
  modify fun t => { t with issues := t.issues ++ issues }

/-- Ends the decoding because the document is malformed. -/
def malformed : Decoding ε α :=
  throw .malformed

/-- Ends the decoding because of binary data that is not in base 64. -/
def badBinary : Decoding ε α :=
  throw .badBinary

/-- Ends the decoding because a collection of the given type is a key. -/
def incomparable (type : String) : Decoding ε α :=
  throw (.incomparable type)

/-- Ends the decoding for a reason of its own. -/
def refuse (reason : ε) : Decoding ε α :=
  throw (.custom reason)

/-- Counts a visit. -/
def visit : Decoding ε Unit := do
  modify Tally.visit
  if (← get).isExcessive then malformed

/-- Visits a node, or the one that it names, and reads that. -/
def visiting (d : Document) (node : Node) (read : Node → Decoding ε α) : Decoding ε α := do
  visit
  match node with
  | .reference _ _ _ =>
    modify fun t => { t with depth := t.depth + 1 }
    visit
    let a ← read (d.target node)
    modify fun t => { t with depth := t.depth - 1 }
    return a
  | node => read node

/-- Says which keys are taken. -/
def setTaken (taken : Option (List Value)) : Decoding ε Unit :=
  modify fun t => { t with taken := taken }

/-- Reads something to which the taken keys mean nothing. -/
def untaken (x : Decoding ε α) : Decoding ε α := do
  let taken := (← get).taken
  setTaken none
  let a ← x
  setTaken taken
  return a

/-- Takes a key, and says whether it was free. Outside merges every key is. -/
def takeKey (key : Value) : Decoding ε Bool := do
  match (← get).taken with
  | none => return true
  | some taken =>
    match key.collection? with
    | some type => incomparable type
    | none =>
      if taken.any key.isSame then return false
      else
        setTaken (some (key :: taken))
        return true

/-- The value of a decoding without issues. -/
def result (x : Decoding ε α) : Except (Refusal ε) α :=
  match x.run .start with
  | .error .malformed => .error .malformed
  | .error .badBinary => .error .badBinary
  | .error (.incomparable type) => .error (.incomparable type)
  | .error (.custom e) => .error (.custom e)
  | .ok (a, t) => if t.issues.isEmpty then .ok a else .error (.mismatched t.issues)

end Decoding

open Decoding

variable {ε σ : Type}

/-- The keys that repeat an earlier one, each with every earlier one. -/
def duplicates : List (Node × Node) → List Issue
  | [] => []
  | (k, _) :: pairs =>
    (pairs.filter (fun p => k.sameKey p.1)).map
      (fun p => .duplicateKey p.1.line p.1.keyText k.line) ++ duplicates pairs

/-- Reports that a collection stands where something else is expected; a mapping with repeated keys
is reported for these instead. -/
def reportCollection (expected : String) : Node → Decoding ε Unit
  | .sequence tag _ line => report [.mismatch line tag "" expected]
  | .mapping tag pairs line =>
    let repeated := duplicates pairs
    report (if repeated.isEmpty then [.mismatch line tag "" expected] else repeated)
  | _ => pure ()

/-- The value of a scalar. -/
def scalarValue (tag : Tag) (text : String) : Decoding ε Value :=
  if !tag.accepts text then malformed
  else match tag with
    | .binary =>
      match Text.Base64.decode? text with
      | some bytes => return .text (.ofBytes bytes)
      | none => badBinary
    | _ => return .ofScalar tag text

/-- The string of a scalar, whatever its kind: its text, or the bytes that it spells; a null is
none. -/
def scalarString (tag : Tag) (text : String) : Decoding ε (Option Text) := do
  match ← scalarValue tag text with
  | .null => return none
  | .text t => return some t
  | _ => return some text

/-- Reports that a scalar stands where something else is expected, unless it is null. -/
def reportScalar (tag : Tag) (text : String) (line : Nat) (expected : String) :
    Decoding ε Unit := do
  match ← scalarString tag text with
  | some _ => report [.mismatch line tag text expected]
  | none => return ()

/-- A node as a string. -/
def decodeString (d : Document) (node : Node) : Decoding ε (Option Text) :=
  visiting d node fun
    | .scalar tag text _ => scalarString tag text
    | other => do
      reportCollection "string" other
      return none

/-- A node as a string, the empty one for null. -/
def decodeText (d : Document) (node : Node) : Decoding ε Text :=
  (·.getD "") <$> decodeString d node

/-! ### Merges -/

/-- The key asks for the pairs of another mapping. -/
def isMerge : Node → Bool
  | .scalar .merge text _ => text == "<<"
  | _ => false

/-- The nodes that a merge asks for: a node, or those of a sequence. -/
def mergeSources : Node → List Node
  | .sequence _ items _ => items
  | node => [node]

/-- Everything that a merge asks for in a mapping. -/
def sourcesOf (pairs : List (Node × Node)) : List Node :=
  match pairs.find? (fun p => isMerge p.1) with
  | some (_, source) => mergeSources source
  | none => []

/-- The mapping asks for a merge. -/
def hasMerge (pairs : List (Node × Node)) : Bool :=
  pairs.any fun p => isMerge p.1

/-- The node is a mapping, or an alias of one. -/
def isMapping (d : Document) (node : Node) : Bool :=
  match d.target node with
  | .mapping _ _ _ => true
  | _ => false

/-- Reads the sources of a merge one after the other. All of them have to be mappings. -/
def readSources {σ : Type} (d : Document) (read : Node → σ → Decoding ε σ) :
    List Node → σ → Decoding ε σ
  | [], a => return a
  | node :: nodes, a => do
    if !isMapping d node then malformed
    else
      let a ← read node a
      readSources d read nodes a

/-- Takes the keys of a mapping, each read by `read`. -/
def takeKeys (read : Node → Decoding ε (Option Value)) :
    List (Node × Node) → Decoding ε Unit
  | [] => return ()
  | (key, _) :: pairs => do
    match ← read key with
    | some value => let _ ← takeKey value
    | none => pure ()
    takeKeys read pairs

/-- Reads what a mapping merges. Outside other merges its own keys are taken then, the merge itself
among them. -/
def merging {σ : Type} (d : Document) (readKey : Node → Decoding ε (Option Value))
    (read : Node → σ → Decoding ε σ) (pairs : List (Node × Node)) (a : σ) : Decoding ε σ := do
  if !hasMerge pairs then return a
  else
    let outer := (← get).taken
    if outer.isNone then
      setTaken (some [])
      takeKeys readKey pairs
    let a ← readSources d read (sourcesOf pairs) a
    if outer.isNone then setTaken none
    return a

/-! ### Values -/

/-- All keys of a mapping are strings, merges apart. -/
def isTextual (d : Document) (pairs : List (Node × Node)) : Bool :=
  pairs.all fun p => d.tagOf p.1 == .str || d.tagOf p.1 == .merge

/-- The key of a pair, by `read` or, if all keys are strings, as one. -/
def decodeKey (d : Document) (textual : Bool) (read : Node → Decoding ε (Option Value))
    (key : Node) : Decoding ε (Option Value) :=
  untaken <|
    if textual then (Option.map Value.text) <$> decodeString d key else read key

/-- Reads the pairs of a mapping by `read`, merges apart. A collection is no key. -/
def decodeEntries (d : Document) (textual : Bool) (read : Node → Decoding ε (Option Value)) :
    List (Node × Node) → Decoding ε Unit
  | [] => return ()
  | (key, value) :: pairs => do
    if !isMerge key then
      match ← decodeKey d textual read key with
      | none => pure ()
      | some k =>
        if ← takeKey k then
          if k.collection?.isSome then malformed
          else let _ ← untaken (read value)
    decodeEntries d textual read pairs

mutual

/-- A node as what it is on its own; nothing for a mapping with repeated keys. An alias of a node
around it has no end, so that any `fuel` runs out then. -/
def decodeValue (d : Document) (fuel : Nat) (node : Node) : Decoding ε (Option Value) :=
  match fuel with
  | 0 => malformed
  | fuel + 1 =>
    visiting d node fun
      | .scalar tag text _ => some <$> scalarValue tag text
      | .sequence _ items _ => do
        items.forM fun item => do
          let _ ← decodeValue d fuel item
        return some .sequence
      | .mapping _ pairs _ => do
        let textual := isTextual d pairs
        let good ← decodeMap d fuel textual pairs
        return if good then some (.mapping textual) else none
      | .reference _ _ _ => malformed

/-- Reads the pairs of a mapping, and then those that it merges, where the keys stay of one kind.
Says whether no keys are repeated. -/
def decodeMap (d : Document) (fuel : Nat) (textual : Bool) (pairs : List (Node × Node)) :
    Decoding ε Bool :=
  match fuel with
  | 0 => malformed
  | fuel + 1 => do
    let repeated := duplicates pairs
    if !repeated.isEmpty then
      report repeated
      return false
    else
      decodeEntries d textual (decodeValue d fuel) pairs
      let source (node : Node) (_ : Unit) : Decoding ε Unit :=
        visiting d node fun
          | .mapping _ pairs _ => do
            let _ ← decodeMap d fuel textual pairs
          | _ => malformed
      merging d (decodeValue d fuel) source pairs ()
      return true

end

/-- Enough fuel for the values of a document that have an end. -/
def valueFuel (d : Document) : Nat :=
  2 * d.size + 2

/-! ### Records -/

/-- How a mapping is read into a record: the name of its type, whether other fields are refused,
whether a field is set at most once, how the value of a field changes the record, and how a mapping
that is merged does, if not by its fields. -/
structure Shape (ε σ : Type) where
  type : String
  strict : Bool
  once : Bool := true
  field? : Text → Option (Node → σ → Decoding ε σ)
  whole? : Option (Node → σ → Decoding ε σ) := none

/-- A record being read, and its fields that are set. -/
structure Progress (σ : Type) where
  record : σ
  fields : List Text

/-- Reads the value of a field into a record. -/
def decodeField (shape : Shape ε σ) (line : Nat) (name : Text) (value : Node) (p : Progress σ) :
    Decoding ε (Progress σ) := do
  match shape.field? name with
  | some read =>
    if shape.once && p.fields.contains name then
      report [.repeatedField line name shape.type]
      return p
    else
      let record ← untaken (read value p.record)
      return ⟨record, name :: p.fields⟩
  | none =>
    if shape.strict then report [.unknownField line name shape.type]
    return p

/-- Reads pairs into a record, merges and taken keys apart. -/
def decodePairs (d : Document) (shape : Shape ε σ) :
    List (Node × Node) → Progress σ → Decoding ε (Progress σ)
  | [], p => return p
  | (key, value) :: pairs, p => do
    if isMerge key then decodePairs d shape pairs p
    else
      match ← decodeString d key with
      | none => decodePairs d shape pairs p
      | some name =>
        let free ← takeKey (.text name)
        let p ← if free then decodeField shape key.line name value p else pure p
        decodePairs d shape pairs p

/-- Reads the pairs of a mapping into a record, and then those of the mappings that it merges. A
chain of merges that is longer than the document comes back to itself. -/
def decodeMapping (d : Document) (shape : Shape ε σ) :
    Nat → List (Node × Node) → σ → Decoding ε σ
  | 0, _, _ => malformed
  | fuel + 1, pairs, record => do
    let repeated := duplicates pairs
    if !repeated.isEmpty then
      report repeated
      return record
    else
      let p ← decodePairs d shape pairs ⟨record, []⟩
      let source (node : Node) (record : σ) : Decoding ε σ :=
        visiting d node fun target =>
          match target, shape.whole? with
          | .mapping .null pairs _, _ | .mapping _ pairs _, none =>
            decodeMapping d shape fuel pairs record
          | target, some read => read target record
          | _, none => malformed
      merging d (decodeValue d (valueFuel d)) source pairs p.record

/-- Reads a node into a record, and says whether it was a mapping without repeated keys. Null leaves
the record as it is. -/
def decodeRecord (d : Document) (shape : Shape ε σ) (node : Node) (record : σ) :
    Decoding ε (σ × Bool) :=
  visiting d node fun
    | .scalar tag text line => do
      reportScalar tag text line shape.type
      return (record, false)
    | .mapping _ pairs _ => do
      let record ← decodeMapping d shape (d.size + 1) pairs record
      return (record, (duplicates pairs).isEmpty)
    | other => do
      reportCollection shape.type other
      return (record, false)

/-- Reads a sequence of records; what is no record does not count. -/
def decodeRecords (d : Document) (shape : Shape ε σ) (initial : σ) (node : Node) :
    Decoding ε (List σ) :=
  let type := "[]" ++ shape.type
  visiting d node fun
    | .scalar tag text line => do
      reportScalar tag text line type
      return []
    | .sequence _ items _ => do
      let read ← items.mapM fun item => decodeRecord d shape item initial
      return (read.filter (·.2)).map (·.1)
    | other => do
      reportCollection type other
      return []

/-- Reads a document into a record. -/
def decodeRoot (d : Document) (shape : Shape ε σ) (record : σ) : Decoding ε σ := do
  visit
  let (record, _) ← decodeRecord d shape d.root record
  return record

end PocketScheme.Yaml

import Courier.Yaml.Node
import Courier.Yaml.Tokens

/-!
# From tokens to documents

The tokens of a document become its tree. A node may have an anchor and a tag in front of it; a
node that is left out is a scalar without text. Anchors are numbered by the count of the anchor
names in use when the node begins, and of the nodes with one number the last to begin counts.
-/

namespace Courier.Yaml

/-- How far tokens have become nodes. -/
structure Build where
  tokens : List PlacedToken
  /-- The number of every anchor name. -/
  names : List (String × Nat)
  /-- The nodes of anchors: the number, how much preceded the node, and the node. -/
  marked : List (Nat × Nat × Node)
  /-- The number of scalars, aliases and ends of sequences and mappings so far. -/
  size : Nat
  /-- The handles of tags. -/
  handles : List (String × Tag)
  /-- Where the text is malformed, once this is reached. -/
  flaw : Option Flaw

namespace Build

/-- A node, or another part of a document, and how far the tokens have become nodes. -/
abbrev Step (α : Type) := Build → α × Build

/-- The flaw at which the tokens end. -/
def endFlaw (tokensFlaw : Option Flaw) : Flaw := tokensFlaw.getD ⟨.nodeContent, ⟨0, 0⟩⟩

/-- Break off at a flaw. -/
def breakAt (flaw : Flaw) (b : Build) : Node × Build :=
  (.broken flaw, { b with flaw := some flaw, tokens := [] })

/-- Count something more. -/
def count (b : Build) : Build := { b with size := b.size + 1 }

/-- Pass the next token. -/
def pop (b : Build) : Build := { b with tokens := b.tokens.tail }

/-- The next token, if there is one. -/
def peek (b : Build) : Option Token := b.tokens.head?.map Prod.fst

/-- A flaw at the next token, or the one at which the tokens end. -/
def flawHere (tokensFlaw : Option Flaw) (what : Malformed) (b : Build) : Flaw :=
  match b.tokens with
  | [] => endFlaw tokensFlaw
  | (_, place) :: _ => ⟨what, place⟩

/-- Break off because of the next token, or because there is none. -/
def breakHere (tokensFlaw : Option Flaw) (what : Malformed) (b : Build) : Node × Build :=
  breakAt (b.flawHere tokensFlaw what) b

/-! ## Anchors and tags -/

/-- What stands in front of a node. -/
structure Properties where
  anchor : Option String
  /-- The handle and the text of the tag. -/
  tag : Option (String × Tag)

/-- Pass the anchor and the tag in front of a node. -/
def properties (b : Build) : Properties × Build :=
  match b.tokens with
  | (.anchor name, _) :: (.tag handle suffix, _) :: rest =>
    (⟨some name, some (handle, suffix)⟩, { b with tokens := rest })
  | (.tag handle suffix, _) :: (.anchor name, _) :: rest =>
    (⟨some name, some (handle, suffix)⟩, { b with tokens := rest })
  | (.anchor name, _) :: rest => (⟨some name, none⟩, { b with tokens := rest })
  | (.tag handle suffix, _) :: rest => (⟨none, some (handle, suffix)⟩, { b with tokens := rest })
  | _ => (⟨none, none⟩, b)

/-- A tag with its handle replaced; `none` if the handle is not declared. -/
def resolveTag (b : Build) : String × Tag → Option Tag
  | ("", suffix) => some suffix
  | (handle, suffix) => (b.handles.lookup handle).map (·.append suffix)

/-- Number an anchor whose node begins. -/
def beginNode (anchor : Option String) (b : Build) : Option (Nat × Nat) × Build :=
  match anchor with
  | none => (none, b)
  | some name =>
    let number := b.names.length
    (some (number, b.size),
      { b with names := (name, number) :: b.names.filter fun entry => entry.1 ≠ name })

/-- Note the node of an anchor. -/
def endNode (mark : Option (Nat × Nat)) (node : Node) (b : Build) : Node × Build :=
  match mark with
  | none => (node, b)
  | some (number, start) => (node, { b with marked := (number, start, node) :: b.marked })

/-- A scalar node. -/
def finishScalar (anchor : Option String) (node : Node) (b : Build) : Node × Build :=
  let (mark, b) := beginNode anchor b
  endNode mark node b.count

/-- A node that is left out. -/
def leftOut (b : Build) : Node × Build := (Node.blank, b.count)

/-! ## Nodes -/

/-- Whether the next token is one of some tokens. -/
def next (b : Build) (these : List Token) : Bool := b.peek.any these.contains

/-- Whether there is no next token. -/
def atEnd (b : Build) : Bool := b.tokens.isEmpty

mutual

/--
A node. `block` allows blocks, and `indentless` items that are not indented further than the key
in front of them.
-/
def node (tf : Option Flaw) (block indentless : Bool) : Nat → Step Node
  | 0, b => breakHere tf .nodeContent b
  | fuel + 1, b =>
    match b.tokens with
    | [] => breakHere tf .nodeContent b
    | (.alias name, place) :: _ =>
      match b.names.lookup name with
      | some number => (.alias number, b.pop.count)
      | none => breakAt ⟨.unknownAnchor, place⟩ b
    | _ =>
      let start := b
      let (properties, b) := properties b
      match properties.tag.map (resolveTag b) with
      | some none =>
        if b.atEnd then breakHere tf .nodeContent b
        else breakHere tf .undefinedTagHandle start
      | tag =>
        let tag := tag.join
        let collection (toNode : List Node → Node) (read : Step (List Node)) : Node × Build :=
          let (mark, b) := beginNode properties.anchor b
          let (items, b) := read b.count
          endNode mark (toNode items) b
        let mapping (read : Step (List (Node × Node))) : Node × Build :=
          let (mark, b) := beginNode properties.anchor b
          let (entries, b) := read b.count
          endNode mark (.mapping tag entries) b
        match b.tokens with
        | [] => breakHere tf .nodeContent b
        | (.scalar style text, _) :: _ =>
          finishScalar properties.anchor (.scalar tag style text) b.pop
        | (.flowSequenceStart, _) :: _ =>
          collection (.sequence tag) fun b => flowItems tf true fuel b.pop
        | (.flowMappingStart, _) :: _ => mapping fun b => flowEntries tf true fuel b.pop
        | (token, _) :: _ =>
          if indentless && token = .blockEntry then
            collection (.sequence tag) fun b => indentlessItems tf fuel b
          else if block && token = .blockSequenceStart then
            collection (.sequence tag) fun b => blockItems tf fuel b.pop
          else if block && token = .blockMappingStart then
            mapping fun b => blockEntries tf fuel b.pop
          else if properties.anchor.isSome || tag.isSome then
            finishScalar properties.anchor (.scalar tag .plain "") b
          else breakHere tf .nodeContent b

/-- The node in front of one of some tokens, or nothing if it is left out. -/
def nodeBefore (tf : Option Flaw) (block indentless : Bool) (ends : List Token) :
    Nat → Step Node
  | 0, b => breakHere tf .nodeContent b
  | fuel + 1, b =>
    if b.atEnd then breakHere tf .nodeContent b
    else if b.next ends then leftOut b
    else node tf block indentless fuel b

/-- The items of an indented block. -/
def blockItems (tf : Option Flaw) : Nat → Step (List Node)
  | 0, b => ([], b)
  | fuel + 1, b =>
    match b.peek with
    | some .blockEntry =>
      let (item, b) := nodeBefore tf true false [.blockEntry, .blockEnd] fuel b.pop
      if b.flaw.isSome then ([item], b)
      else
        let (items, b) := blockItems tf fuel b
        (item :: items, b)
    | some .blockEnd => ([], b.pop.count)
    | _ =>
      let (broken, b) := breakHere tf .blockEntry b
      ([broken], b)

/-- The items of a block that is not indented. -/
def indentlessItems (tf : Option Flaw) : Nat → Step (List Node)
  | 0, b => ([], b)
  | fuel + 1, b =>
    match b.peek with
    | some .blockEntry =>
      let (item, b) := nodeBefore tf true false [.blockEntry, .key, .value, .blockEnd] fuel b.pop
      if b.flaw.isSome then ([item], b)
      else
        let (items, b) := indentlessItems tf fuel b
        (item :: items, b)
    | some _ => ([], b.count)
    | none =>
      let (broken, b) := breakHere tf .blockEntry b
      ([broken], b)

/-- The entries of a block. -/
def blockEntries (tf : Option Flaw) : Nat → Step (List (Node × Node))
  | 0, b => ([], b)
  | fuel + 1, b =>
    match b.peek with
    | some .key =>
      let (key, b) := nodeBefore tf true true [.key, .value, .blockEnd] fuel b.pop
      let (value, b) :=
        if b.flaw.isSome then (key, b)
        else if b.atEnd then breakHere tf .nodeContent b
        else if b.next [.value] then
          nodeBefore tf true true [.key, .value, .blockEnd] fuel b.pop
        else leftOut b
      if b.flaw.isSome then ([(key, value)], b)
      else
        let (entries, b) := blockEntries tf fuel b
        ((key, value) :: entries, b)
    | some .blockEnd => ([], b.pop.count)
    | _ =>
      let (broken, b) := breakHere tf .blockKey b
      ([(broken, broken)], b)

/-- The value of an entry inside brackets, which may be left out. -/
def flowValue (tf : Option Flaw) (close : Token) : Nat → Step Node
  | 0, b => breakHere tf .nodeContent b
  | fuel + 1, b =>
    if b.atEnd then breakHere tf .nodeContent b
    else if b.next [.value] then
      nodeBefore tf false false [.flowEntry, close] fuel b.pop
    else leftOut b

/-- An item of a bracketed sequence that is a mapping of one entry. -/
def singleEntry (tf : Option Flaw) : Nat → Step Node
  | 0, b => breakHere tf .nodeContent b
  | fuel + 1, b =>
    let (key, b) :=
      if b.atEnd then breakHere tf .nodeContent b
      else if b.next [.value, .flowEntry, .flowSequenceEnd] then leftOut b.pop
      else node tf false false fuel b
    if b.flaw.isSome then (.mapping none [(key, key)], b)
    else
      let (value, b) := flowValue tf .flowSequenceEnd fuel b
      if b.flaw.isSome then (.mapping none [(key, value)], b)
      else if b.atEnd then
        let (broken, b) := breakHere tf .nodeContent b
        (.mapping none [(key, value), (broken, broken)], b)
      else (.mapping none [(key, value)], b.count)

/-- The items of a bracketed sequence. -/
def flowItems (tf : Option Flaw) (first : Bool) : Nat → Step (List Node)
  | 0, b => ([], b)
  | fuel + 1, b =>
    let separated := first || b.next [.flowEntry]
    let b' := if !first && b.next [.flowEntry] then b.pop else b
    if b.next [.flowSequenceEnd] || (separated && b'.next [.flowSequenceEnd]) then
      ([], b'.pop.count)
    else if b.atEnd || b'.atEnd || !separated then
      let (broken, b) := breakHere tf .flowSequenceEnd b'
      ([broken], b)
    else
      let (item, b) :=
        if b'.next [.key] then singleEntry tf fuel b'.pop.count
        else node tf false false fuel b'
      if b.flaw.isSome then ([item], b)
      else
        let (items, b) := flowItems tf false fuel b
        (item :: items, b)

/-- The entries of a bracketed mapping. -/
def flowEntries (tf : Option Flaw) (first : Bool) : Nat → Step (List (Node × Node))
  | 0, b => ([], b)
  | fuel + 1, b =>
    let separated := first || b.next [.flowEntry]
    let b' := if !first && b.next [.flowEntry] then b.pop else b
    if b.next [.flowMappingEnd] || (separated && b'.next [.flowMappingEnd]) then
      ([], b'.pop.count)
    else if b.atEnd || b'.atEnd || !separated then
      let (broken, b) := breakHere tf .flowMappingEnd b'
      ([(broken, broken)], b)
    else
      let (key, value, b) :=
        if b'.next [.key] then
          let (key, b) :=
            nodeBefore tf false false [.value, .flowEntry, .flowMappingEnd] fuel b'.pop
          if b.flaw.isSome then (key, key, b)
          else
            let (value, b) := flowValue tf .flowMappingEnd fuel b
            (key, value, b)
        else
          let (key, b) := node tf false false fuel b'
          if b.flaw.isSome then (key, key, b)
          else if b.atEnd then
            let (broken, b) := breakHere tf .nodeContent b
            (key, broken, b)
          else
            let (value, b) := leftOut b
            (key, value, b)
      if b.flaw.isSome then ([(key, value)], b)
      else
        let (entries, b) := flowEntries tf false fuel b
        ((key, value) :: entries, b)

end

/-! ## Directives -/

/-- The handles that need not be declared. -/
def defaultHandles : List (String × Tag) := [("!", Tag.mark), ("!!", Tag.core "")]

/-- Take in the directives in front of a document. -/
def directives (seenVersion : Bool) (handles : List (String × Tag)) :
    List PlacedToken → Except Flaw (List (String × Tag) × List PlacedToken)
  | (.version major minor, place) :: rest =>
    if seenVersion then .error ⟨.repeatedVersion, place⟩
    else if major ≠ 1 || (minor ≠ 1 && minor ≠ 2) then .error ⟨.unsupportedVersion, place⟩
    else directives true handles rest
  | (.tagHandle handle stem, place) :: rest =>
    if (handles.lookup handle).isSome then .error ⟨.repeatedTagHandle, place⟩
    else directives seenVersion ((handle, stem) :: handles) rest
  | rest => .ok (handles, rest)

/-- Whether a token can only stand between documents. -/
def isBetween : Token → Bool
  | .version _ _ | .tagHandle _ _ | .documentStart | .documentEnd | .textEnd => true
  | _ => false

/-- The root of the first document. -/
def root (tf : Option Flaw) : Step Node := fun b =>
  let whole (b : Build) : Node × Build := node tf true false (2 * b.tokens.length + 4) b
  match b.tokens with
  | [] => breakHere tf .nodeContent b
  | (.textEnd, _) :: _ => (Node.blank, b)
  | (token, _) :: _ =>
    if isBetween token && token ≠ .documentEnd then
      match directives false [] b.tokens with
      | .error flaw => breakAt flaw b
      | .ok (handles, tokens) =>
        let b := { b with tokens, handles := handles ++ defaultHandles }
        match tokens with
        | (.documentStart, _) :: rest =>
          let b := { b with tokens := rest }
          if b.atEnd then breakHere tf .nodeContent b
          else if b.peek.any isBetween then leftOut b
          else whole b
        | _ => breakHere tf .documentStart b
    else whole { b with handles := defaultHandles }

/-- What follows a document. -/
def conclusion (tf : Option Flaw) (b : Build) : Conclusion :=
  match b.flaw, b.tokens with
  | some flaw, _ => .broken flaw
  | none, [] => .broken (endFlaw tf)
  | none, tokens =>
    match tokens.dropWhile fun token => token.1 = .documentEnd with
    | (.textEnd, _) :: _ => .textEnd
    | _ => .anotherDocument

/-- Whether one node of an anchor begins after another one, or is the same. -/
def beginsAfter (a b : Nat × Nat × Node) : Bool := b.2.1 ≤ a.2.1

end Build

/-- The first document of a text. -/
def Document.read (text : String) : Document :=
  let (tokens, tf) := tokens text
  let (root, b) := Build.root tf ⟨tokens, [], [], 0, [], none⟩
  let anchors := (b.marked.mergeSort Build.beginsAfter).map fun (number, _, node) => (number, node)
  ⟨root, anchors, b.size, b.conclusion tf⟩

end Courier.Yaml

import LogSift.Yaml.Token

/-!
The nodes of a YAML document, and their reading from tokens. Anchors are numbered; an alias keeps
the number of the anchor it names, and stands for the node that bears the number last in the
document.
-/

namespace LogSift.Yaml

inductive Node where
  | scalar (anchor : Option Nat) (tag : Option String) (style : Style) (text : String)
  | sequence (anchor : Option Nat) (items : List Node)
  | mapping (anchor : Option Nat) (members : List (Node × Node))
  | aliasOf (number : Nat)
  deriving Repr, Inhabited

namespace Node

/-- The node that stands where none is written. -/
def empty : Node := scalar none none .plain ""

/-- A node under the number of its anchor, if it has one. -/
def under (anchor : Option Nat) (node : Node) : List (Nat × Node) :=
  match anchor with
  | some number => [(number, node)]
  | none => []

mutual

/-- The nodes with anchors in a node, by their numbers; outer ones and earlier ones first. -/
def anchored : Node → List (Nat × Node)
  | scalar anchor tag style text => under anchor (scalar anchor tag style text)
  | sequence anchor items => under anchor (sequence anchor items) ++ anchoredItems items
  | mapping anchor members => under anchor (mapping anchor members) ++ anchoredMembers members
  | aliasOf _ => []

def anchoredItems : List Node → List (Nat × Node)
  | [] => []
  | item :: rest => item.anchored ++ anchoredItems rest

def anchoredMembers : List (Node × Node) → List (Nat × Node)
  | [] => []
  | (name, value) :: rest => name.anchored ++ value.anchored ++ anchoredMembers rest

end

end Node

/-- What is still to be read of a document, and the numbers of the anchors so far, the last one
    first. -/
structure Rest where
  tokens : List Token
  anchors : List (String × Nat) := []
  deriving DecidableEq, Repr

namespace Rest

/-- Is the next token one of some? -/
def isAt (s : Rest) (tokens : List Token) : Bool := s.tokens.head?.any tokens.contains

/-- Reads an anchor, if there is one. Its number is that of different names before it. -/
def readAnchor (s : Rest) : Option Nat × Rest :=
  match s.tokens with
  | .anchor name :: tokens =>
    let number := (s.anchors.map (·.1)).eraseDups.length
    (some number, ⟨tokens, (name, number) :: s.anchors⟩)
  | _ => (none, s)

/-- Reads a tag, if there is one. The handle is replaced by what it stands for. -/
def readTag (handles : List (String × String)) (s : Rest) : Except Problem (Option String × Rest) :=
  match s.tokens with
  | .tag handle suffix :: tokens =>
    if handle.isEmpty then .ok (some suffix, { s with tokens })
    else
      match handles.lookup handle with
      | some expansion => .ok (some (expansion ++ suffix), { s with tokens })
      | none => .error .unknownTagHandle
  | _ => .ok (none, s)

/-- Reads anchor and tag in either order. -/
def readProperties (handles : List (String × String)) (s : Rest) :
    Except Problem (Option Nat × Option String × Rest) := do
  let (anchor, s) := s.readAnchor
  let (tag, s) ← s.readTag handles
  match anchor with
  | some _ => return (anchor, tag, s)
  | none =>
    let (anchor, s) := if tag.isSome then s.readAnchor else (none, s)
    return (anchor, tag, s)

/-- Reads the comma in front of any item but the first one. -/
def afterComma (first : Bool) (s : Rest) : Except Problem Rest :=
  if first then .ok s
  else
    match s.tokens with
    | .flowEntry :: tokens => .ok { s with tokens }
    | _ => .error .unexpectedToken

mutual

/-- Reads a node. Blocks may begin only where `block` is set, and a sequence without indentation
    of its own only where `indentless` is. `fuel` bounds the number of steps. -/
def readNode (fuel : Nat) (handles : List (String × String)) (block indentless : Bool) (s : Rest) :
    Except Problem (Node × Rest) :=
  match fuel, s.tokens with
  | 0, _ => .error .unexpectedToken
  | _ + 1, .aliasOf name :: tokens =>
    match s.anchors.lookup name with
    | some number => .ok (.aliasOf number, { s with tokens })
    | none => .error .unknownAnchor
  | fuel + 1, _ => do
    let (anchor, tag, s) ← s.readProperties handles
    match s.tokens, block, indentless with
    | .blockEntry :: _, _, true =>
      let (items, s) ← readIndentless fuel handles s
      return (.sequence anchor items, s)
    | .scalar text style :: tokens, _, _ =>
      let tag := if tag = some "!" then none else tag
      return (.scalar anchor tag style text, { s with tokens })
    | .flowSequence :: tokens, _, _ =>
      let (items, s) ← readFlowItems fuel handles true { s with tokens }
      return (.sequence anchor items, s)
    | .flowMapping :: tokens, _, _ =>
      let (members, s) ← readFlowMembers fuel handles true { s with tokens }
      return (.mapping anchor members, s)
    | .blockSequence :: tokens, true, _ =>
      let (items, s) ← readItems fuel handles { s with tokens }
      return (.sequence anchor items, s)
    | .blockMapping :: tokens, true, _ =>
      let (members, s) ← readMembers fuel handles { s with tokens }
      return (.mapping anchor members, s)
    | _, _, _ =>
      if anchor.isSome || tag.isSome then return (.scalar anchor tag .plain "", s)
      else .error .unexpectedToken

/-- Reads a node, or finds none in front of one of some tokens. -/
def readOptional (fuel : Nat) (handles : List (String × String)) (block indentless : Bool)
    (stops : List Token) (s : Rest) : Except Problem (Node × Rest) :=
  match fuel with
  | 0 => .error .unexpectedToken
  | fuel + 1 =>
    if s.isAt stops then .ok (.empty, s) else readNode fuel handles block indentless s

/-- Reads the items of a block sequence and its end. -/
def readItems (fuel : Nat) (handles : List (String × String)) (s : Rest) :
    Except Problem (List Node × Rest) :=
  match fuel, s.tokens with
  | fuel + 1, .blockEntry :: tokens => do
    let (item, s) ← readOptional fuel handles true false [.blockEntry, .blockEnd] { s with tokens }
    let (items, s) ← readItems fuel handles s
    return (item :: items, s)
  | _ + 1, .blockEnd :: tokens => .ok ([], { s with tokens })
  | _, _ => .error .unexpectedToken

/-- Reads the items of a sequence that has no end of its own. -/
def readIndentless (fuel : Nat) (handles : List (String × String)) (s : Rest) :
    Except Problem (List Node × Rest) :=
  match fuel, s.tokens with
  | 0, _ => .error .unexpectedToken
  | fuel + 1, .blockEntry :: tokens => do
    let (item, s) ←
      readOptional fuel handles true false [.blockEntry, .key, .value, .blockEnd] { s with tokens }
    let (items, s) ← readIndentless fuel handles s
    return (item :: items, s)
  | _ + 1, _ => .ok ([], s)

/-- Reads the members of a block mapping and its end. -/
def readMembers (fuel : Nat) (handles : List (String × String)) (s : Rest) :
    Except Problem (List (Node × Node) × Rest) :=
  match fuel, s.tokens with
  | fuel + 1, .key :: tokens => do
    let stops : List Token := [.key, .value, .blockEnd]
    let (name, s) ← readOptional fuel handles true true stops { s with tokens }
    let (value, s) ←
      match s.tokens with
      | .value :: tokens => readOptional fuel handles true true stops { s with tokens }
      | _ => .ok (.empty, s)
    let (members, s) ← readMembers fuel handles s
    return ((name, value) :: members, s)
  | _ + 1, .blockEnd :: tokens => .ok ([], { s with tokens })
  | _, _ => .error .unexpectedToken

/-- Reads the value of a member of a flow collection, whose end is given. -/
def readFlowValue (fuel : Nat) (handles : List (String × String)) (stop : Token) (s : Rest) :
    Except Problem (Node × Rest) :=
  match fuel, s.tokens with
  | fuel + 1, .value :: tokens =>
    readOptional fuel handles false false [.flowEntry, stop] { s with tokens }
  | _, _ => .ok (.empty, s)

/-- Reads the items of a flow sequence and its end. A question mark begins a mapping of one
    member; where its key is left out, so is the token after it. -/
def readFlowItems (fuel : Nat) (handles : List (String × String)) (first : Bool) (s : Rest) :
    Except Problem (List Node × Rest) :=
  match fuel, s.tokens with
  | 0, _ => .error .unexpectedToken
  | _ + 1, .flowSequenceEnd :: tokens => .ok ([], { s with tokens })
  | fuel + 1, tokens => do
    let s ← afterComma first { s with tokens }
    match s.tokens with
    | .flowSequenceEnd :: tokens => return ([], { s with tokens })
    | .key :: tokens =>
      let s := { s with tokens }
      let (name, s) ←
        if s.isAt [.value, .flowEntry, .flowSequenceEnd] then
          .ok (.empty, { s with tokens := s.tokens.tail })
        else readNode fuel handles false false s
      let (value, s) ← readFlowValue fuel handles .flowSequenceEnd s
      let (items, s) ← readFlowItems fuel handles false s
      return (.mapping none [(name, value)] :: items, s)
    | _ =>
      let (item, s) ← readNode fuel handles false false s
      let (items, s) ← readFlowItems fuel handles false s
      return (item :: items, s)

/-- Reads the members of a flow mapping and its end. -/
def readFlowMembers (fuel : Nat) (handles : List (String × String)) (first : Bool) (s : Rest) :
    Except Problem (List (Node × Node) × Rest) :=
  match fuel, s.tokens with
  | 0, _ => .error .unexpectedToken
  | _ + 1, .flowMappingEnd :: tokens => .ok ([], { s with tokens })
  | fuel + 1, tokens => do
    let s ← afterComma first { s with tokens }
    match s.tokens with
    | .flowMappingEnd :: tokens => return ([], { s with tokens })
    | .key :: tokens =>
      let stops : List Token := [.value, .flowEntry, .flowMappingEnd]
      let (name, s) ← readOptional fuel handles false false stops { s with tokens }
      let (value, s) ← readFlowValue fuel handles .flowMappingEnd s
      let (members, s) ← readFlowMembers fuel handles false s
      return ((name, value) :: members, s)
    | _ =>
      let (name, s) ← readNode fuel handles false false s
      let (members, s) ← readFlowMembers fuel handles false s
      return ((name, .empty) :: members, s)

end

end Rest

end LogSift.Yaml

import LogSift.Yaml.Node

/-!
YAML documents: a text holds at most one. What a node says is asked by the kind that is wanted:
any scalar is a text, while truth values, numbers and nulls are words that stand plain or bear
the tag of their kind.
-/

namespace LogSift.Yaml

/-- A document: its outermost node, and the nodes with anchors, the last one first. -/
structure Document where
  root : Node
  anchored : List (Nat × Node)
  deriving Repr

namespace Document

/-- The handles of tags that need no directive. -/
def defaultHandles : List (String × String) := [("!", "!"), ("!!", "tag:yaml.org,2002:")]

/-- Reads the directives in front of a document: one version at most, of YAML 1.1 or 1.2, and
    every handle once. -/
def readDirectives (version : Bool) (handles : List (String × String)) :
    List Token → Except Problem (List (String × String) × List Token)
  | .version major minor :: rest =>
    if version || major != 1 || (minor != 1 && minor != 2) then .error .badDirective
    else readDirectives true handles rest
  | .handle name expansion :: rest =>
    if (handles.lookup name).isSome then .error .badDirective
    else readDirectives version ((name, expansion) :: handles) rest
  | rest => .ok (handles ++ defaultHandles, rest)

/-- Does a document with a mark of its beginning have no node before the token? -/
def endsEmpty : Token → Bool
  | .version .. | .handle .. | .documentStart | .documentEnd => true
  | _ => false

/-- Reads the node of a document and what follows it. -/
def readRoot (tokens : List Token) : Except Problem (Node × Rest) := do
  let fuel := 4 * tokens.length + 8
  match tokens with
  | .version .. :: _ | .handle .. :: _ | .documentStart :: _ =>
    let (handles, rest) ← readDirectives false [] tokens
    match rest with
    | .documentStart :: rest =>
      if rest.head?.all endsEmpty then return (.empty, ⟨rest, []⟩)
      else Rest.readNode fuel handles true false ⟨rest, []⟩
    | _ => .error .unexpectedToken
  | _ => Rest.readNode fuel defaultHandles true false ⟨tokens, []⟩

/-- The document of tokens; none if there are no tokens. -/
def ofTokens (tokens : List Token) : Except Problem (Option Document) :=
  if tokens.isEmpty then .ok none
  else do
    let (root, s) ← readRoot tokens
    if (s.tokens.dropWhile (· == .documentEnd)).isEmpty then
      return some ⟨root, root.anchored.reverse⟩
    else .error .severalDocuments

/-- The document of a text. -/
def ofText (text : String) : Except Problem (Option Document) := do
  ofTokens (← Token.ofText text)

/-- The node that an alias stands for; other nodes stand for themselves. -/
def resolve (doc : Document) : Node → Node
  | .aliasOf number => (doc.anchored.lookup number).getD .empty
  | node => node

/-- The text of a scalar. -/
def asText? (doc : Document) (node : Node) : Option String :=
  match doc.resolve node with
  | .scalar _ _ _ text => some text
  | _ => none

/-- The text of a scalar that may stand for a value of a kind: a plain one, or a literal one with
    the tag of the kind. -/
def asWord? (doc : Document) (kind : String) (node : Node) : Option String :=
  match doc.resolve node with
  | .scalar _ _ .plain text => some text
  | .scalar _ (some tag) .literal text => if tag = kind then some text else none
  | _ => none

def asBool? (doc : Document) (node : Node) : Option Bool :=
  match doc.asWord? "tag:yaml.org,2002:bool" node with
  | some "true" | some "True" | some "TRUE" => some true
  | some "false" | some "False" | some "FALSE" => some false
  | _ => none

/-- A number of 64 bits in some base. -/
def readNat? (base : Nat) (cs : List Char) : Option Nat :=
  (Digits.read? base cs).filter (· < Nat.pow 2 64)

/-- The natural number of a word: in base 16, 8 or 2 after a mark, else in base 10 without
    leading zeros. -/
def natOf? (cs : List Char) : Option Nat :=
  let cs :=
    match cs with
    | '+' :: rest => rest
    | cs => cs
  match cs with
  | '0' :: 'x' :: rest => readNat? 16 rest
  | '0' :: 'o' :: rest => readNat? 8 rest
  | '0' :: 'b' :: rest => readNat? 2 rest
  | '0' :: _ :: _ => none
  | cs => readNat? 10 cs

def asNat? (doc : Document) (node : Node) : Option Nat := do
  natOf? (← doc.asWord? "tag:yaml.org,2002:int" node).toList

/-- Is the scalar a null? Quoted scalars and those with another tag are not. A scalar with the tag
    of nulls must be one. -/
def isNull? (doc : Document) (node : Node) : Option Bool :=
  let isWord (text : String) : Bool := ["null", "Null", "NULL", "~"].contains text
  match doc.resolve node with
  | .scalar _ none .plain text => some (text.isEmpty || isWord text)
  | .scalar _ (some tag) .plain text =>
    if tag = "tag:yaml.org,2002:null" then (if isWord text then some true else none)
    else some false
  | _ => some false

/-- The members of a mapping. A plain scalar without text is a mapping without members. -/
def asMembers? (doc : Document) (node : Node) : Option (List (Node × Node)) :=
  match doc.resolve node with
  | .mapping _ members => some members
  | .scalar _ _ .plain "" => some []
  | _ => none

/-- The members of a mapping of texts. -/
def asTexts? (doc : Document) (node : Node) : Option (List (String × String)) := do
  (← doc.asMembers? node).mapM fun (name, value) => do
    return (← doc.asText? name, ← doc.asText? value)

end Document

end LogSift.Yaml

import TaskLine.Yaml.Token

namespace TaskLine.Yaml

inductive Node where
  | scalar (scalar : Scalar)
  | sequence (items : List Node)
  | mapping (pairs : List (Node × Node))

namespace Node

def absent : Node := scalar ⟨[], true⟩

/-- The surroundings of a node: in a flow collection only flow collections nest, and only in a block
mapping can a sequence do without an indentation of its own. -/
inductive Place where
  | flow
  | block
  | blockPair
deriving DecidableEq

def isAbsent (stops : List Token) : List Token → Bool
  | [] => false
  | token :: _ => stops.contains token

def blockStops : List Token := [.key, .value, .blockEnd]

def flowStops (close : Token) : List Token := [.comma, close]

def refuse : List Token → Except Rejection α
  | .fault reason :: _ => .error reason
  | _ => .error .malformed

def afterComma : Bool → List Token → Except Rejection (List Token)
  | true, tokens => .ok tokens
  | false, .comma :: rest => .ok rest
  | false, tokens => refuse tokens

mutual

def read : Nat → Place → List Token → Except Rejection (Node × List Token)
  | fuel + 1, place, token :: rest =>
    let inBlock := place != .flow
    match token with
    | .scalar text => .ok (scalar text, rest)
    | .flowSequenceStart => (readItems fuel true rest).map fun (items, left) => (sequence items, left)
    | .flowMappingStart => (readPairs fuel true rest).map fun (pairs, left) => (mapping pairs, left)
    | .sequenceStart =>
      if inBlock then do
        let (items, left) ← readEntries fuel [.entry, .blockEnd] rest
        match left with
        | .blockEnd :: left => return (sequence items, left)
        | _ => refuse left
      else refuse []
    | .mappingStart =>
      if inBlock then (readKeys fuel rest).map fun (pairs, left) => (mapping pairs, left)
      else refuse []
    | .entry =>
      if place = .blockPair then
        (readEntries fuel (.entry :: blockStops) (token :: rest)).map fun (items, left) =>
          (sequence items, left)
      else refuse []
    | _ => refuse (token :: rest)
  | _, _, tokens => refuse tokens

def readUnless : Nat → List Token → Place → List Token → Except Rejection (Node × List Token)
  | fuel + 1, stops, place, tokens =>
    if isAbsent stops tokens then .ok (absent, tokens) else read fuel place tokens
  | 0, _, _, tokens => refuse tokens

def readEntries : Nat → List Token → List Token → Except Rejection (List Node × List Token)
  | fuel + 1, stops, .entry :: rest => do
    let (item, rest) ← readUnless fuel stops .block rest
    let (items, left) ← readEntries fuel stops rest
    return (item :: items, left)
  | _ + 1, _, tokens => .ok ([], tokens)
  | 0, _, tokens => refuse tokens

def readKeys : Nat → List Token → Except Rejection (List (Node × Node) × List Token)
  | _ + 1, .blockEnd :: rest => .ok ([], rest)
  | fuel + 1, .key :: rest => do
    let (name, rest) ← readUnless fuel blockStops .blockPair rest
    let (item, rest) ← readValue fuel blockStops .blockPair rest
    let (pairs, left) ← readKeys fuel rest
    return ((name, item) :: pairs, left)
  | _, tokens => refuse tokens

def readValue : Nat → List Token → Place → List Token → Except Rejection (Node × List Token)
  | fuel + 1, stops, place, .value :: rest => readUnless fuel stops place rest
  | _ + 1, _, _, tokens => .ok (absent, tokens)
  | 0, _, _, tokens => refuse tokens

def readItems : Nat → Bool → List Token → Except Rejection (List Node × List Token)
  | _ + 1, _, .flowSequenceEnd :: rest => .ok ([], rest)
  | fuel + 1, first, tokens => do
    match ← afterComma first tokens with
    | .flowSequenceEnd :: rest => return ([], rest)
    | .key :: rest =>
      let (name, rest) ← readUnless fuel (.value :: flowStops .flowSequenceEnd) .flow rest
      let (item, rest) ← readValue fuel (flowStops .flowSequenceEnd) .flow rest
      let (items, left) ← readItems fuel false rest
      return (mapping [(name, item)] :: items, left)
    | tokens =>
      let (item, rest) ← read fuel .flow tokens
      let (items, left) ← readItems fuel false rest
      return (item :: items, left)
  | 0, _, tokens => refuse tokens

def readPairs : Nat → Bool → List Token → Except Rejection (List (Node × Node) × List Token)
  | _ + 1, _, .flowMappingEnd :: rest => .ok ([], rest)
  | fuel + 1, first, tokens => do
    match ← afterComma first tokens with
    | .flowMappingEnd :: rest => return ([], rest)
    | .key :: rest =>
      let (name, rest) ← readUnless fuel (.value :: flowStops .flowMappingEnd) .flow rest
      let (item, rest) ← readValue fuel (flowStops .flowMappingEnd) .flow rest
      let (pairs, left) ← readPairs fuel false rest
      return ((name, item) :: pairs, left)
    | tokens =>
      let (name, rest) ← read fuel .flow tokens
      let (pairs, left) ← readPairs fuel false rest
      return ((name, absent) :: pairs, left)
  | 0, _, tokens => refuse tokens

end

def readContent (fuel : Nat) : List Token → Except Rejection (Node × List Token)
  | [] => .ok (absent, [])
  | tokens =>
    if isAbsent [.documentStart, .documentEnd] tokens then .ok (absent, tokens)
    else read fuel .block tokens

def readDocument (fuel : Nat) : List Token → Except Rejection (Node × List Token)
  | [] => .ok (absent, [])
  | .documentStart :: rest => readContent fuel rest
  | tokens => read fuel .block tokens

/-- The tree of the one document that the tokens hold. No token opens more than three readings. -/
def ofTokens (tokens : List Token) : Except Rejection Node := do
  let (node, rest) ← readDocument (3 * tokens.length + 3) tokens
  match rest.dropWhile (· = .documentEnd) with
  | [] => return node
  | rest => refuse rest

end Node

end TaskLine.Yaml

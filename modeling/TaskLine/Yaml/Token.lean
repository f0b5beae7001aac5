import TaskLine.Yaml.Flowing

/-!
The tokens of a YAML document. Block collections open and close with the indentation, and a key is
known as one only when its colon comes.
-/

namespace TaskLine.Yaml

structure Scalar where
  text : List Char
  plain : Bool
deriving DecidableEq

inductive Token where
  | documentStart
  | documentEnd
  | sequenceStart
  | mappingStart
  | blockEnd
  | flowSequenceStart
  | flowSequenceEnd
  | flowMappingStart
  | flowMappingEnd
  | entry
  | comma
  | key
  | value
  | scalar (scalar : Scalar)
  | fault (reason : Rejection)
deriving DecidableEq

structure Candidate where
  before : List Token
  required : Bool
  start : Placed

def Candidate.isStale (here : Placed) (candidate : Candidate) : Bool :=
  candidate.start.line != here.line || candidate.start.offset + 1024 < here.offset

/-- What is known on the way through a document: the tokens so far, latest first; the columns of the
open block collections, innermost first; whether a key may begin here; and the candidate of the
innermost flow collection and of those around it. -/
structure Progress where
  tokens : List Token := []
  indents : List Nat := []
  keyAllowed : Bool := true
  candidate : Option Candidate := none
  outer : List (Option Candidate) := []

namespace Progress

def inFlow (progress : Progress) : Bool := !progress.outer.isEmpty

def emit (progress : Progress) (token : Token) : Progress :=
  { progress with tokens := token :: progress.tokens }

def nextIndent (progress : Progress) : Nat :=
  match progress.indents with
  | [] => 0
  | column :: _ => column + 1

def closeBeyond (column : Nat) (progress : Progress) : Progress :=
  if progress.inFlow then progress
  else
    { progress with
      tokens := (progress.indents.takeWhile (column < ·)).map (fun _ => Token.blockEnd) ++
        progress.tokens
      indents := progress.indents.dropWhile (column < ·) }

def closeAll (progress : Progress) : Progress :=
  if progress.inFlow then progress
  else
    { progress with
      tokens := progress.indents.map (fun _ => Token.blockEnd) ++ progress.tokens
      indents := [] }

def opensAt (progress : Progress) (column : Nat) : Bool :=
  match progress.indents with
  | [] => true
  | innermost :: _ => innermost < column

def openAt (column : Nat) (token : Token) (progress : Progress) : Progress :=
  if progress.opensAt column then
    { progress.emit token with indents := column :: progress.indents }
  else progress

def dropCandidate (progress : Progress) : Option Progress :=
  match progress.candidate with
  | some candidate => if candidate.required then none else some { progress with candidate := none }
  | none => some progress

def saveCandidate (here : Placed) (progress : Progress) : Option Progress :=
  if progress.keyAllowed then do
    let progress ← progress.dropCandidate
    let required := !progress.inFlow && progress.indents.head? == some here.column
    return { progress with candidate := some ⟨progress.tokens, required, here⟩ }
  else some progress

def expire (here : Placed) (progress : Progress) : Option Progress :=
  let keep : Option Candidate → Option Candidate := Option.filter (!·.isStale here)
  if (progress.candidate :: progress.outer).any fun candidate =>
      candidate.any fun candidate => candidate.required && candidate.isStale here then none
  else
    some { progress with
      candidate := keep progress.candidate
      outer := progress.outer.map keep }

def openFlow (here : Placed) (token : Token) (progress : Progress) : Option Progress := do
  let progress ← progress.saveCandidate here
  return { progress.emit token with
    keyAllowed := true
    candidate := none
    outer := progress.candidate :: progress.outer }

def closeFlow (token : Token) (progress : Progress) : Option Progress := do
  let progress ← progress.dropCandidate
  match progress.outer with
  | [] => none
  | candidate :: outer =>
    return { progress.emit token with keyAllowed := false, candidate, outer }

def addComma (progress : Progress) : Option Progress := do
  let progress ← progress.dropCandidate
  return { progress.emit .comma with keyAllowed := true }

def addEntry (here : Placed) (progress : Progress) : Option Progress := do
  guard (progress.inFlow || progress.keyAllowed)
  let progress := if progress.inFlow then progress else progress.openAt here.column .sequenceStart
  let progress ← progress.dropCandidate
  return { progress.emit .entry with keyAllowed := true }

def addKey (here : Placed) (progress : Progress) : Option Progress := do
  guard (progress.inFlow || progress.keyAllowed)
  let progress := if progress.inFlow then progress else progress.openAt here.column .mappingStart
  let progress ← progress.dropCandidate
  return { progress.emit .key with keyAllowed := !progress.inFlow }

def addValue (here : Placed) (progress : Progress) : Option Progress := do
  match progress.candidate with
  | some candidate =>
    let after := progress.tokens.take (progress.tokens.length - candidate.before.length)
    let base : Progress := { progress with tokens := candidate.before, candidate := none }
    let opened :=
      if base.inFlow then base else base.openAt candidate.start.column .mappingStart
    return { opened with
      tokens := .value :: (after ++ .key :: opened.tokens)
      keyAllowed := false }
  | none =>
    guard (progress.inFlow || progress.keyAllowed)
    let progress := if progress.inFlow then progress else progress.openAt here.column .mappingStart
    return { progress.emit .value with keyAllowed := !progress.inFlow }

def addMarker (token : Token) (progress : Progress) : Option Progress := do
  let progress ← progress.closeAll.dropCandidate
  return { progress.emit token with keyAllowed := false }

/-- The tokens known before a fault that follows here. While a key may have begun, the tokens from
there on are not known. -/
def stopAt (rest : List Placed) (reason : Rejection) (progress : Progress) : List Token :=
  let pending := (progress.candidate :: progress.outer).filterMap fun candidate =>
    candidate.filter fun candidate => rest.head?.all (!candidate.isStale ·)
  let known := pending.foldl (fun known candidate => min known candidate.before.length)
    progress.tokens.length
  progress.tokens.reverse.take known ++ [.fault reason]

end Progress

def skipGap (inComment : Bool) : List Placed → Bool × List Placed
  | [] => (false, [])
  | here :: rest =>
    if isBreak here.char then (true, (skipGap false rest).2)
    else if inComment || here.char == ' ' then skipGap inComment rest
    else if here.char == '#' then skipGap true rest
    else (false, here :: rest)

def readScalar (progress : Progress) (here : Placed) (rest : List Placed) :
    Except Rejection (Scalar × Bool × List Placed) :=
  if here.char == '\x22' || here.char == '\x27' then
    (quoted (here.char == '\x22') .text rest).map fun (pieces, left) =>
      (⟨Piece.fold pieces, false⟩, false, left)
  else if startsPlain progress.inFlow here.char rest then
    let (pieces, left) := plain progress.inFlow progress.nextIndent here rest
    let isGap (next : Placed) : Bool := next.char == ' ' || isBreak next.char
    .ok (⟨Piece.fold pieces, true⟩, (left.takeWhile isGap).any (isBreak ·.char),
      left.dropWhile isGap)
  else .error .malformed

def readToken (progress : Progress) (here : Placed) (rest : List Placed) :
    Except Rejection (Progress × List Placed) :=
  let inFlow := progress.inFlow
  let after (left : List Placed) : Option Progress → Except Rejection (Progress × List Placed)
    | some next => .ok (next, left)
    | none => .error .malformed
  if here.column == 0 && marks '-' (here :: rest) then
    after (rest.drop 2) (progress.addMarker .documentStart)
  else if here.column == 0 && marks '.' (here :: rest) then
    after (rest.drop 2) (progress.addMarker .documentEnd)
  else if here.char == '[' then after rest (progress.openFlow here .flowSequenceStart)
  else if here.char == ']' then after rest (progress.closeFlow .flowSequenceEnd)
  else if here.char == '\x7b' then after rest (progress.openFlow here .flowMappingStart)
  else if here.char == '\x7d' then after rest (progress.closeFlow .flowMappingEnd)
  else if here.char == ',' then after rest progress.addComma
  else if here.char == '-' && atGap rest then after rest (progress.addEntry here)
  else if here.char == '?' && (inFlow || atGap rest) then after rest (progress.addKey here)
  else if here.char == ':' && (inFlow || atGap rest) then after rest (progress.addValue here)
  else match progress.saveCandidate here with
    | none => .error .malformed
    | some saved => (readScalar progress here rest).map fun (scalar, broken, left) =>
      ({ saved.emit (.scalar scalar) with keyAllowed := broken }, left)

def readTokens (progress : Progress) (text : List Placed) : List Token :=
  let stop (reason : Rejection) : List Token := progress.stopAt text reason
  match skipGap false text with
  | (_, []) =>
    match progress.closeAll.dropCandidate with
    | some last => last.tokens.reverse
    | none => stop .malformed
  | (broken, here :: rest) =>
    let keyAllowed := progress.keyAllowed || (broken && !progress.inFlow)
    match Progress.expire here { progress with keyAllowed } with
    | none => stop .malformed
    | some current =>
      match readToken (current.closeBeyond here.column) here rest with
      | .error reason => stop reason
      | .ok (next, left) =>
        if left.length < text.length then readTokens next left else stop .malformed
termination_by text.length

def Token.ofText (text : List Char) : List Token :=
  if text.all isAllowed then readTokens {} (place text) else [.fault .malformed]

end TaskLine.Yaml

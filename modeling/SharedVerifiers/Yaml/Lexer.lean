import SharedVerifiers.Yaml.Token
namespace SharedVerifiers.Yaml

-- In block context a key at the indentation of its mapping has to be one.
-- `number` counts the tokens before it.
structure KeyCandidate where
  number : Nat
  mark : Mark
  required : Bool
deriving Repr

def KeyCandidate.isStale (now : Mark) (k : KeyCandidate) : Bool :=
  k.mark.line < now.line || k.mark.index + 1024 < now.index

-- What is left of the text and what has been made of it. One candidate for
-- each open flow collection, the innermost first, and one for the block outside;
-- tokens in reverse. If the text is not `whole`, nothing can be said of its end.
structure Lexer where
  rest : List Spot
  ending : Mark
  whole : Bool := true
  indent : Int := -1
  indents : List Int := []
  blockKey : Option KeyCandidate := none
  flowKeys : List (Option KeyCandidate) := []
  keyAllowed : Bool := true
  tokens : List Token := []
  count : Nat := 0

namespace Lexer

def mark (l : Lexer) : Mark :=
  match l.rest with
  | s :: _ => s.mark
  | [] => l.ending

def inFlow (l : Lexer) : Bool := !l.flowKeys.isEmpty

def push (l : Lexer) (token : Token) : Lexer := {l with tokens := token :: l.tokens,count := l.count + 1}

def insert (l : Lexer) (number : Nat) (token : Token) : Lexer :=
  let behind := l.count - number
  {l with
    tokens := l.tokens.take behind ++ token :: l.tokens.drop behind
    count := l.count + 1}

def candidate (l : Lexer) : Option KeyCandidate :=
  (match l.flowKeys with
    | k :: _ => k
    | [] => l.blockKey).filter fun k => !k.isStale l.mark

def withCandidate (l : Lexer) (k : Option KeyCandidate) : Lexer :=
  match l.flowKeys with
  | _ :: outer => {l with flowKeys := k :: outer}
  | [] => {l with blockKey := k}

-- Only a key of the block can be required, so only there it matters at once
-- that it has become stale.
def dropStale (l : Lexer) : Option Lexer :=
  match l.blockKey with
  | some k =>
    if !k.isStale l.mark then some l
    else if k.required then none
    else some {l with blockKey := none}
  | none => some l

def dropCandidate (l : Lexer) : Option Lexer :=
  match l.candidate with
  | some k => if k.required then none else some (l.withCandidate none)
  | none => some (l.withCandidate none)

def saveCandidate (l : Lexer) : Option Lexer :=
  if !l.keyAllowed then some l
  else do
    let required := !l.inFlow && l.indent = l.mark.column
    let l ← l.dropCandidate
    return l.withCandidate (some ⟨l.count,l.mark,required⟩)

def roll (l : Lexer) (column : Nat) (number : Nat) (token : Token) : Lexer :=
  if !l.inFlow && l.indent < column then
    ({l with indents := l.indent :: l.indents,indent := column}).insert number token
  else l

def unrollFrom (column : Int) (l : Lexer) : List Int → Lexer
  | [] => {l with indents := []}
  | outer :: more =>
    if column < l.indent then unrollFrom column {(l.push .blockEnd) with indent := outer} more
    else {l with indents := outer :: more}

def unroll (l : Lexer) (column : Int) : Lexer := if l.inFlow then l else unrollFrom column l l.indents

-- A new line allows a key in block context; a tab does not count as indentation.
def skipFrom (flow allowed comment : Bool) : List Spot → List Spot × Bool
  | [] => ([],allowed)
  | s :: rest =>
    if s.char = byteOrderMark && s.mark.column = 0 then skipFrom flow allowed comment rest
    else if isBreak s.char then skipFrom flow (allowed || !flow) false rest
    else if comment then skipFrom flow allowed true rest
    else if s.char = ' ' || (s.char = '\t' && (flow || !allowed)) then skipFrom flow allowed false rest
    else if s.char = '#' then skipFrom flow allowed true rest
    else (s :: rest,allowed)

def skipSpace (l : Lexer) : Lexer :=
  let (rest,allowed) := skipFrom l.inFlow l.keyAllowed false l.rest
  {l with rest := rest,keyAllowed := allowed}

def take (l : Lexer) (characters : Nat) (token : Token) : Lexer :=
  ({l with rest := l.rest.drop characters}).push token

def document (l : Lexer) (token : Token) : Option Lexer := do
  let l ← (l.unroll (-1)).dropCandidate
  return ({l with keyAllowed := false}).take 3 token

def openFlow (l : Lexer) (token : Token) : Option Lexer := do
  let l ← l.saveCandidate
  return ({l with flowKeys := none :: l.flowKeys,keyAllowed := true}).take 1 token

def closeFlow (l : Lexer) (token : Token) : Option Lexer := do
  let l ← l.dropCandidate
  return ({l with flowKeys := l.flowKeys.drop 1,keyAllowed := false}).take 1 token

def flowEntry (l : Lexer) : Option Lexer := do
  let l ← l.dropCandidate
  return ({l with keyAllowed := true}).take 1 .flowEntry

def blockEntry (l : Lexer) : Option Lexer :=
  if !l.inFlow && !l.keyAllowed then none
  else do
    let l ← (l.roll l.mark.column l.count .blockSequenceStart).dropCandidate
    return ({l with keyAllowed := true}).take 1 .blockEntry

def complexKey (l : Lexer) : Option Lexer :=
  if !l.inFlow && !l.keyAllowed then none
  else do
    let l ← (l.roll l.mark.column l.count .blockMappingStart).dropCandidate
    return ({l with keyAllowed := !l.inFlow}).take 1 .key

def value (l : Lexer) : Option Lexer :=
  match l.candidate with
  | some k =>
    let l := (l.insert k.number .key).roll k.mark.column k.number .blockMappingStart
    some (({l.withCandidate none with keyAllowed := false}).take 1 .value)
  | none =>
    if !l.inFlow && !l.keyAllowed then none
    else
      let l := l.roll l.mark.column l.count .blockMappingStart
      some (({l with keyAllowed := !l.inFlow}).take 1 .value)

def keyLike (l : Lexer) (token : List Spot → Option (Token × List Spot)) : Option Lexer := do
  let l ← l.saveCandidate
  let (token,rest) ← token (l.rest.drop 1)
  return ({l with rest := rest,keyAllowed := false}).push token

def plainScalar (l : Lexer) : Option Lexer := do
  let l ← l.saveCandidate
  let (words,passedBreak,rest) ← plain l.inFlow (l.indent + 1) [] .none l.rest
  return ({l with rest := rest,keyAllowed := passedBreak}).push (.scalar words .plain)

def blockScalar (l : Lexer) (folded : Bool) : Option Lexer := do
  let l ← l.dropCandidate
  let (words,rest) ← block folded l.indent (l.rest.drop 1)
  return ({l with rest := rest,keyAllowed := true}).push
    (.scalar words (if folded then .folded else .literal))

def directiveLine (l : Lexer) : Option Lexer := do
  let l ← (l.unroll (-1)).dropCandidate
  let (token,rest) ← directive (l.rest.drop 1)
  return ({l with rest := rest,keyAllowed := false}).push token

def endStream (l : Lexer) : Option Lexer := do
  let l ← (l.unroll (-1)).dropCandidate
  let ending := if l.ending.column = 0 then l.ending else {l.ending with line := l.ending.line + 1,column := 0}
  return ({l with keyAllowed := false,ending := ending}).push .streamEnd

def isIndicator (c : Char) : Bool := "-?:,[]\x7b\x7d#&*!|>'\"%@`".toList.contains c

def beginsPlain (l : Lexer) (s : Spot) (rest : List Spot) : Bool :=
  (!isIndicator s.char && !isBlank s.char) ||
  (s.char = '-' && !atBlank rest) ||
  (!l.inFlow && (s.char = '?' || s.char = ':') && !atSpaceOrEnd rest)

def named (token : List Char → Token) (text : List Spot) : Option (Token × List Spot) :=
  (anchorName text).map fun (name,rest) => (token name,rest)

def quoted (read : List Spot → Option (List Char × List Spot)) (text : List Spot) :
    Option (Token × List Spot) :=
  (read text).map fun (words,rest) => (.scalar words .quoted,rest)

def dispatch (l : Lexer) : Option Lexer :=
  match l.rest with
  | [] => if l.whole then l.endStream else none
  | s :: rest =>
    if s.mark.column = 0 && s.char = '%' then l.directiveLine
    else if atDocumentMark '-' l.rest then l.document .documentStart
    else if atDocumentMark '.' l.rest then l.document .documentEnd
    else if s.char = '[' then l.openFlow .flowSequenceStart
    else if s.char = Char.ofNat 0x7B then l.openFlow .flowMappingStart
    else if s.char = ']' then l.closeFlow .flowSequenceEnd
    else if s.char = Char.ofNat 0x7D then l.closeFlow .flowMappingEnd
    else if s.char = ',' then l.flowEntry
    else if s.char = '-' && atSpaceOrEnd rest then l.blockEntry
    else if s.char = '?' && (l.inFlow || atSpaceOrEnd rest) then l.complexKey
    else if s.char = ':' && (l.inFlow || atSpaceOrEnd rest) then l.value
    else if s.char = '*' then l.keyLike (named .alias)
    else if s.char = '&' then l.keyLike (named .anchor)
    else if s.char = '!' then l.keyLike (tagBody l.inFlow)
    else if s.char = '|' && !l.inFlow then l.blockScalar false
    else if s.char = '>' && !l.inFlow then l.blockScalar true
    else if s.char = '\'' then l.keyLike (quoted (single [] .none))
    else if s.char = '"' then l.keyLike (quoted (double .text [] .none))
    else if l.beginsPlain s rest then l.plainScalar
    else none

def next (l : Lexer) : Option Lexer := do
  let l ← l.skipSpace.dropStale
  (l.unroll l.mark.column).dispatch

def settled (l : Lexer) : Nat :=
  (l.blockKey :: l.flowKeys).foldl (fun n key => match key with
    | some k => if k.isStale l.mark then n else min n k.number
    | none => n) l.count

def isCut (l : Lexer) : Bool := !l.whole && l.rest.isEmpty

-- If the text makes no sense only the tokens settled by then are there. Every
-- step but the last takes a character.
def run (steps : Nat) (l : Lexer) : List Token :=
  match steps with
  | 0 => l.tokens.reverse.take l.settled
  | steps+1 => match (l.next >>= dropStale).filter fun l => !l.isCut with
    | none => l.tokens.reverse.take l.settled
    | some l => if l.tokens.head? = some .streamEnd then l.tokens.reverse else run steps l

end Lexer

def tokens (text : String) : List Token :=
  let (chars,whole) := legible [] 0 text.toList
  Lexer.run (chars.length + 1) {rest := spots {} chars,ending := endMark {} chars,whole := whole}

end SharedVerifiers.Yaml

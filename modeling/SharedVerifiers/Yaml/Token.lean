import SharedVerifiers.Yaml.Scalar
namespace SharedVerifiers.Yaml

inductive Style where
  | plain | quoted | literal | folded
deriving DecidableEq,Repr

inductive Token where
  | streamEnd
  | documentStart | documentEnd
  | version (major minor : Nat)
  | tagHandle (handle : List Char) (meaning : List UInt8)
  | blockSequenceStart | blockMappingStart | blockEnd
  | flowSequenceStart | flowSequenceEnd | flowMappingStart | flowMappingEnd
  | blockEntry | flowEntry | key | value
  | alias (name : List Char)
  | anchor (name : List Char)
  | tag (handle : List Char) (suffix : List UInt8)
  | scalar (words : List Char) (style : Style)
deriving DecidableEq,Repr

def word : List Spot → List Char × List Spot
  | s :: rest => if isWordChar s.char then let (name,after) := word rest; (s.char :: name,after) else ([],s :: rest)
  | [] => ([],[])

def anchorName (text : List Spot) : Option (List Char × List Spot) :=
  let (name,rest) := word text
  let ends := match rest with
    | s :: _ => "?:,]\x7d%@`".toList.contains s.char
    | [] => false
  if name ≠ [] && (atSpaceOrEnd rest || ends) then some (name,rest) else none

def handle (text : List Spot) : List Char × List Spot :=
  let (name,rest) := word text
  if atChar '!' rest then ('!' :: name ++ ['!'],rest.drop 1) else ('!' :: name,rest)

def hexPair? : List Spot → Option (Nat × List Spot)
  | p :: s :: t :: rest =>
    if p.char = '%' then do
      let high ← hexValue? s.char
      let low ← hexValue? t.char
      return (16 * high + low,rest)
    else none
  | _ => none

def byteWidth (first : Nat) : Option Nat :=
  if first < 0x80 then some 1
  else if first / 0x20 = 6 then some 2
  else if first / 0x10 = 14 then some 3
  else if first / 0x08 = 30 then some 4
  else none

def furtherBytes : Nat → List Spot → Option (List UInt8 × List Spot)
  | 0,text => some ([],text)
  | n+1,text => do
    let (byte,rest) ← hexPair? text
    if byte / 0x40 = 2 then
      let (more,rest) ← furtherBytes n rest
      return (UInt8.ofNat byte :: more,rest)
    else none

-- Bytes that look like those of one character; whether they are is not asked.
def uriEscape (text : List Spot) : Option (List UInt8 × List Spot) := do
  let (first,rest) ← hexPair? text
  let width ← byteWidth first
  let (more,rest) ← furtherBytes (width - 1) rest
  return (UInt8.ofNat first :: more,rest)

def isUriChar (verbatim : Bool) (c : Char) : Bool :=
  isWordChar c || ";/?:@&=+$.!~*'()%".toList.contains c || (verbatim && ",[]".toList.contains c)

def asciiByte (c : Char) : UInt8 := UInt8.ofNat c.toNat

def uri (verbatim : Bool) : Nat → List Spot → Option (List UInt8 × List Spot)
  | 0,text => some ([],text)
  | _,[] => some ([],[])
  | fuel+1,s :: rest =>
    if !isUriChar verbatim s.char then some ([],s :: rest)
    else do
      let (bytes,after) ← if s.char = '%' then uriEscape (s :: rest) else some ([asciiByte s.char],rest)
      let (more,after) ← uri verbatim fuel after
      return (bytes ++ more,after)

def upToZero (bytes : List UInt8) : List UInt8 := bytes.takeWhile (· ≠ 0)

def tagBody (flow : Bool) (text : List Spot) : Option (Token × List Spot) := do
  let (token,rest) ←
    if atChar '<' text then do
      let (suffix,rest) ← uri true text.length (text.drop 1)
      if suffix ≠ [] && atChar '>' rest then some (Token.tag [] (upToZero suffix),rest.drop 1) else none
    else do
      let (lead,rest) := handle text
      if lead.length > 1 && lead.getLast? = some '!' then
        let (suffix,rest) ← uri false text.length rest
        if suffix ≠ [] then some (Token.tag lead (upToZero suffix),rest) else none
      else
        let (more,rest) ← uri false text.length rest
        let suffix := upToZero ((lead.drop 1).map asciiByte ++ more)
        some (if suffix = [] then Token.tag [] [asciiByte '!'] else Token.tag ['!'] suffix,rest)
  if atSpaceOrEnd rest || (flow && atChar ',' rest) then some (token,rest) else none

def number (text : List Spot) : Option (Nat × List Spot) :=
  let digits := text.takeWhile fun s => s.char.isDigit
  if digits = [] || digits.length > 9 then none
  else some (digits.foldl (fun n s => 10 * n + (s.char.toNat - 48)) 0,text.drop digits.length)

def directive (text : List Spot) : Option (Token × List Spot) := do
  let (name,rest) := word text
  if name = [] || !atSpaceOrEnd rest then none
  else
    let rest := skipBlanks rest
    let (token,rest) ←
      if name = "YAML".toList then do
        let (major,rest) ← number rest
        if !atChar '.' rest then none
        let (minor,rest) ← number (rest.drop 1)
        return (Token.version major minor,rest)
      else if name = "TAG".toList then do
        if !atChar '!' rest then none
        let (lead,rest) := handle (rest.drop 1)
        if lead ≠ ['!'] && lead.getLast? ≠ some '!' then none
        if !atBlank rest then none
        let rest := skipBlanks rest
        let (meaning,rest) ← uri true rest.length rest
        if meaning = [] || !atSpaceOrEnd rest then none
        return (Token.tagHandle lead (upToZero meaning),rest)
      else none
    let rest ← endOfLine rest
    return (token,rest)

end SharedVerifiers.Yaml

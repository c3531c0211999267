import SharedVerifiers.Yaml.Meaning
namespace SharedVerifiers.Yaml
open Document (Node)

-- A name has the number of names known when it was last given; of the nodes with
-- one number the one that begins last holds.
structure Anchors where
  names : List (List Char × Nat) := []
  starts : List (Nat × Nat) := []
  nodes : List (Nat × Node) := []
  begun : Nat := 0
deriving Repr

namespace Anchors

def enter (a : Anchors) (name : Option (List Char)) : Anchors × Option Nat :=
  match name with
  | none => (a,none)
  | some name =>
    let number := a.names.length
    ({a with
      names := (name,number) :: a.names.filter (·.1 ≠ name)
      starts := (number,a.begun) :: a.starts
      begun := a.begun + 1},some a.begun)

def finish (a : Anchors) (start : Option Nat) (n : Node) : Anchors :=
  match start with
  | some start => {a with nodes := (start,n) :: a.nodes}
  | none => a

def number? (a : Anchors) (name : List Char) : Option Nat := a.names.lookup name

def targets (a : Anchors) : Array Node :=
  let node (number : Nat) : Node :=
    (((a.starts.lookup number).bind fun start => a.nodes.lookup start)).getD .broken
  ((List.range a.begun).map node).toArray

end Anchors

-- No tokens at all means that nothing can follow: where the stream ends there is
-- still the token that says so.
structure Parsed where
  node : Node
  anchors : Anchors
  rest : List Token

abbrev Handles := List (List Char × List UInt8)

structure Properties where
  anchor : Option (List Char) := none
  tag : Option (List Char × List UInt8) := none

def Properties.any (p : Properties) : Bool := p.anchor.isSome || p.tag.isSome

def Properties.resolve (p : Properties) (handles : Handles) : Option (Option (List UInt8)) :=
  match p.tag with
  | none => some none
  | some (lead,suffix) =>
    if lead = [] then some suffix else (handles.lookup lead).map fun meaning => some (meaning ++ suffix)

def properties : List Token → Properties × List Token
  | .anchor name :: .tag lead suffix :: rest => ({anchor := some name,tag := some (lead,suffix)},rest)
  | .tag lead suffix :: .anchor name :: rest => ({anchor := some name,tag := some (lead,suffix)},rest)
  | .anchor name :: rest => ({anchor := some name},rest)
  | .tag lead suffix :: rest => ({tag := some (lead,suffix)},rest)
  | rest => ({},rest)

def omits (follow : List Token) : List Token → Bool
  | token :: _ => follow.contains token
  | [] => false

def blockKeyFollow : List Token := [.key,.value,.blockEnd]
def flowMapFollow : List Token := [.flowEntry,.flowMappingEnd]
def flowSeqFollow : List Token := [.flowEntry,.flowSequenceEnd]

-- Collections in the order of their tokens. `fuel` bounds the tokens to come;
-- every call passes one on or is the only one between two that do.
mutual
def parseNode (fuel : Nat) (handles : Handles) (a : Anchors) (inBlock indentless : Bool)
    (tokens : List Token) : Parsed :=
  match fuel with
  | 0 => ⟨.broken,a,[]⟩
  | fuel+1 =>
    match tokens with
    | .alias name :: rest => match a.number? name with
      | some number => ⟨.alias number,a,rest⟩
      | none => ⟨.broken,a,[]⟩
    | _ =>
      let (given,rest) := properties tokens
      match given.resolve handles with
      | none => ⟨.broken,a,[]⟩
      | some tag =>
        let (begun,start) := a.enter given.anchor
        let finish (p : Parsed) : Parsed := {p with anchors := p.anchors.finish start p.node}
        match rest with
        | .scalar words style :: rest =>
          finish ⟨scalarNode words style tag,begun,rest⟩
        | .flowSequenceStart :: rest => finish (parseFlowSeq fuel handles begun tag true [] rest)
        | .flowMappingStart :: rest => finish (parseFlowMap fuel handles begun tag true [] rest)
        | .blockEntry :: _ =>
          if indentless then finish (parseIndentless fuel handles begun tag [] rest)
          else if given.any then finish ⟨scalarNode [] .plain tag,begun,rest⟩
          else ⟨.broken,a,[]⟩
        | .blockSequenceStart :: rest =>
          if inBlock then finish (parseBlockSeq fuel handles begun tag [] rest)
          else if given.any then finish ⟨scalarNode [] .plain tag,begun,.blockSequenceStart :: rest⟩
          else ⟨.broken,a,[]⟩
        | .blockMappingStart :: rest =>
          if inBlock then finish (parseBlockMap fuel handles begun tag [] rest)
          else if given.any then finish ⟨scalarNode [] .plain tag,begun,.blockMappingStart :: rest⟩
          else ⟨.broken,a,[]⟩
        | [] => ⟨.broken,a,[]⟩
        | rest =>
          if given.any then finish ⟨scalarNode [] .plain tag,begun,rest⟩ else ⟨.broken,a,[]⟩

def parseBlockSeq (fuel : Nat) (handles : Handles) (a : Anchors) (tag : Option (List UInt8))
    (done : List Node) (tokens : List Token) : Parsed :=
  match fuel with
  | 0 => ⟨.broken,a,[]⟩
  | fuel+1 =>
    match tokens with
    | .blockEntry :: rest =>
      let item :=
        if omits [.blockEntry,.blockEnd] rest then ⟨emptyNode,a,rest⟩
        else parseNode fuel handles a true false rest
      parseBlockSeq fuel handles item.anchors tag (item.node :: done) item.rest
    | .blockEnd :: rest => ⟨labelled tag (.seq done.reverse true),a,rest⟩
    | _ => ⟨labelled tag (.seq done.reverse false),a,[]⟩

def parseIndentless (fuel : Nat) (handles : Handles) (a : Anchors) (tag : Option (List UInt8))
    (done : List Node) (tokens : List Token) : Parsed :=
  match fuel with
  | 0 => ⟨.broken,a,[]⟩
  | fuel+1 =>
    match tokens with
    | .blockEntry :: rest =>
      let item :=
        if omits [.blockEntry,.key,.value,.blockEnd] rest then ⟨emptyNode,a,rest⟩
        else parseNode fuel handles a true false rest
      parseIndentless fuel handles item.anchors tag (item.node :: done) item.rest
    | [] => ⟨labelled tag (.seq done.reverse false),a,[]⟩
    | rest => ⟨labelled tag (.seq done.reverse true),a,rest⟩

def parseBlockMap (fuel : Nat) (handles : Handles) (a : Anchors) (tag : Option (List UInt8))
    (done : List (Node × Node)) (tokens : List Token) : Parsed :=
  match fuel with
  | 0 => ⟨.broken,a,[]⟩
  | fuel+1 =>
    match tokens with
    | .key :: rest =>
      let key :=
        if omits blockKeyFollow rest then ⟨emptyNode,a,rest⟩
        else parseNode fuel handles a true true rest
      let item := parseBlockValue fuel handles key.anchors key.rest
      parseBlockMap fuel handles item.anchors tag ((key.node,item.node) :: done) item.rest
    | .blockEnd :: rest => ⟨labelled tag (.map done.reverse true),a,rest⟩
    | _ => ⟨labelled tag (.map done.reverse false),a,[]⟩

def parseBlockValue (fuel : Nat) (handles : Handles) (a : Anchors) (tokens : List Token) : Parsed :=
  match fuel with
  | 0 => ⟨.broken,a,[]⟩
  | fuel+1 =>
    match tokens with
    | .value :: rest =>
      if omits blockKeyFollow rest then ⟨emptyNode,a,rest⟩ else parseNode fuel handles a true true rest
    | [] => ⟨.broken,a,[]⟩
    | rest => ⟨emptyNode,a,rest⟩

def parseFlowSeq (fuel : Nat) (handles : Handles) (a : Anchors) (tag : Option (List UInt8))
    (isFirst : Bool) (done : List Node) (tokens : List Token) : Parsed :=
  match fuel with
  | 0 => ⟨.broken,a,[]⟩
  | fuel+1 =>
    match tokens with
    | .flowSequenceEnd :: rest => ⟨labelled tag (.seq done.reverse true),a,rest⟩
    | _ =>
      let ready : Option (List Token) :=
        if isFirst then some tokens
        else match tokens with
          | .flowEntry :: rest => some rest
          | _ => none
      match ready with
      | none => ⟨labelled tag (.seq done.reverse false),a,[]⟩
      | some [] => ⟨labelled tag (.seq done.reverse false),a,[]⟩
      | some (.flowSequenceEnd :: rest) => ⟨labelled tag (.seq done.reverse true),a,rest⟩
      | some (.key :: rest) =>
        let item := parsePair fuel handles a rest
        parseFlowSeq fuel handles item.anchors tag false (item.node :: done) item.rest
      | some rest =>
        let item := parseNode fuel handles a false false rest
        parseFlowSeq fuel handles item.anchors tag false (item.node :: done) item.rest

-- A pair inside a flow sequence is a map of its own. Where its key is left out,
-- the token that shows this is passed over.
def parsePair (fuel : Nat) (handles : Handles) (a : Anchors) (tokens : List Token) : Parsed :=
  match fuel with
  | 0 => ⟨.broken,a,[]⟩
  | fuel+1 =>
    match tokens with
    | [] => ⟨.map [] false,a,[]⟩
    | _ =>
      let key :=
        if omits (.value :: flowSeqFollow) tokens then ⟨emptyNode,a,tokens.drop 1⟩
        else parseNode fuel handles a false false tokens
      let item := parseFlowValue fuel handles key.anchors flowSeqFollow key.rest
      ⟨.map [(key.node,item.node)] (item.rest ≠ []),item.anchors,item.rest⟩

def parseFlowMap (fuel : Nat) (handles : Handles) (a : Anchors) (tag : Option (List UInt8))
    (isFirst : Bool) (done : List (Node × Node)) (tokens : List Token) : Parsed :=
  match fuel with
  | 0 => ⟨.broken,a,[]⟩
  | fuel+1 =>
    match tokens with
    | .flowMappingEnd :: rest => ⟨labelled tag (.map done.reverse true),a,rest⟩
    | _ =>
      let ready : Option (List Token) :=
        if isFirst then some tokens
        else match tokens with
          | .flowEntry :: rest => some rest
          | _ => none
      match ready with
      | none => ⟨labelled tag (.map done.reverse false),a,[]⟩
      | some [] => ⟨labelled tag (.map done.reverse false),a,[]⟩
      | some (.flowMappingEnd :: rest) => ⟨labelled tag (.map done.reverse true),a,rest⟩
      | some (.key :: rest) =>
        match rest with
        | [] => ⟨labelled tag (.map done.reverse false),a,[]⟩
        | _ =>
          let key :=
            if omits (.value :: flowMapFollow) rest then ⟨emptyNode,a,rest⟩
            else parseNode fuel handles a false false rest
          let item := parseFlowValue fuel handles key.anchors flowMapFollow key.rest
          parseFlowMap fuel handles item.anchors tag false ((key.node,item.node) :: done) item.rest
      | some rest =>
        let key := parseNode fuel handles a false false rest
        let item := if key.rest = [] then Node.broken else emptyNode
        parseFlowMap fuel handles key.anchors tag false ((key.node,item) :: done) key.rest

def parseFlowValue (fuel : Nat) (handles : Handles) (a : Anchors) (follow : List Token)
    (tokens : List Token) : Parsed :=
  match fuel with
  | 0 => ⟨.broken,a,[]⟩
  | fuel+1 =>
    match tokens with
    | .value :: rest =>
      if omits follow rest then ⟨emptyNode,a,rest⟩ else parseNode fuel handles a false false rest
    | [] => ⟨.broken,a,[]⟩
    | rest => ⟨emptyNode,a,rest⟩
end

def usualHandles : Handles := [(['!'],[asciiByte '!']),(['!','!'],coreTag "")]

def directives (handles : Handles) (version : Bool) : List Token → Option (Handles × List Token)
  | .version major minor :: rest =>
    if version || major ≠ 1 || !(minor = 1 || minor = 2) then none else directives handles true rest
  | .tagHandle lead meaning :: rest =>
    if (handles.lookup lead).isSome then none else directives ((lead,meaning) :: handles) version rest
  | rest => some (handles,rest)

structure Contents where
  root : Node
  anchors : Anchors
  complete : Bool

def endsStream : List Token → Bool
  | .documentEnd :: rest => endsStream rest
  | tokens => tokens = [.streamEnd]

def parse (tokens : List Token) : Contents :=
  let content (handles : Handles) (tokens : List Token) : Contents :=
    let p := parseNode (4 * tokens.length + 4) handles {} true false tokens
    ⟨p.node,p.anchors,endsStream p.rest⟩
  let explicit : Bool := match tokens with
    | .version _ _ :: _ | .tagHandle _ _ :: _ | .documentStart :: _ => true
    | _ => false
  if tokens = [.streamEnd] then ⟨emptyNode,{},true⟩
  else if !explicit then content usualHandles tokens
  else match directives [] false tokens with
    | some (handles,.documentStart :: rest) => match rest with
      | .version _ _ :: _ | .tagHandle _ _ :: _ | .documentStart :: _ | .documentEnd :: _ | .streamEnd :: _ =>
        ⟨emptyNode,{},endsStream rest⟩
      | _ => content (handles ++ usualHandles) rest
    | _ => ⟨.broken,{},false⟩

end SharedVerifiers.Yaml

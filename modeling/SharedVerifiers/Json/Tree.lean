import SharedVerifiers.Json.Token
namespace SharedVerifiers.Json
open Document

inductive Frame where
  | seq (done : List Node)
  | map (done : List (Node × Node)) (key : Option Node)

def Frame.add (f : Frame) (n : Node) : Frame :=
  match f with
  | .seq done => .seq (n :: done)
  | .map done (some key) => .map ((key,n) :: done) none
  | .map done none => .map done (some n)

def Frame.node (closed : Bool) : Frame → Node
  | .seq done => .seq done.reverse closed
  | .map done none => .map done.reverse closed
  | .map done (some key) => .map ((key,.broken) :: done).reverse closed

def abandon (inner : Option Node) : List Frame → Tree
  | [] => {root := inner.getD .broken,complete := false}
  | f :: outer =>
    let f := match inner with
      | some n => f.add n
      | none => f
    abandon (some (f.node false)) outer

inductive Expecting where
  | value
  | valueOrClose
  | key
  | keyOrClose
  | colon
  | separator
deriving DecidableEq,Repr

def Token.scalar? : Token → Option Node
  | .null => some .null
  | .bool b => some (.bool b)
  | .number (some n) => some (.scalar (.number n) none)
  | .text (some words) => some (.text words)
  | .number none | .text none => some .unreadable
  | _ => none

def Token.key? : Token → Option Node
  | .text value => Token.scalar? (.text value)
  | _ => none

inductive Progress where
  | more (expecting : Expecting) (frames : List Frame)
  | root (n : Node)
  | stuck (t : Tree)

def place (n : Node) : List Frame → Progress
  | [] => .root n
  | f :: outer => .more .separator (f.add n :: outer)

def close : List Frame → Progress
  | [] => .stuck (abandon none [])
  | f :: outer => place (f.node true) outer

def takeValue (frames : List Frame) : Token → Progress
  | .openMap => .more .keyOrClose (.map [] none :: frames)
  | .openSeq => .more .valueOrClose (.seq [] :: frames)
  | token => match token.scalar? with
    | some n => place n frames
    | none => .stuck (abandon (some .broken) frames)

def takeKey (frames : List Frame) (token : Token) : Progress :=
  match token.key?,frames with
  | some key,f :: outer => .more .colon (f.add key :: outer)
  | _,_ => .stuck (abandon none frames)

def step (expecting : Expecting) (frames : List Frame) (token : Token) : Progress :=
  match expecting,token,frames with
  | .value,_,_ => takeValue frames token
  | .valueOrClose,.closeSeq,_ => close frames
  | .valueOrClose,_,_ => takeValue frames token
  | .key,_,_ => takeKey frames token
  | .keyOrClose,.closeMap,_ => close frames
  | .keyOrClose,_,_ => takeKey frames token
  | .colon,.colon,_ => .more .value frames
  | .separator,.comma,.seq _ :: _ => .more .value frames
  | .separator,.comma,.map _ _ :: _ => .more .key frames
  | .separator,.closeSeq,.seq _ :: _ => close frames
  | .separator,.closeMap,.map _ _ :: _ => close frames
  | _,_,_ => .stuck (abandon none frames)

def build (expecting : Expecting) (frames : List Frame) : List Token → Tree
  | [] => abandon (if expecting = .value then some .broken else none) frames
  | token :: rest => match step expecting frames token with
    | .more expecting frames => build expecting frames rest
    | .root n => {root := n,complete := rest.isEmpty}
    | .stuck t => t

def readTree (text : String) : Tree := build .value [] (tokens text)

end SharedVerifiers.Json

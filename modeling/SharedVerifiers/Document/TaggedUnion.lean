import SharedVerifiers.Document.Keeping
namespace SharedVerifiers.Document

structure TaggedUnion (α : Type) where
  title : String
  tag : String
  choices : List α
  name : α → String

namespace TaggedUnion
variable {α : Type}

def readKey (u : TaggedUnion α) : Reader Node := fun r key => do
  let key ← r.follow key
  match key with
  | .scalar (.number (.wide i)) _ =>
    r.locate (refuse (.wrongType (.atom (.number (.wide i))) (.tagOrAnything u.tag)))
  | key => key.keep r

def readEntries (u : TaggedUnion α) (r : Reading) (chosen : Option α) :
    List (Node × Node) → Outcome (Option α × List (Node × Node))
  | [] => return (chosen,[])
  | (key,n) :: rest => do
    let kept ← u.readKey r key
    if kept.words? = some u.tag then
      if chosen.isSome then refuse (.duplicateField u.tag)
      let variant ← Reading.under key.step (readWord u.choices u.name r n)
      readEntries u r (some variant) rest
    else
      let content ← Reading.under key.step (n.keep r)
      let (chosen,more) ← readEntries u r chosen rest
      return (chosen,(kept,content) :: more)

-- As a sequence the variant's name comes first.
def read (u : TaggedUnion α) : Reader (α × Node) := fun r n => r.locate do
  let n ← r.follow n
  match n with
  | .labelled _ => refuse (.wrongType .labelled (.tagged u.title))
  | .map entries closed =>
    if r.room n = 0 then refuse .malformed
    let (chosen,more) ← u.readEntries r.deeper none entries
    if !closed then refuse .malformed
    match chosen with
    | none => refuse (.missingField u.tag)
    | some variant => return (variant,.map more true)
  | .seq items closed =>
    if r.room n = 0 then refuse .malformed
    match items with
    | [] => if closed then refuse (.missingField u.tag) else refuse .malformed
    | first :: rest =>
      let variant ← Reading.under (.item 0) (readWord u.choices u.name r.deeper first)
      let more ← readItems Node.keep r.deeper 1 rest
      if !closed then refuse .malformed
      return (variant,.seq more true)
  | _ => n.refuseFor (.tagged u.title)

end TaggedUnion

end SharedVerifiers.Document

import SharedVerifiers.Document.Record
namespace SharedVerifiers.Document

def Reading.room (r : Reading) (n : Node) : Nat :=
  match r.format.depthLimit with
  | some limit => limit - r.depth
  | none => n.height

-- Everything inside is looked at, so that here even what nobody asks for can be
-- malformed. Without `inner` there is no room for another container.
def keepWith (inner : Option (Reader Node)) : Reader Node := fun r n => do
  let n ← r.follow n
  match n with
  | .broken | .unreadable | .labelled _ | .alias _ => r.locate (refuse .malformed)
  | .scalar (.number (.wide i)) _ =>
    r.locate (refuse (.wrongType (.atom (.number (.wide i))) .anything))
  | .scalar (.misfit words expected) _ =>
    r.locate (refuse (.wrongValue (.atom (.text words)) (.atom expected)))
  | .scalar value _ => return .scalar value none
  | .seq items closed => match inner with
    | none => refuse .malformed
    | some read => r.locate do
      let items ← readItems read r.deeper 0 items
      if closed then return .seq items true else refuse .malformed
  | .map entries closed => match inner with
    | none => refuse .malformed
    | some read => r.locate do
      let entries ← keepEntries read r.deeper entries
      if closed then return .map entries true else refuse .malformed
where
  keepEntries (read : Reader Node) (r : Reading) : List (Node × Node) → Outcome (List (Node × Node))
    | [] => return []
    | (key,n) :: rest => do
      let keptKey ← read r key
      let kept ← Reading.under key.step (read r n)
      let more ← keepEntries read r rest
      return (keptKey,kept) :: more

def keepWithin : Nat → Reader Node
  | 0 => keepWith none
  | room+1 => keepWith (some (keepWithin room))

def Node.keep : Reader Node := fun r n => keepWithin (r.room n) r n

end SharedVerifiers.Document

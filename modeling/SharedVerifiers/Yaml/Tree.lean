import SharedVerifiers.Yaml.Graph
import SharedVerifiers.Yaml.Lexer
namespace SharedVerifiers.Yaml
open Document (Node Tree)

-- How much a document says: one for every scalar and alias, one for the
-- beginning of a container and one for its end.
mutual
def weight (n : Node) : Nat :=
  match n with
  | .broken => 0
  | .unreadable | .scalar _ _ | .alias _ => 1
  | .seq items closed => 1 + weightItems items + closed.toNat
  | .map entries closed => 1 + weightEntries entries + closed.toNat
  | .labelled inner => weight inner
def weightItems (items : List Node) : Nat :=
  match items with
  | [] => 0
  | n :: rest => weight n + weightItems rest
def weightEntries (entries : List (Node × Node)) : Nat :=
  match entries with
  | [] => 0
  | (key,n) :: rest => weight key + weight n + weightEntries rest
end

-- Aliases let a short text say much. A reading may follow a hundred for
-- everything that the text itself says.
def readTree (text : String) : Tree :=
  let d := parse (tokens text)
  {root := d.root,complete := d.complete,targets := d.anchors.targets,follows := 100 * weight d.root}

end SharedVerifiers.Yaml

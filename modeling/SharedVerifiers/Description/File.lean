import SharedVerifiers.Description.Reading
import SharedVerifiers.Json.Tree
import SharedVerifiers.Yaml.Tree
namespace SharedVerifiers
open Document

inductive ReadFailure where
  | notFound
  | isDirectory
  | notDirectory
  | nameTooLong
  | zeroInName
  | notText
deriving DecidableEq,Repr

def ReadFailure.words : ReadFailure → String
  | .notFound => "No such file or directory (os error 2)"
  | .isDirectory => "Is a directory (os error 21)"
  | .notDirectory => "Not a directory (os error 20)"
  | .nameTooLong => "File name too long (os error 36)"
  | .zeroInName => "file name contained an unexpected NUL byte"
  | .notText => "stream did not contain valid UTF-8"

inductive LoadFailure where
  | unread (path : String) (cause : ReadFailure)
  | refused (format : Format) (refusal : Refusal)
deriving DecidableEq,Repr

def LoadFailure.message : LoadFailure → Option String
  | .unread path cause => some ("Failed to read description: " ++ path ++ ": " ++ cause.words)
  | .refused format refusal => (refusal.message format).map ("Failed to parse description: " ++ ·)

namespace Path

def parts (path : String) : List (List Char) := path.toList.splitOn '/'

def isStep (part : List Char) : Bool := part ≠ [] && part ≠ ['.']

def endsInDirectory (path : String) : Bool :=
  match (parts path).getLast? with
  | some part => !isStep part && path ≠ ""
  | none => false

def firstName? (path : String) : Option (List Char) :=
  ((parts path).filter isStep).find? (· ≠ ['.','.'])

def isTooLong (path : String) : Bool := 4096 ≤ path.utf8ByteSize
def isTooLongStep (step : List Char) : Bool := 255 < (String.ofList step).utf8ByteSize

def extension? (path : String) : Option String := do
  let name ← ((parts path).filter isStep).getLast?
  if name = ['.','.'] then none
  else
    let back := name.reverse
    let tail := back.takeWhile (· ≠ '.')
    match back.drop tail.length with
    | _ :: _ :: _ => some (String.ofList tail.reverse)
    | _ => none

end Path

inductive Stored where
  | nothing
  | directory
  | file (bytes : List UInt8)
deriving DecidableEq,Repr

def Stored.open (s : Stored) (path : String) : Except ReadFailure (List UInt8) :=
  if path.toList.contains (Char.ofNat 0) then .error .zeroInName
  else if Path.isTooLong path then .error .nameTooLong
  else match s with
    | .nothing => match Path.firstName? path with
      | some step => .error (if Path.isTooLongStep step then .nameTooLong else .notFound)
      | none => .error (if path = "" then .notFound else .isDirectory)
    | .directory => .error .isDirectory
    | .file bytes => if Path.endsInDirectory path then .error .notDirectory else .ok bytes

def decodeText (bytes : List UInt8) : Except ReadFailure String :=
  match Text.ofBytes? bytes with
  | some text => .ok text
  | none => .error .notText

namespace Description

def readText (format : Format) (tree : Tree) : Except LoadFailure Description :=
  (tree.read format Description.record.read).mapError (.refused format)

def ofJson (text : String) : Except LoadFailure Description := readText .json (Json.readTree text)
def ofYaml (text : String) : Except LoadFailure Description := readText .yaml (Yaml.readTree text)

-- Only the extension decides the format: `json` in lower case is JSON, all else
-- YAML.
def load (path : String) (contents : Except ReadFailure (List UInt8)) : Except LoadFailure Description := do
  let text ← (contents >>= decodeText).mapError (.unread path)
  let d ← if Path.extension? path = some "json" then ofJson text else ofYaml text
  return if d.source.isNone then {d with source := some path} else d

end Description

end SharedVerifiers

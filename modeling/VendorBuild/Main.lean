import VendorBuild.Program
import VendorBuild.Storage.Linked

/-!
# The command

The command takes the vendored tree into memory, lets the program run on it, and writes back the
files that the program has changed.
-/

namespace VendorBuild

/-- A directory that no path of the file system passes. Where a link leads is not known if nothing
    is there; such a link is taken to lead to its own path below this directory. -/
def elsewhere : String := "\x00"

/-- Adds what lies at an absolute path to a tree. A link is added together with what it leads to.
    What lies below a directory is added if `deep` asks for it, and below the directory that a link
    leads to only at the `top`. -/
partial def takeIn (top deep : Bool) (tree : LinkedTree) (path : String) : IO LinkedTree := do
  let file := (← IO.currentDir) / path
  match (← file.symlinkMetadata).type with
  | .dir =>
    let tree := tree.addDirectory ⟨path⟩
    if deep then
      (← file.readDir).foldlM
        (fun tree entry => takeIn false true tree (path ++ "/" ++ entry.fileName)) tree
    else return tree
  | .symlink =>
    if ← file.pathExists then
      let target := (← IO.FS.realPath file).toString
      return (← takeIn false top tree target).addLink ⟨path⟩ ⟨target⟩
    else
      let names : Location := elsewhere :: (LinkedTree.steps ⟨path⟩).dropLast
      let tree := tree.addLink ⟨path⟩ ⟨"/" ++ elsewhere ++ path⟩
      return names.length.fold (fun i _ t => t.put (names.take (i + 1)) .directory) tree
  | _ =>
    let bytes ← IO.FS.readBinFile file
    match tree.addFile ⟨path⟩ bytes.toList with
    | .ok tree => return tree
    | .error fault => throw (IO.userError fault.message)

/-- Adds what lies at an absolute path to a tree, if anything does. -/
def takeInIfThere (tree : LinkedTree) (path : String) : IO LinkedTree := do
  let file := (← IO.currentDir) / path
  let there ← try pure (some (← file.symlinkMetadata)) catch _ => pure none
  match there with
  | some _ => takeIn true true tree path
  | none => return tree

/-- The path at which the file of a location is written back. -/
def pathOf (place : Location) : String :=
  let names := if place.head? = some (elsewhere : RawText) then place.tail else place
  "/" ++ String.intercalate "/" (names.map RawText.text)

/-- Writes back the files in which a tree differs from what it was before. -/
def giveBack (before after : LinkedTree) : IO Unit := do
  let old := before.nodes.toArray
  for (e, i) in after.nodes.zipIdx do
    if old[i]? ≠ some e then
      match e.2 with
      | .file bytes =>
        IO.FS.writeBinFile (pathOf e.1) ⟨bytes.toArray⟩
      | _ => pure ()

end VendorBuild

open VendorBuild in
/-- Runs the command in the working directory. -/
def main (arguments : List String) : IO UInt32 := do
  let root : Path := ⟨(← IO.currentDir).toString⟩
  let env : Environment :=
    { filter := ← IO.getEnv "RUST_LOG"
      level := ← IO.getEnv "BUCKIFY_LOG_LEVEL"
      json := ← IO.getEnv "BUCKIFY_LOG_JSON" }
  let before ← match Request.ofArguments arguments with
    | .ok (.run _) => takeInIfThere .empty ({ root } : Settings).vendorDir.text
    | _ => pure .empty
  let o := runProgram LinkedTree.storage root env arguments before
  giveBack before o.state
  IO.print o.output
  for notice in o.notices do
    IO.eprintln (notice.text o.json)
  return o.exitCode.toUInt32

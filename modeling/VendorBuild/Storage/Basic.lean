import VendorBuild.Path

/-!
# Storage

What the generator asks of a file system, over an arbitrary type of states: whether a path is there
and is a directory, the bytes of a file, the entries of a directory, the directories below a path,
and to write a file. Only writing changes the state, and a write that fails leaves it as it was. The
order in which entries and directories are listed is left open.

Results:
* `StorageFault.isSystemCall`: which faults come from the operating system.
-/

namespace VendorBuild

/-- The bytes of a file. -/
abbrev Bytes := List UInt8

/-- What an entry of a directory is. -/
inductive EntryType where
  | file
  | directory
  | link
deriving DecidableEq

/-- An entry of a directory. -/
structure DirEntry where
  path : Path
  /-- What the name of the entry reads as. -/
  name : String
  type : EntryType
deriving DecidableEq

/-- Why the operating system refuses a call. -/
inductive SystemFault where
  | noSuchFile
  | notDirectory
  | isDirectory
  | nameTooLong
  | tooManyLinks
  | nulInName
deriving DecidableEq

/-- What is said of a refused call. -/
def SystemFault.message : SystemFault → String
  | noSuchFile => "No such file or directory (os error 2)"
  | notDirectory => "Not a directory (os error 20)"
  | isDirectory => "Is a directory (os error 21)"
  | nameTooLong => "File name too long (os error 36)"
  | tooManyLinks => "Too many levels of symbolic links (os error 40)"
  | nulInName => "file name contained an unexpected NUL byte"

/-- Why a storage operation fails. The first six are faults of a store that knows only files and
    directories, the others wrap a fault of the operating system. -/
inductive StorageFault where
  | fileNotFound (path : Path)
  | notFile (path : Path)
  | notDirectory (path : Path)
  | directoryNotFound (path : Path)
  | permissionDenied (path : Path)
  | parentNotFound (path : Path)
  | readFailed (path : Path) (cause : SystemFault)
  | listFailed (path : Path) (cause : SystemFault)
  | writeFailed (path : Path) (cause : SystemFault)
  | walkFailed (root : Path) (cause : SystemFault)
deriving DecidableEq

namespace StorageFault

/-- What is said of a failed operation. -/
def message : StorageFault → String
  | fileNotFound p => "File not found: " ++ p.shown
  | notFile p => "Not a file: " ++ p.shown
  | notDirectory p => "Not a directory: " ++ p.shown
  | directoryNotFound p => "Directory not found: " ++ p.shown
  | permissionDenied p => "Permission denied: " ++ p.shown
  | parentNotFound p => "Parent directory not found: " ++ p.shown
  | readFailed p cause => "Failed to read file " ++ p.shown ++ ": " ++ cause.message
  | listFailed p cause => "Failed to read directory " ++ p.shown ++ ": " ++ cause.message
  | writeFailed p cause => "Failed to write file " ++ p.shown ++ ": " ++ cause.message
  | walkFailed p cause =>
    "Failed to walk directory " ++ p.shown ++ ": " ++ p.text ++ ": IO error for operation on " ++
      p.text ++ ": " ++ cause.message

/-- Whether the innermost cause of a fault is a refused system call. A walk reports its own kind of
    fault, whatever lies behind it. -/
def isSystemCall : StorageFault → Bool
  | readFailed .. | listFailed .. | writeFailed .. => true
  | _ => false

end StorageFault

/-- The operations on states of type `σ`. -/
structure Storage (σ : Type) where
  /-- Whether something is at a path. -/
  contains : σ → Path → Bool
  /-- Whether a directory is at a path. -/
  isDirectory : σ → Path → Bool
  /-- The bytes of a file. -/
  read : σ → Path → Except StorageFault Bytes
  /-- The entries of a directory. -/
  entries : σ → Path → Except StorageFault (List DirEntry)
  /-- The directories at and below a path. -/
  directories : σ → Path → Except StorageFault (List Path)
  /-- Writes a file, in the place of what it held before. -/
  write : σ → Path → String → Except StorageFault σ

end VendorBuild

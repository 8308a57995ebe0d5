import VendorBuild.Text.Raw

/-!
# Paths

A path is a raw text whose parts are separated by slashes. Two spellings lead to the same place when
their components agree: repeated slashes, a slash at the end and a dot that is not the first part do
not count. Two dots do count, because where they lead is known only to a file system.
-/

namespace VendorBuild

/-- A path as it is spelled. -/
structure Path where
  raw : RawText
deriving DecidableEq

/-- One step of a path: the top of the file system, the place the path starts from, one level up, or
    the entry of a given name. -/
inductive Component where
  | top
  | here
  | up
  | name (raw : RawText)
deriving DecidableEq

namespace Component

/-- A component as it is spelled. -/
def raw : Component → RawText
  | top => "/"
  | here => "."
  | up => ".."
  | name raw => raw

/-- What a component reads as. -/
def text (c : Component) : String := c.raw.text

/-- The step that a segment stands for, none for an empty segment or a single dot. -/
def ofSegment? (segment : RawText) : Option Component :=
  if segment = "" ∨ segment = "." then none
  else if segment = ".." then some up
  else some (name segment)

end Component

namespace Path

/-- What a path reads as. -/
def text (p : Path) : String := p.raw.text

/-- Whether a path starts at the top of the file system. -/
def isAbsolute (p : Path) : Bool := p.raw.bytes.head? = some RawText.slash

/-- Where a path starts, if its spelling says so: at the top, or with a leading dot. -/
def start (p : Path) : List Component :=
  if p.isAbsolute then [.top]
  else if p.raw.segments.head? = some "." then [.here]
  else []

/-- The steps of a path. -/
def components (p : Path) : List Component :=
  p.start ++ p.raw.segments.filterMap Component.ofSegment?

/-- The path that follows `p` and then `q`. An absolute `q` stands for itself. -/
def join (p q : Path) : Path :=
  if q.isAbsolute then q
  else if p.raw = "" ∨ p.raw.bytes.getLast? = some RawText.slash then ⟨p.raw ++ q.raw⟩
  else ⟨p.raw ++ "/" ++ q.raw⟩

instance : HDiv Path RawText Path := ⟨fun p name => p.join ⟨name⟩⟩

instance : HDiv Path String Path := ⟨fun p name => p.join ⟨name⟩⟩

theorem slash_def (p : Path) (name : RawText) : p / name = p.join ⟨name⟩ := rfl

theorem slash_ofString (p : Path) (name : String) : p / name = p / (name : RawText) := rfl

/-- The components of the path that holds `p`, none for the top and for a path without steps. -/
def parent? (p : Path) : Option (List Component) :=
  match p.components.getLast? with
  | none | some .top => none
  | some _ => some p.components.dropLast

/-- The name that a path ends with, none if it ends otherwise. -/
def fileName? (p : Path) : Option RawText :=
  match p.components.getLast? with
  | some (.name name) => some name
  | _ => none

/-- Whether `p` leads to `base` or below it. -/
def isUnder (base p : Path) : Bool := base.components.isPrefixOf p.components

/-- The steps that lead from `base` to `p`, if `p` leads to `base` or below it. -/
def stepsFrom? (base p : Path) : Option (List Component) :=
  if isUnder base p then some (p.components.drop base.components.length) else none

/-- The paths that arise as components are added to `p` one after the other. -/
def extensions (p : Path) : List Component → List Path
  | [] => []
  | c :: rest => (p / c.raw) :: extensions (p / c.raw) rest

/-- The paths on the way to `p`, `p` itself last, each spelled by its components. -/
def ancestry (p : Path) : List Path := extensions ⟨""⟩ p.components

/-- A path as a diagnostic shows it. -/
def shown (p : Path) : String := p.raw.quoted

end Path

end VendorBuild

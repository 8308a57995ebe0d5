import VendorBuild.BuildFile
import VendorBuild.Log.Record
import VendorBuild.Package.Discovery

/-!
# Runs

A run discovers all packages, plans their builds and writes their build files, in the order of their
paths. It stops at the first fault and leaves in place what it has written. What happens on the way
is a trace of milestones, each with the state of the storage at that moment; progress events and log
records are both read off it.
-/

namespace VendorBuild

/-- What happens on the way of a run. -/
inductive Milestone where
  | started (vendor : Path)
  | vendorFound (vendor : Path)
  | scanStarted (vendor : Path)
  | scanFinished (directories packages : Nat)
  | packagesKnown (count : Nat)
  | fileWritten (path : Path) (size : Nat)
  | packageDone (displayPath labels : String)
  | completed (count : Nat)
deriving DecidableEq

/-- What an observer of a run is told. -/
inductive ProgressEvent where
  | started (vendor : String)
  | packagesKnown (count : Nat)
  | packageDone (displayPath labels : String)
  | completed (count : Nat)
deriving DecidableEq

namespace Milestone

/-- The event that a milestone is for an observer. -/
def event? : Milestone → Option ProgressEvent
  | started vendor => some (.started vendor.text)
  | packagesKnown count => some (.packagesKnown count)
  | packageDone displayPath labels => some (.packageDone displayPath labels)
  | completed count => some (.completed count)
  | _ => none

/-- The log record of a milestone. -/
def record : Milestone → LogRecord
  | started vendor => ⟨.debug, "Starting BUCK generation", [("vendor_dir", .text vendor.text)]⟩
  | vendorFound vendor =>
    ⟨.debug, "VendorScanner initialized", [("vendor_dir", .text vendor.text)]⟩
  | scanStarted vendor => ⟨.info, "Scanning vendor tree", [("vendor_dir", .text vendor.text)]⟩
  | scanFinished directories packages =>
    ⟨.info, "Vendor scan completed",
      [("directories", .number directories), ("packages", .number packages),
        ("scan_time_ms", .elapsed)]⟩
  | packagesKnown count =>
    ⟨.debug, "Scan complete", [("packages", .number count), ("scan_time_ms", .elapsed)]⟩
  | fileWritten path size =>
    ⟨.debug, "Wrote build file", [("path", .text path.text), ("bytes", .number size)]⟩
  | packageDone displayPath labels =>
    ⟨.info, "generated BUCK", [("path", .text displayPath), ("deps", .text labels)]⟩
  | completed count =>
    ⟨.info, "generated BUCK files", [("count", .number count), ("total_time_ms", .elapsed)]⟩

end Milestone

/-- A build file that a run has written, as its report lists it. -/
structure GeneratedFile where
  displayPath : String
  labels : List String
deriving DecidableEq

/-- The files that a run has written, in order. -/
abbrev Report := List GeneratedFile

/-- Why a run stops. -/
inductive RunFault where
  | discovery (fault : DiscoveryFault)
  /-- Writing the build file of the package at an import path. -/
  | writing (fileName importPath : String) (fault : StorageFault)
deriving DecidableEq

/-- What is said of a run that stops. -/
def RunFault.message : RunFault → String
  | discovery fault => "collect vendor packages: " ++ fault.message
  | writing fileName importPath fault =>
    "write " ++ fileName ++ " for " ++ importPath ++ ": " ++ fault.message

/-- A milestone and the state of the storage when it was reached. -/
structure Moment (σ : Type) where
  milestone : Milestone
  state : σ

/-- How a run, or a part of it, went. -/
structure Outcome (σ : Type) (α : Type) where
  trace : List (Moment σ)
  /-- The state that is left behind. -/
  state : σ
  result : Except RunFault α

namespace Outcome

variable {σ α : Type}

/-- The events that an observer has been told. -/
def events (o : Outcome σ α) : List ProgressEvent := o.trace.filterMap (·.milestone.event?)

/-- The records that have been logged. -/
def records (o : Outcome σ α) : List LogRecord := o.trace.map (·.milestone.record)

/-- The outcome with more that happened before. -/
def after (before : List (Moment σ)) (o : Outcome σ α) : Outcome σ α :=
  { o with trace := before ++ o.trace }

end Outcome

/-- The entry of a build in the report. -/
def Build.generated (settings : Settings) (b : Build) : GeneratedFile :=
  ⟨(b.file settings).displayPath, b.labels⟩

section

variable {σ : Type} (fs : Storage σ) (settings : Settings)

/-- What happens when a build file has been written. -/
def Build.moments (b : Build) (s : σ) : List (Moment σ) :=
  let file := b.file settings
  [⟨.fileWritten file.path file.text.utf8ByteSize, s⟩,
    ⟨.packageDone file.displayPath (showLabels b.labels), s⟩]

/-- Writes the build files of builds, one after the other. -/
def writeAll : List Build → σ → Outcome σ Report
  | [], s => ⟨[], s, .ok []⟩
  | b :: rest, s =>
    match b.write fs settings s with
    | .error fault =>
      ⟨[], s, .error (.writing settings.buildFileName b.package.importPath fault)⟩
    | .ok (_, s) =>
      let o := writeAll rest s
      ⟨b.moments settings s ++ o.trace, o.state, o.result.map (b.generated settings :: ·)⟩

/-- Writes the build files of all packages found. -/
def build (packages : PackageSet) (s : σ) : Outcome σ Report :=
  let o := writeAll fs settings (plan packages settings.cell) s
  match o.result with
  | .error _ => o
  | .ok report =>
    { o with trace := o.trace ++ [⟨.completed report.length, o.state⟩] }

/-- Discovers all packages and writes their build files. -/
def run (s : σ) : Outcome σ Report :=
  let vendor := settings.vendorDir
  let started := [⟨.started vendor, s⟩]
  match checkVendor fs s vendor with
  | .error fault => ⟨started, s, .error (.discovery fault)⟩
  | .ok () =>
    let scanning := started ++ [⟨.vendorFound vendor, s⟩, ⟨.scanStarted vendor, s⟩]
    match scan fs s vendor with
    | .error fault => ⟨scanning, s, .error (.discovery fault)⟩
    | .ok found =>
      let count := found.packages.size
      (build fs settings found.packages s).after
        (scanning ++ [⟨.scanFinished found.directories count, s⟩, ⟨.packagesKnown count, s⟩])

end

end VendorBuild

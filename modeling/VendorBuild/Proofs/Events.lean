import VendorBuild.Proofs.Emission

/-!
# What an observer is told

An observer is told that a run has started, how many packages there are, of each package when its
build file has been written, and at last that the run has completed. A run that fails goes silent
where it fails: nothing is said of the package whose build file could not be written, nor of those
behind it. When a package is announced, the build files up to its own have been written, and no
others.

Results:
* `writeAll_tells`: how far builds get written, and what is said on the way.
* `Tells.state_of_announcement`: what has been written when a package is announced.
* `run_tells_progress`: what is said in a run.
-/

namespace VendorBuild

/-- What an observer is told of a build file that has been written. -/
def GeneratedFile.event (g : GeneratedFile) : ProgressEvent :=
  .packageDone g.displayPath (showLabels g.labels)

/-- Whether an observer is told of a package. -/
def Milestone.isAnnouncement : Milestone → Bool
  | packageDone .. => true
  | _ => false

/-- The moments at which an observer is told of a package, in order. -/
def announcements {σ : Type} (trace : List (Moment σ)) : List (Moment σ) :=
  trace.filter (·.milestone.isAnnouncement)

section

variable {σ : Type} {fs : Storage σ} {settings : Settings} {s s' next : σ} {b : Build}
  {builds rest : List Build} {trace : List (Moment σ)}

/-! ## Writing -/

/-- Whether writing the build files of builds, one after the other, leads from one state to
another. -/
inductive Written (fs : Storage σ) (settings : Settings) : σ → List Build → σ → Prop
  | nil (s : σ) : Written fs settings s [] s
  | cons {s next s' : σ} {b : Build} {rest : List Build}
    (first : fs.write s (b.file settings).path (b.file settings).text = .ok next)
    (later : Written fs settings next rest s') : Written fs settings s (b :: rest) s'

/-- Whether a trace is what happens while the build files of builds are written one after the
other. -/
inductive Tells (fs : Storage σ) (settings : Settings) :
    σ → List Build → List (Moment σ) → σ → Prop
  | nil (s : σ) : Tells fs settings s [] [] s
  | cons {s next s' : σ} {b : Build} {rest : List Build} {trace : List (Moment σ)}
    (first : fs.write s (b.file settings).path (b.file settings).text = .ok next)
    (later : Tells fs settings next rest trace s') :
    Tells fs settings s (b :: rest) (b.moments settings next ++ trace) s'

theorem Tells.written (h : Tells fs settings s builds trace s') :
    Written fs settings s builds s' := by
  induction h with
  | nil s => exact .nil s
  | cons first _ ih => exact .cons first ih

theorem Tells.events (h : Tells fs settings s builds trace s') :
    trace.filterMap (·.milestone.event?) = builds.map fun b => (b.generated settings).event := by
  induction h with
  | nil s => rfl
  | cons first _ ih =>
    rw [List.filterMap_append, ih]
    rfl

/-- When the package of a build is announced, the build files up to that one have been written, and
no others. -/
theorem Tells.state_of_announcement (h : Tells fs settings s builds trace s') {i : Nat}
    {m : Moment σ} (hm : (announcements trace)[i]? = some m) :
    ∃ b, builds[i]? = some b ∧ m.milestone.event? = some (b.generated settings).event ∧
      Written fs settings s (builds.take (i + 1)) m.state := by
  induction h generalizing i with
  | nil s => simp [announcements] at hm
  | @cons s next s' b rest trace first later ih =>
    have hsplit : announcements (b.moments settings next ++ trace) =
        ⟨.packageDone (b.file settings).displayPath (showLabels b.labels), next⟩ ::
          announcements trace := by
      rw [announcements, List.filter_append]
      rfl
    rw [hsplit] at hm
    cases i with
    | zero =>
      rw [List.getElem?_cons_zero, Option.some.injEq] at hm
      rw [← hm]
      exact ⟨b, rfl, rfl, .cons first (.nil next)⟩
    | succ i =>
      rw [List.getElem?_cons_succ] at hm
      obtain ⟨d, hd, hevent, hwritten⟩ := ih hm
      exact ⟨d, hd, hevent, .cons first hwritten⟩

/-- How far builds get written, and what is said on the way: all of them, or those before the first
that cannot be written. -/
inductive Telling (fs : Storage σ) (settings : Settings) (s : σ) (builds : List Build)
    (o : Outcome σ Report) : Prop where
  | complete (tells : Tells fs settings s builds o.trace o.state)
    (result : o.result = .ok (builds.map (·.generated settings)))
  | stopped (before : List Build) (b : Build) (after : List Build) (fault : StorageFault)
    (split : builds = before ++ b :: after) (tells : Tells fs settings s before o.trace o.state)
    (refused : fs.write o.state (b.file settings).path (b.file settings).text = .error fault)
    (result : o.result = .error (.writing settings.buildFileName b.package.importPath fault))

theorem Telling.cons {o : Outcome σ Report}
    (first : fs.write s (b.file settings).path (b.file settings).text = .ok next)
    (h : Telling fs settings next rest o) :
    Telling fs settings s (b :: rest)
      ⟨b.moments settings next ++ o.trace, o.state,
        o.result.map (b.generated settings :: ·)⟩ := by
  cases h with
  | complete tells result => exact .complete (.cons first tells) (by rw [result]; rfl)
  | stopped before d after fault split tells refused result =>
    exact .stopped (b :: before) d after fault (by rw [split]; rfl) (.cons first tells) refused
      (by rw [result]; rfl)

theorem writeAll_tells (fs : Storage σ) (settings : Settings) (builds : List Build) (s : σ) :
    Telling fs settings s builds (writeAll fs settings builds s) := by
  induction builds generalizing s with
  | nil => exact .complete (.nil s) rfl
  | cons b rest ih =>
    cases hwrite : fs.write s (b.file settings).path (b.file settings).text with
    | error fault =>
      have hrefused : b.write fs settings s = .error fault := by rw [Build.write, hwrite]; rfl
      rw [writeAll, hrefused]
      exact .stopped [] b rest fault rfl (.nil s) hwrite rfl
    | ok next =>
      have hdone : b.write fs settings s = .ok (b.file settings, next) := by
        rw [Build.write, hwrite]
        rfl
      rw [writeAll, hdone]
      exact (ih next).cons hwrite

/-! ## Runs -/

theorem events_of_discover_error {cause : DiscoveryFault}
    (h : discover fs s settings.vendorDir = .error cause) :
    (run fs settings s).events = [.started settings.vendorDir.text] := by
  obtain hcheck | ⟨hcheck, hscan⟩ := discover_eq_error_iff.1 h
  · simp only [run, hcheck]
    rfl
  · simp only [run, hcheck, hscan]
    rfl

/-- A run that can tell the packages says that it has started and how many they are, and then what
is said while their builds are written. -/
theorem exists_trace_of_discover_ok {packages : PackageSet}
    (h : discover fs s settings.vendorDir = .ok packages) :
    ∃ before, before.filterMap (·.milestone.event?) =
        [.started settings.vendorDir.text, .packagesKnown packages.size] ∧
      announcements before = [] ∧
      (run fs settings s).trace = before ++ (build fs settings packages s).trace := by
  obtain ⟨hcheck, found, hscan, rfl⟩ := discover_eq_ok_iff_scan.1 h
  simp only [run, hcheck, hscan]
  exact ⟨_, rfl, rfl, rfl⟩

theorem importPaths_plan {packages : PackageSet}
    (h : discover fs s settings.vendorDir = .ok packages) :
    (plan packages settings.cell).map (·.package.importPath) = packages.entries.map (·.1) := by
  obtain ⟨dirs, -, hfound⟩ := found_of_discover h
  rw [plan_eq_map, List.map_map]
  refine List.map_congr_left fun e he => ?_
  exact (hfound e.1 e.2 (NameMap.mem_entries_iff.1 he)).1.symm

/-- What is said while the builds of a plan are written, with the word of completion at the end if
all of them have been. -/
theorem build_tells (fs : Storage σ) (settings : Settings) (packages : PackageSet) (s : σ) :
    let builds := plan packages settings.cell
    let o := build fs settings packages s
    (∃ trace, Tells fs settings s builds trace o.state ∧
      o.trace = trace ++ [⟨.completed builds.length, o.state⟩] ∧
      o.result = .ok (builds.map (·.generated settings))) ∨
    ∃ before b after fault, builds = before ++ b :: after ∧
      Tells fs settings s before o.trace o.state ∧
      fs.write o.state (b.file settings).path (b.file settings).text = .error fault ∧
      o.result = .error (.writing settings.buildFileName b.package.importPath fault) := by
  intro builds o
  obtain ⟨tells, hresult⟩ | ⟨before, b, after, fault, hsplit, tells, hrefused, hresult⟩ :=
    writeAll_tells fs settings builds s
  · left
    have ho : o = { writeAll fs settings builds s with
        trace := (writeAll fs settings builds s).trace ++
          [⟨.completed (builds.map (·.generated settings)).length,
            (writeAll fs settings builds s).state⟩] } := by
      simp only [o, build, builds] at hresult ⊢
      rw [hresult]
    rw [ho]
    exact ⟨_, tells, by rw [List.length_map], hresult⟩
  · right
    have ho : o = writeAll fs settings builds s := by
      simp only [o, build, builds] at hresult ⊢
      rw [hresult]
    rw [ho]
    exact ⟨before, b, after, fault, hsplit, tells, hrefused, hresult⟩

theorem written_of_announcement {packages : PackageSet} {i : Nat} {m : Moment σ}
    (h : discover fs s settings.vendorDir = .ok packages)
    (hm : (announcements (run fs settings s).trace)[i]? = some m) :
    ∃ b, (plan packages settings.cell)[i]? = some b ∧
      m.milestone.event? = some (b.generated settings).event ∧
      Written fs settings s ((plan packages settings.cell).take (i + 1)) m.state := by
  obtain ⟨scanned, -, hquiet, htrace⟩ := exists_trace_of_discover_ok h
  rw [htrace, announcements, List.filter_append, ← announcements, hquiet, List.nil_append] at hm
  obtain ⟨trace, tells, hdone, -⟩ | ⟨before, b, after, fault, hsplit, tells, -, -⟩ :=
    build_tells fs settings packages s
  · have hlast : announcements (build fs settings packages s).trace = announcements trace := by
      rw [hdone, announcements, List.filter_append]
      exact List.append_nil _
    exact tells.state_of_announcement (hlast ▸ hm)
  · obtain ⟨d, hd, hevent, hwritten⟩ := tells.state_of_announcement hm
    have hi : i < before.length := (List.getElem?_eq_some_iff.1 hd).1
    refine ⟨d, ?_, hevent, ?_⟩
    · rw [hsplit, List.getElem?_append_left hi, hd]
    · rwa [hsplit, List.take_append_of_le_length hi]

/-- What an observer of a run is told. If the packages cannot be told, it hears of the start alone.
Otherwise it hears how many packages there are, and of each in the order in which plans list them:
of all of them and of the completion if the run succeeds, and of those before the first whose build
file cannot be written if it fails. Each package is announced with the path and the labels that the
report has for it, at a moment when the build files up to its own have been written and no
others. -/
theorem run_tells_progress (fs : Storage σ) (settings : Settings) (s : σ) :
    (∀ cause, discover fs s settings.vendorDir = .error cause →
      (run fs settings s).result = .error (.discovery cause) ∧
      (run fs settings s).events = [.started settings.vendorDir.text]) ∧
    ∀ packages builds, discover fs s settings.vendorDir = .ok packages →
      builds = plan packages settings.cell →
      builds.length = packages.size ∧
      (builds.map (·.package.importPath)).Pairwise (fun a b => Utf8.encode a < Utf8.encode b) ∧
      ((∃ report, (run fs settings s).result = .ok report ∧
          report = builds.map (·.generated settings) ∧ report.length = packages.size ∧
          Written fs settings s builds (run fs settings s).state ∧
          (run fs settings s).events =
            [.started settings.vendorDir.text, .packagesKnown packages.size] ++
              report.map GeneratedFile.event ++ [.completed report.length]) ∨
        ∃ before b after fault, builds = before ++ b :: after ∧
          Written fs settings s before (run fs settings s).state ∧
          fs.write (run fs settings s).state (b.file settings).path (b.file settings).text =
            .error fault ∧
          (run fs settings s).result =
            .error (.writing settings.buildFileName b.package.importPath fault) ∧
          (run fs settings s).events =
            [.started settings.vendorDir.text, .packagesKnown packages.size] ++
              before.map fun d => (d.generated settings).event) ∧
      ∀ i m, (announcements (run fs settings s).trace)[i]? = some m →
        ∃ b, builds[i]? = some b ∧ m.milestone.event? = some (b.generated settings).event ∧
          Written fs settings s (builds.take (i + 1)) m.state := by
  refine ⟨fun cause h => ⟨(run_of_discover_error h).1, events_of_discover_error h⟩, ?_⟩
  rintro packages builds h rfl
  have hsize := length_plan packages settings.cell
  refine ⟨hsize, ?_, ?_⟩
  · rw [importPaths_plan h]
    exact List.pairwise_map.2 (packages.increasing.imp Utf8.encode_lt_encode)
  refine ⟨?_, fun i m hm => written_of_announcement h hm⟩
  obtain ⟨scanned, hevents, -, htrace⟩ := exists_trace_of_discover_ok h
  obtain ⟨hresult, hstate⟩ := run_of_discover_ok h
  rw [← (build_eq_writeAll packages).1] at hresult
  rw [← (build_eq_writeAll packages).2] at hstate
  rw [hresult, hstate, Outcome.events, htrace, List.filterMap_append, hevents]
  obtain ⟨trace, tells, hdone, hok⟩ | ⟨before, b, after, fault, hsplit, tells, hrefused, hfailed⟩ :=
    build_tells fs settings packages s
  · refine .inl ⟨_, hok, rfl, by rw [List.length_map, hsize], tells.written, ?_⟩
    rw [hdone, List.filterMap_append, tells.events, List.map_map, List.length_map,
      List.append_assoc]
    rfl
  · refine .inr ⟨before, b, after, fault, hsplit, tells.written, hrefused, hfailed, ?_⟩
    rw [tells.events]

/-- A run that is stopped by the second of two packages has told of the first. -/
theorem deniedPackages_told :
    let o := run FlatStore.storage { root := ⟨"/r"⟩ } deniedPackages
    ∃ packages before b after fault,
      discover FlatStore.storage deniedPackages ⟨"/r/vendor"⟩ = .ok packages ∧
      plan packages "vendor" = before ++ b :: after ∧
      Written FlatStore.storage { root := ⟨"/r"⟩ } deniedPackages before o.state ∧
      o.result = .error (.writing "BUCK" b.package.importPath fault) ∧
      before.map (fun d => (d.generated { root := ⟨"/r"⟩ }).event) =
        [.packageDone "vendor/a/BUCK" "[//vendor/b:b]"] := by
  intro o
  have hrun : o.result = .error (.writing "BUCK" "b" (.permissionDenied ⟨"/r/vendor/b/BUCK"⟩)) := by
    decide +kernel
  have hevents : o.events = [.started "/r/vendor", .packagesKnown 2] ++
      [.packageDone "vendor/a/BUCK" "[//vendor/b:b]"] := by decide +kernel
  obtain ⟨hdiscovery, htells⟩ :=
    run_tells_progress FlatStore.storage { root := ⟨"/r"⟩ } deniedPackages
  cases hfound : discover FlatStore.storage deniedPackages ⟨"/r/vendor"⟩ with
  | error cause => cases hrun.symm.trans (hdiscovery cause hfound).1
  | ok packages =>
    obtain ⟨-, -, hend, -⟩ := htells packages _ hfound rfl
    obtain ⟨_, hok, -⟩ | ⟨before, b, after, fault, hsplit, hwritten, -, hstop, htold⟩ := hend
    · cases hrun.symm.trans hok
    · have hannounced := (List.append_inj (htold.symm.trans hevents) rfl).2
      exact ⟨packages, before, b, after, fault, rfl, hsplit, hwritten, hstop, hannounced⟩

end

end VendorBuild

import VendorBuild.Rule.Quoted

/-!
# Library rules

A build file holds one rule. Its text depends on nothing but the rule, so a tree that has not
changed gets the same files again.

Results:
* `Rule.length_lines`: six lines without dependencies, else eight and one for each dependency.
-/

namespace VendorBuild

/-- The rule that builds one package. -/
structure Rule where
  /-- The name by which other rules refer to this one. -/
  name : String
  importPath : String
  /-- The labels of the rules this one depends on. -/
  deps : List String
deriving DecidableEq

namespace Rule

/-- The attribute of the dependencies, left out if there are none. -/
def depsLines (deps : List String) : List String :=
  if deps = [] then []
  else ["    deps = ["] ++ deps.map (fun dep => "        " ++ Quoted.quote dep ++ ",") ++ ["    ],"]

/-- The lines of a build file. -/
def lines (r : Rule) : List String :=
  ["go_library(",
    "    name = " ++ Quoted.quote r.name ++ ",",
    "    srcs = glob([\"*.go\"], exclude = [\"*_test.go\"]),",
    "    package_name = " ++ Quoted.quote r.importPath ++ ","]
  ++ depsLines r.deps
  ++ ["    visibility = [\"PUBLIC\"],", ")"]

/-- The text of a build file. -/
def render (r : Rule) : String := String.join (r.lines.map (· ++ "\n"))

/-- A build file has six lines without dependencies, else eight and one for each dependency. -/
theorem length_lines (r : Rule) :
    r.lines.length = if r.deps = [] then 6 else 8 + r.deps.length := by
  unfold lines depsLines
  split
  · simp
  · simp
    omega

end Rule

end VendorBuild

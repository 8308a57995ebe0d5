import VendorBuild.Text.Quoted

/-!
# Command line options

Arguments are read from left to right. Asking for help or for the version ends the reading at once.
The value of `--log-level` is the next argument unless that looks like an option; whether it is
missing is decided when the next option acts or the arguments end, so an unknown argument is found
first.
-/

namespace VendorBuild

/-- What the arguments ask of a run. -/
structure Options where
  logLevel : Option String := none
  verbose : Bool := false
  quiet : Bool := false
deriving DecidableEq

/-- Why arguments cannot be read. -/
inductive UsageFault where
  | unknownArgument (text : String)
  | missingValue
  | unneededValue (text : String)
  | conflict
deriving DecidableEq

/-- What is said of arguments that cannot be read. -/
def UsageFault.message : UsageFault → String
  | unknownArgument text => "unexpected argument " ++ Text.quoted text
  | missingValue => "a value is required for '--log-level <LEVEL>'"
  | unneededValue text => "unexpected value in " ++ Text.quoted text
  | conflict => "conflicting arguments"

/-- What the arguments ask for. -/
inductive Request where
  | run (options : Options)
  | help (long : Bool)
  | version
deriving DecidableEq

/-- An option without a value. -/
inductive Switch where
  | verbose
  | quiet
  | help
  | version
deriving DecidableEq

namespace Switch

/-- The switch of a long name. -/
def ofName? (name : String) : Option Switch :=
  if name = "verbose" then some verbose
  else if name = "quiet" then some quiet
  else if name = "help" then some help
  else if name = "version" then some version
  else none

/-- The switch of a letter. -/
def ofLetter? (letter : Char) : Option Switch :=
  if letter = 'v' then some verbose
  else if letter = 'q' then some quiet
  else if letter = 'h' then some help
  else if letter = 'V' then some version
  else none

end Switch

namespace Options

/-- The level that the options ask for. -/
def requestedLevel (o : Options) : Option String :=
  match o.logLevel with
  | some level => some level
  | none => if o.verbose then some "debug" else if o.quiet then some "error" else none

/-- A truth value as a diagnostic shows it. -/
def shownBool (b : Bool) : String := if b then "true" else "false"

/-- The options as a log shows them. -/
def shown (o : Options) : String :=
  let level := match o.logLevel with
    | some level => "Some(" ++ Text.quoted level ++ ")"
    | none => "None"
  "CliArgs \x7b log_level: " ++ level ++ ", verbose: " ++ shownBool o.verbose ++ ", quiet: " ++
    shownBool o.quiet ++ " \x7d"

end Options

/-! ## Reading arguments -/

/-- The level option that was met last and has not acted yet. -/
inductive Pending where
  | nothing
  | awaitingValue
  | value (text : String)
deriving DecidableEq

/-- What has been read so far. -/
structure ArgumentState where
  options : Options := {}
  pending : Pending := .nothing
deriving DecidableEq

/-- What a switch leads to. -/
inductive SwitchEffect where
  | goOn (state : ArgumentState)
  | done (request : Request)
deriving DecidableEq

namespace ArgumentState

/-- Sets the level, which may be done once. -/
def setLevel (s : ArgumentState) (level : String) : Except UsageFault ArgumentState :=
  if s.options.logLevel.isSome then .error .conflict
  else .ok { options := { s.options with logLevel := some level }, pending := .nothing }

/-- Lets the level option that is pending act. -/
def settle (s : ArgumentState) : Except UsageFault ArgumentState :=
  match s.pending with
  | .nothing => .ok s
  | .awaitingValue => .error .missingValue
  | .value level => s.setLevel level

/-- Lets a switch act, given in its long form or as a letter. -/
def apply (s : ArgumentState) (long : Bool) (switch : Switch) : Except UsageFault SwitchEffect :=
  match s.settle with
  | .error fault => .error fault
  | .ok s =>
    match switch with
    | .help => .ok (.done (.help long))
    | .version => .ok (.done .version)
    | .verbose =>
      if s.options.verbose then .error .conflict
      else .ok (.goOn { s with options := { s.options with verbose := true } })
    | .quiet =>
      if s.options.quiet then .error .conflict
      else .ok (.goOn { s with options := { s.options with quiet := true } })

/-- Reads the letters behind a single dash. -/
def readLetters (argument : String) (s : ArgumentState) : List Char → Except UsageFault SwitchEffect
  | [] => .ok (.goOn s)
  | letter :: rest =>
    match Switch.ofLetter? letter with
    | none => .error (.unknownArgument argument)
    | some switch =>
      match s.apply false switch with
      | .ok (.goOn s) => readLetters argument s rest
      | effect => effect

/-- Splits the text behind two dashes at the first equals sign. -/
def splitValue (text : List Char) : String × Option String :=
  match text.dropWhile (· ≠ '=') with
  | [] => (String.ofList text, none)
  | _ :: value => (String.ofList (text.takeWhile (· ≠ '=')), some (String.ofList value))

/-- Reads the text behind two dashes. -/
def readLong (argument : String) (s : ArgumentState) (text : List Char) :
    Except UsageFault SwitchEffect :=
  let (name, value?) := splitValue text
  if name = "log-level" then
    match s.settle with
    | .error fault => .error fault
    | .ok s =>
      match value? with
      | some value => (s.setLevel value).map .goOn
      | none => .ok (.goOn { s with pending := .awaitingValue })
  else
    match Switch.ofName? name, value? with
    | none, _ => .error (.unknownArgument argument)
    | some _, some _ => .error (.unneededValue argument)
    | some switch, none => s.apply true switch

/-- What is asked for when all arguments have been read. -/
def finish (s : ArgumentState) : Except UsageFault Request :=
  match s.settle with
  | .error fault => .error fault
  | .ok s =>
    if s.options.verbose && s.options.quiet then .error .conflict else .ok (.run s.options)

/-- Reads arguments. Two dashes alone end the options, and there is nothing else to give. -/
def read (s : ArgumentState) : List String → Except UsageFault Request
  | [] => s.finish
  | argument :: rest =>
    let go : Except UsageFault SwitchEffect → Except UsageFault Request
      | .error fault => .error fault
      | .ok (.done request) => .ok request
      | .ok (.goOn s) => s.read rest
    match argument.toList with
    | ['-', '-'] =>
      match rest with
      | [] => s.finish
      | next :: _ => .error (.unknownArgument next)
    | '-' :: '-' :: text => go (s.readLong argument text)
    | '-' :: letter :: more => go (s.readLetters argument (letter :: more))
    | _ =>
      if s.pending = .awaitingValue then { s with pending := .value argument }.read rest
      else .error (.unknownArgument argument)

end ArgumentState

/-- What the arguments of the command ask for. -/
def Request.ofArguments (arguments : List String) : Except UsageFault Request :=
  ({} : ArgumentState).read arguments

end VendorBuild

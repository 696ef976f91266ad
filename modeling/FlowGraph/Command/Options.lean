import FlowGraph.Net.Address

/-!
# Options

The command line and its errors. An option takes its value from behind an equals sign or from the
next argument, unless that looks like an option itself; one that stays without a value has its
default. Short flags may stand together. An error shows how the program is used, with the options
that were known when it was found.
-/

namespace FlowGraph.Command

/-- The options that have values. -/
inductive Name where
  | addr
  | entities
  | interval
  | preload
  deriving DecidableEq

namespace Name

/-- All of them in the order in which usage shows them. -/
def all : List Name := [addr, entities, interval, preload]

/-- The name of an option behind two dashes. -/
def long : Name → String
  | addr => "addr"
  | entities => "entities"
  | interval => "interval"
  | preload => "preload"

/-- What the help calls the value of an option. -/
def value : Name → String
  | addr => "addr"
  | entities => "addr"
  | interval => "secs"
  | preload => "file"

/-- The value if none is given. -/
def default : Name → Option String
  | addr => some "0.0.0.0:4000"
  | entities => some "127.0.0.1:4001"
  | interval => some "30"
  | preload => none

/-- The option as usage shows it. -/
def shown (n : Name) : String := "--" ++ n.long ++ " <" ++ n.value ++ ">"

/-- The option that is written so. -/
def ofLong? (text : String) : Option Name := all.find? fun n => n.long == text

end Name

/-- What was found on a command line so far: how often each option stands there, the values in
their order, and how often the flag for more output. -/
structure Found where
  times : Name → Nat
  values : Name → List String
  verbose : Nat

/-- Why a command line is not carried out. -/
inductive Refusal where
  | help
  | version
  | unknown (argument : String) (used : List String)
  | repeated (n : Name) (used : List String)
  | noValue (n : Name) (used : List String)
  deriving DecidableEq

/-- What the program is told to do. -/
structure Options where
  addr : String
  entities : String
  interval : String
  preload : Option String
  verbose : Nat
  deriving DecidableEq

namespace Found

/-- Before the first argument. -/
def nothing : Found := ⟨fun _ => 0, fun _ => [], 0⟩

/-- An option was given once more. -/
def see (f : Found) (n : Name) : Found :=
  { f with times := fun m => if m = n then f.times m + 1 else f.times m }

/-- One more value of an option. -/
def give (f : Found) (n : Name) (v : String) : Found :=
  { f with values := fun m => if m = n then f.values m ++ [v] else f.values m }

/-- Defaults where there is no value. -/
def withDefaults (f : Found) : Found :=
  { f with values := fun m => if (f.values m).isEmpty then m.default.toList else f.values m }

/-- What usage shows: every option that stands there or has a value. -/
def used (f : Found) : List String :=
  (Name.all.filter fun n => 0 < f.times n || !(f.values n).isEmpty).map Name.shown ++
    (if 0 < f.verbose then ["-v"] else [])

/-- The first value of an option. -/
def value? (f : Found) (n : Name) : Option String := (f.values n).head?

end Found

/-- Flags that stand together behind a dash. -/
def shorts (f : Found) : List Char → Except Refusal Found
  | [] => .ok f
  | 'v' :: rest => shorts { f with verbose := f.verbose + 1 } rest
  | 'h' :: _ => .error .help
  | 'V' :: _ => .error .version
  | c :: _ => .error (.unknown (String.ofList ['-', c]) f.used)

/-- The name and, behind an equals sign, the value of an option. -/
def splitLong (argument : List Char) : String × Option String :=
  let body := argument.dropWhile (· == '-')
  let name := String.ofList (body.takeWhile (· != '='))
  match body.dropWhile (· != '=') with
  | [] => (name, none)
  | _ :: value => (name, some (String.ofList (value.dropWhile (· == '='))))

/-- One option by its long name, and the option that then waits for its value. -/
def longOption (f : Found) (argument : List Char) : Except Refusal (Found × Option Name) :=
  let (name, value) := splitLong argument
  match Name.ofLong? name with
  | some n =>
    match value with
    | some v => .ok ((f.give n v).see n, none)
    | none => .ok (f.see n, some n)
  | none =>
    if name = "help" then .error .help
    else if name = "version" then .error .version
    else .error (.unknown ("--" ++ name) f.used)

/-- All arguments, with the option that waits for its value. Behind two dashes there are no options
any more, and anything else has no place. -/
def scan (f : Found) (waiting : Option Name) : List String → Except Refusal (Found × Option Name)
  | [] => .ok (f, waiting)
  | "--" :: rest =>
    match rest with
    | [] => .ok (f, waiting)
    | a :: _ => .error (.unknown a f.used)
  | a :: rest =>
    match a.toList with
    | '-' :: '-' :: more => do
      let (f, waiting) ← longOption f ('-' :: '-' :: more)
      scan f waiting rest
    | '-' :: c :: more => do
      let f ← shorts f (c :: more)
      scan f none rest
    | _ =>
      match waiting with
      | some n => scan (f.give n a) none rest
      | none => .error (.unknown a f.used)

/-- What a command line tells the program to do. -/
def Options.ofArguments (arguments : List String) : Except Refusal Options := do
  let (found, waiting) ← scan .nothing none arguments
  let f := found.withDefaults
  match waiting with
  | some n => if (f.values n).isEmpty then throw (.noValue n f.used)
  | none => pure ()
  match Name.all.find? fun n => 1 < f.times n with
  | some n => throw (.repeated n f.used)
  | none => pure ()
  return {
    addr := (f.value? .addr).getD ""
    entities := (f.value? .entities).getD ""
    interval := (f.value? .interval).getD ""
    preload := f.value? .preload
    verbose := f.verbose }

/-- The version that the program tells. -/
def version : String := "0.1.0"

/-- What the program says when it is asked for help. -/
def helpText : String :=
  "\n".intercalate [
    "netgraph " ++ version,
    "network flow correlation and enrichment engine",
    "",
    "USAGE:",
    "    netgraph [FLAGS] [OPTIONS]",
    "",
    "FLAGS:",
    "    -h, --help       Prints help information",
    "    -V, --version    Prints version information",
    "    -v               verbose output",
    "",
    "OPTIONS:",
    "        --addr <addr>        collector listen address [default: 0.0.0.0:4000]",
    "        --entities <addr>    entity feed listen address [default: 127.0.0.1:4001]",
    "        --interval <secs>    enrichment interval [default: 30]",
    "        --preload <file>     JSON file of entities loaded at startup"]

/-- An error, and how the program is used, with the options that are known. -/
def usageError (problem : String) (used : List String) : String :=
  let shown := if used.isEmpty then ["[FLAGS]", "[OPTIONS]"] else used
  "\n".intercalate
    ["error: " ++ problem, "", "USAGE:", "    " ++ " ".intercalate ("netgraph" :: shown), "",
      "For more information try --help"]

/-- What is told of a refusal that is an error. -/
def Refusal.message : Refusal → String
  | help => ""
  | version => ""
  | unknown a used =>
    usageError ("Found argument '" ++ a ++
      "' which wasn't expected, or isn't valid in this context") used
  | repeated n used =>
    usageError ("The argument '" ++ n.shown ++
      "' was provided more than once, but cannot be used multiple times") used
  | noValue n used =>
    usageError ("The argument '" ++ n.shown ++
      "' requires a value but none was supplied") used

end FlowGraph.Command

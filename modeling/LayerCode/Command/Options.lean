import LayerCode.Command.Value

/-!
# Options of the command

Flags come first and start with one or two dashes. A flag has its value behind an equals sign or in
the next argument; a switch needs none. The first argument that is no flag, or two dashes alone, end
the flags.

* `Options`: the values of all flags;
* `Options.set`: the options with the value of one flag;
* `parseFlags`: the options and the arguments behind them.
-/

namespace LayerCode.Command

/-- The values of all flags. -/
structure Options where
  backend : String := "quartus"
  out : String := "-"
  server : String := ""
  dataset : String := "hls_manifests"
  listen : String := ""
  maxConcurrent : Int := 64
  otel : Bool := false
  logLevel : String := "info"
  breakerFailures : Int := 3
  breakerCooldown : Int := 30000000000
deriving DecidableEq, Repr

/-- Why the flags are not read to their end. -/
inductive Stop where
  /-- Help was asked for. -/
  | help
  /-- A flag is unknown, lacks its value or has a wrong one. -/
  | usage
deriving DecidableEq, Repr

/-- The kinds of flags. -/
inductive FlagKind where
  | switch
  | valued
deriving DecidableEq, Repr

/-- The kind of the flag with a name. -/
def flagKind? (name : String) : Option FlagKind :=
  if name = "otel" then some .switch
  else if ["backend", "out", "server", "dataset", "listen", "max-concurrent", "log-level",
      "breaker-failures", "breaker-cooldown"].contains name then some .valued
  else none

/-- The options with the value of one flag; none when the value is wrong. -/
def Options.set (o : Options) (name value : String) : Option Options :=
  match name with
  | "backend" => some { o with backend := value }
  | "out" => some { o with out := value }
  | "server" => some { o with server := value }
  | "dataset" => some { o with dataset := value }
  | "listen" => some { o with listen := value }
  | "log-level" => some { o with logLevel := value }
  | "max-concurrent" => (parseInt value).map fun n => { o with maxConcurrent := n }
  | "breaker-failures" => (parseInt value).map fun n => { o with breakerFailures := n }
  | "breaker-cooldown" => (parseDuration value).map fun n => { o with breakerCooldown := n }
  | "otel" => (parseBool value).map fun b => { o with otel := b }
  | _ => none

/-- What an argument is. -/
inductive Argument where
  /-- The first argument behind the flags. -/
  | operand
  /-- Ends the flags. -/
  | terminator
  | flag (name : String) (value : Option String)
  | malformed
deriving DecidableEq, Repr

/-- A flag by what stands behind its dashes. -/
def flagOf (cs : List Char) : Argument :=
  match cs with
  | [] => .malformed
  | c :: rest =>
    if c = '-' ∨ c = '=' then .malformed
    else
      let name := String.ofList (c :: rest.takeWhile (· != '='))
      match rest.dropWhile (· != '=') with
      | [] => .flag name none
      | _ :: value => .flag name (some (String.ofList value))

/-- What an argument is. -/
def classify (argument : String) : Argument :=
  match argument.toList with
  | ['-', '-'] => .terminator
  | '-' :: '-' :: rest => flagOf rest
  | '-' :: c :: rest => flagOf (c :: rest)
  | _ => .operand

/-- The outcome of setting a flag. -/
def Options.setOr (o : Options) (name value : String) : Except Stop Options :=
  match o.set name value with
  | some p => .ok p
  | none => .error .usage

/-- The options and the arguments behind the flags. -/
def parseFlags : Options → List String → Except Stop (Options × List String)
  | o, [] => .ok (o, [])
  | o, argument :: rest =>
    match classify argument with
    | .operand => .ok (o, argument :: rest)
    | .terminator => .ok (o, rest)
    | .malformed => .error .usage
    | .flag name value =>
      match flagKind? name, value with
      | none, _ => .error (if name = "help" ∨ name = "h" then .help else .usage)
      | some _, some v => do parseFlags (← o.setOr name v) rest
      | some .switch, none => do parseFlags (← o.setOr name "true") rest
      | some .valued, none =>
        match rest with
        | [] => .error .usage
        | v :: rest => do parseFlags (← o.setOr name v) rest

end LayerCode.Command

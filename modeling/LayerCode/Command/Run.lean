import LayerCode.Batch.Run
import LayerCode.Command.Options
import LayerCode.Text.Fold

/-!
# The command

The command generates code for the snapshots that its arguments name. It first reads its flags,
then the log level, then looks up the target; without arguments it shows its usage. A fatal event
ends the command, also when the log level keeps it from being shown.

* `parseLevel`: the log level that a text names;
* `Command.run`: the exit status, the output and the files afterwards.
-/

namespace LayerCode.Command

open Text

/-- The names of the log levels, with their numbers. -/
def levelNames : List (String × Int) :=
  [("trace", -1), ("debug", 0), ("info", 1), ("warn", 2), ("error", 3), ("fatal", 4), ("panic", 5),
   ("disabled", 7), ("", 6)]

/-- The number of fatal events. -/
def fatalLevel : Int := 4

/-- The log level that a text names, or the text of the failure to name one. -/
def parseLevel (text : String) : Except String Int :=
  match levelNames.find? fun l => sameWord text l.1 with
  | some l => .ok l.2
  | none =>
    match parseDecimal text with
    | none => .error ("Unknown Level String: '" ++ text ++ "', defaulting to NoLevel")
    | some n =>
      if n < -128 ∨ 127 < n then
        .error ("Out-Of-Bounds Level: '" ++ n.repr ++ "', defaulting to NoLevel")
      else .ok n

/-- A fatal event: its text and the error that goes with it. -/
structure Fatal where
  message : String
  error : String
deriving DecidableEq, Repr

/-- What the command came to. -/
structure Outcome where
  exit : UInt32
  stdout : List Record := []
  files : Files
  /-- The fatal event, if there is one to be seen. -/
  fatal : Option Fatal := none

/-- The command ends with a fatal event, which is seen when the log level lets it through. -/
def fatal (fs : Files) (level : Int) (message error : String) : Outcome :=
  { exit := 1, files := fs, fatal := if level ≤ fatalLevel then some ⟨message, error⟩ else none }

/-- No record is handed over by the command on its own. -/
def noTransport : Transport Unit Record := fun state _ _ => (state, none)

/-- Generates code for the snapshots that the arguments name. -/
def generate (fs : Files) (level : Int) (o : Options) (t : Target) (paths : List String) :
    Outcome :=
  match paths with
  | [] => { exit := 2, files := fs }
  | _ =>
    let batch := Batch.run noTransport 0 none () fs { target := t, paths := paths, out := o.out }
    match batch.result with
    | .error fault => fatal batch.files level "Code generation failed" fault.message
    | .ok () => { exit := 0, stdout := batch.stdout, files := batch.files }

/-- Runs the command in a working directory. -/
def run (fs : Files) (arguments : List String) : Outcome :=
  match parseFlags {} arguments with
  | .error .help => { exit := 0, files := fs }
  | .error .usage => { exit := 2, files := fs }
  | .ok (o, paths) =>
    match parseLevel o.logLevel with
    | .error text => fatal fs fatalLevel "Invalid log level" text
    | .ok level =>
      match Target.lookup (.ofString o.backend) with
      | .error unknown => fatal fs level "Failed to select backend" unknown.message
      | .ok t => generate fs level o t paths

end LayerCode.Command

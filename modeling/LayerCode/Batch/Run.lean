import LayerCode.Batch.Files
import LayerCode.Compile
import LayerCode.Publish.Manifest
import LayerCode.Publish.Publisher
import LayerCode.Snapshot.Read

/-!
# Generating code for files

Every snapshot is worked on before anything is written or published, so a graph that fails leaves
nothing behind. The manifests then go to a publisher, to a file, or to the standard output.

* `Batch.Job`: what to generate code for, and where it goes;
* `Batch.Fault`;
* `Batch.compileAll`: the manifests of all files;
* `Batch.World`: what a run does not know beforehand;
* `Batch.runIn`: a run in a world, and `Batch.run` in a calm one.
-/

namespace LayerCode.Batch

open Text

/-- What to generate code for, and where it goes. -/
structure Job where
  target : Target
  paths : List String
  out : String
  canceled : Bool := false

/-- Why a run ended. -/
inductive Fault where
  | cannotOpen (path : String) (fault : PathFault)
  | isDirectory (path : String)
  | snapshot (path : String) (fault : Snapshot.Fault)
  | compile (path : String) (fault : Compile.Fault)
  | publish (fault : Publisher.Fault)
  | write (fault : Files.WriteFault)
deriving DecidableEq, Repr

/-- The text of a fault. -/
def Fault.message : Fault → String
  | .cannotOpen path fault => "open " ++ path ++ ": " ++ fault.message
  | .isDirectory path =>
    path ++ ": failed to decode graph snapshot: read " ++ path ++ ": is a directory"
  | .snapshot path fault => path ++ ": " ++ fault.message
  | .compile path fault => path ++ ": " ++ fault.message
  | .publish fault => fault.message
  | .write fault => fault.message

/-! ## Files to manifests -/

/-- The graph in a file. -/
def openFile (fs : Files) (path : String) : Except Fault Graph :=
  match fs.locate path with
  | .error fault => .error (.cannotOpen path fault)
  | .ok (.directory _) => .error (.isDirectory path)
  | .ok (.file place) =>
    (Snapshot.decode (((fs.content? place).map Content.start).getD [])).mapError (.snapshot path)

/-- The code of the graph in a file. -/
def compileFile (job : Job) (fs : Files) (path : String) : Journal × Except Fault Result :=
  match openFile fs path with
  | .error fault => ({}, .error fault)
  | .ok g =>
    let o := LayerCode.compile job.target job.canceled g
    match o.result with
    | .error fault => (o.journal, .error (.compile path fault))
    | .ok r =>
      (o.journal ++ .event (.compiledFile r.graph job.target.name r.parts.length), .ok r)

/-- The manifests of files, in order; a graph without nodes has none. -/
def compileAll (job : Job) (fs : Files) : List String → Journal × Except Fault (List Record)
  | [] => ({}, .ok [])
  | path :: paths =>
    match compileFile job fs path with
    | (journal, .error fault) => (journal, .error fault)
    | (journal, .ok r) =>
      match compileAll job fs paths with
      | (more, .error fault) => (journal ++ more, .error fault)
      | (more, .ok records) =>
        (journal ++ more, .ok ((Record.ofResult? r).toList ++ records))

/-! ## Manifests to their destination -/

variable {τ : Type}

/-- What publishing came to. -/
structure Published (τ : Type) where
  publisher : Publisher
  transport : τ
  events : List LogEvent
  fault : Option Publisher.Fault

/-- What a run does not know beforehand: the system, and the readings of the clock in the course of
each publish, when the breaker is asked and when it is told of a failure. -/
structure World where
  system : System
  asked : Nat → Int
  told : Nat → Int

/-- The system refuses nothing, and the clock stands still. -/
def World.calm (now : Int) : World := ⟨.calm, fun _ => now, fun _ => now⟩

/-- Publishes records one after the other, up to the first failure. The first of them is the `n`-th
publish of the run. -/
def publishAll (put : Transport τ Record) (world : World) :
    Nat → Publisher → τ → List Record → Published τ
  | _, p, state, [] => ⟨p, state, [], none⟩
  | n, p, state, r :: rs =>
    let o := p.publishDuring put (world.asked n) (world.told n) state r
    match o.fault with
    | some fault => ⟨o.publisher, o.transport, o.events, some fault⟩
    | none =>
      let rest := publishAll put world (n + 1) o.publisher o.transport rs
      { rest with events := o.events ++ rest.events }

/-- What a run came to. -/
structure Outcome (τ : Type) where
  files : Files
  stdout : List Record := []
  transport : τ
  journal : Journal := {}
  result : Except Fault Unit

/-- Hands the records of a run to their destination. -/
def deliver (put : Transport τ Record) (world : World) (publisher : Option Publisher) (state : τ)
    (fs : Files) (out : String) (records : List Record) : Outcome τ :=
  match publisher with
  | some p =>
    let published := publishAll put world 0 p state records
    match published.fault with
    | some fault =>
      { files := fs, transport := published.transport, journal := ⟨published.events, []⟩
        result := .error (.publish fault) }
    | none =>
      { files := fs, transport := published.transport
        journal := ⟨published.events ++ [.published records.length], []⟩, result := .ok () }
  | none =>
    if out = "-" then { files := fs, stdout := records, transport := state, result := .ok () }
    else
      let (after, result) := fs.write world.system out records
      { files := after, transport := state, result := result.mapError .write }

/-- Generates code for all files of a job and hands the manifests to their destination. -/
def runIn (put : Transport τ Record) (world : World) (publisher : Option Publisher) (state : τ)
    (fs : Files) (job : Job) : Outcome τ :=
  match compileAll job fs job.paths with
  | (journal, .error fault) =>
    { files := fs, transport := state, journal := journal, result := .error fault }
  | (journal, .ok records) =>
    let o := deliver put world publisher state fs job.out records
    { o with journal := journal ++ o.journal }

/-- The same in a calm world. -/
def run (put : Transport τ Record) (now : Int) (publisher : Option Publisher) (state : τ)
    (fs : Files) (job : Job) : Outcome τ :=
  runIn put (.calm now) publisher state fs job

end LayerCode.Batch

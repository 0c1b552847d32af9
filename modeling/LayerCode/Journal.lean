import LayerCode.Layer.Variant

/-!
# What a run leaves behind

Every part of the program reports what it did in a journal: the events that go to the log, and the
counters that were raised. A duration is reported by raising the number of its samples.

* `LogEvent`, with its level, its text and its fields;
* `Counter`, with the key it is kept under;
* `Journal`: events and counters in the order they came up.
-/

namespace LayerCode

/-- How urgent an event is. -/
inductive LogLevel where
  | debug
  | info
  | warn
  | error
deriving DecidableEq, Repr

/-- The name of a level. -/
def LogLevel.name : LogLevel → String
  | .debug => "debug"
  | .info => "info"
  | .warn => "warn"
  | .error => "error"

/-- The value of a field of an event. -/
inductive LogValue where
  | text (s : String)
  | number (n : Nat)
deriving DecidableEq, Repr

/-- An event that goes to the log. -/
inductive LogEvent where
  /-- A sweep of the passes found nothing to do. -/
  | fixedPoint (graph : String) (sweeps : Nat)
  /-- The weights of a node are left as they are, though its strategy asks for another order. -/
  | notReordered (node : String) (variant : Variant)
  /-- Code was generated for a graph. -/
  | compiled (graph backend : String) (nodes includes : Nat)
  /-- A manifest could not be handed over. -/
  | manifestFailed (error dataset breaker : String)
  /-- A request asked for code that could not be generated. -/
  | compileFailed (error graph backend : String)
  /-- The manifest of a request could not be published. -/
  | publishFailed (error graph : String)
  /-- A request gave up waiting for its turn. -/
  | notAcquired (error : String)
  /-- Code was generated for a file. -/
  | compiledFile (graph backend : String) (nodes : Nat)
  /-- All manifests of a run were published. -/
  | published (graphs : Nat)
deriving DecidableEq, Repr

namespace LogEvent

/-- The level of an event. -/
def level : LogEvent → LogLevel
  | .fixedPoint .. => .debug
  | .notReordered .. => .warn
  | .compiled .. => .debug
  | .manifestFailed .. => .warn
  | .compileFailed .. => .error
  | .publishFailed .. => .error
  | .notAcquired .. => .error
  | .compiledFile .. => .info
  | .published .. => .info

/-- The text of an event. -/
def message : LogEvent → String
  | .fixedPoint .. => "Passes reached fixed point"
  | .notReordered .. => "Weights not transposed for resource strategy"
  | .compiled .. => "Compiled graph"
  | .manifestFailed .. => "Manifest publish failed"
  | .compileFailed .. => "Compile failed"
  | .publishFailed .. => "Error publishing manifest"
  | .notAcquired .. => "Failed to acquire semaphore"
  | .compiledFile .. => "Compiled graph"
  | .published .. => "Published manifests"

/-- The fields of an event. -/
def fields : LogEvent → List (String × LogValue)
  | .fixedPoint graph sweeps => [("graph", .text graph), ("sweeps", .number sweeps)]
  | .notReordered node variant => [("node", .text node), ("variant", .text variant.name)]
  | .compiled graph backend nodes includes =>
    [("graph", .text graph), ("backend", .text backend), ("nodes", .number nodes),
     ("includes", .number includes)]
  | .manifestFailed error dataset breaker =>
    [("error", .text error), ("dataset", .text dataset), ("breaker", .text breaker)]
  | .compileFailed error graph backend =>
    [("error", .text error), ("graph", .text graph), ("backend", .text backend)]
  | .publishFailed error graph => [("error", .text error), ("graph", .text graph)]
  | .notAcquired error => [("error", .text error)]
  | .compiledFile graph backend nodes =>
    [("graph", .text graph), ("backend", .text backend), ("nodes", .number nodes)]
  | .published graphs => [("graphs", .number graphs)]

end LogEvent

/-- A counter that was raised by one. -/
inductive Counter where
  | passDuration (pass : String)
  | passTransforms (pass : String) (variant : Variant)
  | compileDuration (backend : String)
  | nodesRendered (backend : String) (variant : Variant)
  | renderFailures (backend kind : String)
  | cacheHits
  | cacheMisses
  | requests (status : Nat)
  | requestDuration
deriving DecidableEq, Repr

/-- The name and the labels of a counter, in order of the labels' names. -/
def Counter.key : Counter → String
  | .passDuration pass => "hls_pass_duration_seconds,pass=" ++ pass
  | .passTransforms pass variant =>
    "hls_pass_transforms_total,pass=" ++ pass ++ ",variant=" ++ variant.name
  | .compileDuration backend => "hls_compile_duration_seconds,backend=" ++ backend
  | .nodesRendered backend variant =>
    "hls_nodes_rendered_total,backend=" ++ backend ++ ",variant=" ++ variant.name
  | .renderFailures backend kind =>
    "hls_render_failures_total,backend=" ++ backend ++ ",kind=" ++ kind
  | .cacheHits => "hls_result_cache_hits_total"
  | .cacheMisses => "hls_result_cache_misses_total"
  | .requests status => "hlsgen_requests_total,code=" ++ status.repr
  | .requestDuration => "hlsgen_request_duration_seconds"

/-- What a run left behind, in the order it came up. -/
structure Journal where
  events : List LogEvent := []
  counts : List Counter := []
deriving DecidableEq, Repr

namespace Journal

/-- One journal after another. -/
def append (a b : Journal) : Journal := ⟨a.events ++ b.events, a.counts ++ b.counts⟩

instance : Append Journal := ⟨append⟩

/-- A journal with one event. -/
def event (e : LogEvent) : Journal := ⟨[e], []⟩

/-- A journal with one counter. -/
def count (c : Counter) : Journal := ⟨[], [c]⟩

end Journal

end LayerCode

import LayerCode.Proofs.Compile.Counted
import LayerCode.Proofs.Service.Published

/-!
# The counters account for every request

A request is counted once, under the status of its answer, whichever way it takes. If it tells what
code it asks for, the cache is asked once. If the code is not there, the client has not gone away
and the snapshot can be read, then code is generated once, and that counts the nodes or a failure.
So what the counters show can be checked against the requests, the answers and the calls for code.

* `Server.call?`, `Server.calls`, `Server.raised`: the call for code that a request makes, those of
  a history, and the counters that a history raises;
* `Server.Balanced`: counters that account for requests, answers and calls;
* **`Server.balanced_call`**, **`Server.handle_balanced`**: the counters of a call, and those of a
  request, account for it;
* `Server.handle_of_call?`: a request is answered with what its call comes to.
-/

namespace LayerCode

open Text Outcome

open Compile (Call)

namespace Server

variable {π : Type} (s : Server π)

/-- The call for code that a request makes. It makes none if it does not tell what it asks for, if
the cache has the code, if the client has gone away, or if the snapshot cannot be read. -/
def call? (state : ServerState π) (r : Request) : Option Call :=
  (s.demand? r).bind fun d =>
    if (state.cache.find? d.key).isSome || r.canceled then none
    else (Snapshot.decode d.body).toOption.map fun g => ⟨d.target, g, r.leaves⟩

/-- The calls for code in the course of requests. -/
def calls (state : ServerState π) : List Request → List Call
  | [] => []
  | r :: history => (s.call? state r).toList ++ calls (s.handle state r).state history

/-- The counters that are raised in the course of requests. -/
def raised (state : ServerState π) : List Request → List Counter
  | [] => []
  | r :: history => (s.handle state r).journal.counts ++ raised (s.handle state r).state history

/-- The counters that were raised account for requests, for their answers, and for the calls that
they made for code. -/
structure Balanced (history : List Request) (responses : List Response) (calls : List Call)
    (counts : List Counter) : Prop where
  /-- Requests are counted by the status of the answer. -/
  requests : ∀ status, counts.count (.requests status) =
    responses.countP fun response => response.status == status
  /-- Every request is timed. -/
  requestDuration : counts.count .requestDuration = history.length
  /-- The cache is asked for every request that is for a known target and can be read. -/
  lookups : counts.count .cacheHits + counts.count .cacheMisses =
    history.countP fun r => r.method == "POST" && (s.target r.query).isOk && (readBody r).isOk
  /-- Every call is timed. -/
  compileDuration : ∀ backend, counts.count (.compileDuration backend) =
    calls.countP fun c => c.isFor backend
  /-- Failures, of all kinds together, are the calls that failed. -/
  renderFailures : ∀ backend, counts.countP (Counter.isFailure backend) =
    calls.countP fun c => c.isFor backend && !c.succeeds
  /-- Nodes are counted in the graphs of the calls that succeeded. -/
  nodesRendered : ∀ backend v, counts.count (.nodesRendered backend v) =
    ((calls.filter fun c => c.isFor backend && c.succeeds).map fun c => c.nodesOf v).sum
  /-- Every transform is timed, and is counted unless it failed and so ended the run. -/
  passDuration : ∀ pass, counts.count (.passDuration pass) =
    counts.countP (Counter.isTransform pass) +
      (calls.filterMap Call.passEnd?).countP fun end? => Pass.failedPass? end? == some pass

namespace Balanced

variable {s} {history history' : List Request} {responses responses' : List Response}
  {calls calls' : List Call} {counts counts' : List Counter}

theorem nil : s.Balanced [] [] [] [] := by
  constructor <;> simp

/-- What accounts for two parts of a history accounts for both together. -/
theorem append (h : s.Balanced history responses calls counts)
    (h' : s.Balanced history' responses' calls' counts') :
    s.Balanced (history ++ history') (responses ++ responses') (calls ++ calls')
      (counts ++ counts') where
  requests status := by
    rw [List.count_append, List.countP_append, h.requests, h'.requests]
  requestDuration := by
    rw [List.count_append, List.length_append, h.requestDuration, h'.requestDuration]
  lookups := by
    rw [List.count_append, List.count_append, List.countP_append, ← h.lookups, ← h'.lookups]
    omega
  compileDuration backend := by
    rw [List.count_append, List.countP_append, h.compileDuration, h'.compileDuration]
  renderFailures backend := by
    rw [List.countP_append, List.countP_append, h.renderFailures, h'.renderFailures]
  nodesRendered backend v := by
    rw [List.count_append, List.filter_append, List.map_append, List.sum_append,
      h.nodesRendered, h'.nodesRendered]
  passDuration pass := by
    rw [List.count_append, List.countP_append, List.filterMap_append, List.countP_append,
      h.passDuration, h'.passDuration]
    omega

/-- The order in which counters are raised does not matter. -/
theorem perm (h : s.Balanced history responses calls counts) (hp : counts.Perm counts') :
    s.Balanced history responses calls counts' := by
  obtain ⟨h1, h2, h3, h4, h5, h6, h7⟩ := h
  simp only [hp.count_eq, hp.countP_eq] at h1 h2 h3 h4 h5 h6 h7
  exact ⟨h1, h2, h3, h4, h5, h6, h7⟩

end Balanced

/-! ## A call -/

/-- **The counters that a call raises account for it.** -/
theorem balanced_call (c : Call) : s.Balanced [] [] [c] c.outcome.journal.counts where
  requests status := c.count_of_requests rfl
  requestDuration := c.count_of_requests rfl
  lookups := by
    rw [c.count_of_requests rfl, c.count_of_requests rfl]
    rfl
  compileDuration backend := by
    rw [c.count_compileDuration, List.countP_singleton]
  renderFailures backend := by
    rw [c.countP_isFailure, List.countP_singleton]
  nodesRendered backend v := by
    rw [c.count_nodesRendered, List.filter_singleton]
    cases c.isFor backend && c.succeeds with
    | false => rfl
    | true => simp
  passDuration pass := by
    rw [c.count_passDuration]
    cases hend : c.passEnd? with
    | none => simp [hend]
    | some end? => simp [hend, List.countP_singleton]

/-! ## A request -/

/-- The counter that is raised when the cache is asked. -/
def lookedUp (state : ServerState π) (r : Request) : Option Counter :=
  (s.demand? r).map fun d =>
    if (state.cache.find? d.key).isSome then .cacheHits else .cacheMisses

theorem generate_counts (state : ServerState π) (t : Target) (leaves : Bool)
    (body : List UInt8) :
    (s.generate state t leaves body).journal.counts =
      ((Snapshot.decode body).toOption.map fun g => (⟨t, g, leaves⟩ : Call)).elim [] fun c =>
        c.outcome.journal.counts := by
  unfold generate
  cases Snapshot.decode body with
  | error fault => rfl
  | ok g =>
    show _ = (LayerCode.compile t leaves g).journal.counts
    dsimp only
    cases (LayerCode.compile t leaves g).result with
    | error fault => exact List.append_nil _
    | ok r => exact List.append_nil _

theorem busy_eq_canceled (hs : 0 < s.slots) (r : Request) : s.busy r = r.canceled := by
  simp [busy, Int64.not_le.mpr hs]

/-- **The counters that a request raises before it is counted itself**: one for asking the cache,
and those of its call. -/
theorem answer_counts (hs : 0 < s.slots) (state : ServerState π) (r : Request) :
    (s.answer state r).journal.counts = (s.lookedUp state r).toList ++
      (s.call? state r).elim [] fun c => c.outcome.journal.counts := by
  have hbusy := s.busy_eq_canceled hs r
  by_cases hpost : r.method = "POST"
  · cases ht : s.target r.query with
    | error unknown => simp [answer, lookedUp, call?, demand?, hpost, ht]
    | ok t =>
      cases hbody : readBody r with
      | error text => simp [answer, lookedUp, call?, demand?, hpost, ht, hbody]
      | ok body =>
        have hdemand : s.demand? r = some ⟨t, body⟩ := by simp [demand?, hpost, ht, hbody]
        rw [lookedUp, call?, hdemand, Option.map_some, Option.bind_some, Demand.key]
        cases hfind : state.cache.find? (Cache.key t.name body) with
        | some result => simp [answer, hpost, ht, hbody, Cache.get, hfind, Journal.count]
        | none =>
          cases hgone : r.canceled with
          | true =>
            simp [answer, hpost, ht, hbody, Cache.get, hfind, hbusy, hgone, Journal.count,
              Journal.event]
          | false =>
            simp [answer, hpost, ht, hbody, Cache.get, hfind, hbusy, hgone, Journal.count,
              generate_counts]
  · simp [answer, lookedUp, call?, demand?, hpost]

theorem isSome_demand? (r : Request) : (s.demand? r).isSome =
    (r.method == "POST" && (s.target r.query).isOk && (readBody r).isOk) := by
  unfold demand?
  by_cases hpost : r.method = "POST"
  · rw [if_pos hpost]
    cases s.target r.query <;> cases readBody r <;> simp [hpost]
  · simp [hpost]

/-- The counters that a request raises besides those of its call. -/
theorem balanced_request (state : ServerState π) (r : Request) (response : Response) :
    s.Balanced [r] [response] []
      ((s.lookedUp state r).toList ++ [.requests response.status, .requestDuration]) := by
  have hlooked : s.lookedUp state r = none ∧ (s.demand? r).isSome = false ∨
      (s.lookedUp state r = some .cacheHits ∨ s.lookedUp state r = some .cacheMisses) ∧
        (s.demand? r).isSome = true := by
    unfold lookedUp
    cases s.demand? r with
    | none => exact .inl ⟨rfl, rfl⟩
    | some d =>
      rw [Option.map_some]
      split_ifs
      · exact .inr ⟨.inl rfl, rfl⟩
      · exact .inr ⟨.inr rfl, rfl⟩
  rw [isSome_demand?] at hlooked
  rcases hlooked with ⟨h, hdemand⟩ | ⟨h | h, hdemand⟩
  all_goals
    rw [h]
    constructor <;>
      simp [List.countP_singleton, List.count_cons, hdemand, Counter.isFailure, Counter.isTransform]

/-- **The counters that a request raises account for it.** -/
theorem handle_balanced (hs : 0 < s.slots) (state : ServerState π) {r : Request}
    (hpath : r.path = "/compile") :
    s.Balanced [r] [(s.handle state r).response] (s.call? state r).toList
      (s.handle state r).journal.counts := by
  have hcall : s.Balanced [] [] (s.call? state r).toList
      ((s.call? state r).elim [] fun c => c.outcome.journal.counts) := by
    cases s.call? state r with
    | none => exact .nil
    | some c => exact s.balanced_call c
  have hcounts : (s.handle state r).journal.counts = (s.lookedUp state r).toList ++
      ((s.call? state r).elim [] fun c => c.outcome.journal.counts) ++
        [.requests (s.handle state r).response.status, .requestDuration] := by
    rw [handle, if_pos hpath, ← s.answer_counts hs]
    rfl
  -- The counters of the call are raised between the two parts of those of the request.
  rw [hcounts, List.append_assoc]
  refine ((s.balanced_request state r _).append hcall).perm ?_
  rw [List.append_assoc]
  exact List.perm_append_comm.append_left _

/-! ## Histories -/

theorem history_balanced (hs : 0 < s.slots) (state : ServerState π) {history : List Request}
    (hcompile : ∀ r ∈ history, r.path = "/compile") :
    s.Balanced history (s.responses state history) (s.calls state history)
      (s.raised state history) := by
  induction history generalizing state with
  | nil => exact .nil
  | cons r history ih =>
    rw [List.forall_mem_cons] at hcompile
    exact (s.handle_balanced hs state hcompile.1).append (ih _ hcompile.2)

/-- The answer to a request that makes a call. -/
def answerTo (c : Call) : Response :=
  match c.outcome.result with
  | .ok r => .code r
  | .error fault => .failure (faultStatus fault) fault.message

theorem generate_of_decode (state : ServerState π) (t : Target) (leaves : Bool)
    {body : List UInt8} {g : Graph} (h : Snapshot.decode body = .ok g) :
    (s.generate state t leaves body).response = answerTo ⟨t, g, leaves⟩ := by
  simp only [generate, h, answerTo, Call.outcome]
  cases (LayerCode.compile t leaves g).result <;> rfl

/-- A request that makes a call is answered with what the call comes to. A request that makes none
leaves the server as it was. -/
theorem handle_of_call? (hs : 0 < s.slots) (state : ServerState π) {r : Request}
    (hpath : r.path = "/compile") :
    (∀ c, s.call? state r = some c → (s.handle state r).response = answerTo c) ∧
      (s.call? state r = none → (s.handle state r).state = state) := by
  have hresponse : (s.handle state r).response = (s.answer state r).response := by
    rw [handle, if_pos hpath, compile]
  have hstate : (s.handle state r).state = (s.answer state r).state := by
    rw [handle, if_pos hpath, compile]
  rw [hresponse, hstate]
  rcases s.answer_cases r with ⟨hnone, response, hsame⟩ | ⟨d, hsome, -, -, hcases⟩
  · simp [call?, hnone, (hsame state).1]
  · obtain ⟨hhit, hwait, hmiss⟩ := hcases state
    rw [s.busy_eq_canceled hs] at hwait hmiss
    cases hfind : state.cache.find? d.key with
    | some result => simp [call?, hsome, hfind, (hhit result hfind).1]
    | none =>
      cases hgone : r.canceled with
      | true => simp [call?, hsome, hgone, hwait hfind hgone]
      | false =>
        obtain ⟨hs', hr'⟩ := hmiss hfind hgone
        rw [hs', hr']
        cases hg : Snapshot.decode d.body with
        | error fault => simp [call?, hsome, hfind, hgone, hg, Except.toOption, generate]
        | ok g =>
          simp [call?, hsome, hfind, hgone, hg, Except.toOption, s.generate_of_decode _ _ _ hg]

/-- **The counters account for every request and every call for code.** Whatever requests for code a
server gets one after the other, and whatever it remembers when they start, the counters that they
raise balance with the requests, their answers and the calls that they make. These calls are where
the answers come from, and a request without one changes nothing. -/
theorem counters_account (hs : 0 < s.slots) (state : ServerState π) {history : List Request}
    (hcompile : ∀ r ∈ history, r.path = "/compile") :
    s.Balanced history (s.responses state history) (s.calls state history)
        (s.raised state history) ∧
      ∀ earlier r later, history = earlier ++ r :: later →
        (∀ c, s.call? (s.after state earlier) r = some c →
          (s.handle (s.after state earlier) r).response = answerTo c) ∧
        (s.call? (s.after state earlier) r = none →
          (s.handle (s.after state earlier) r).state = s.after state earlier) := by
  refine ⟨s.history_balanced hs state hcompile, fun earlier r later hhistory => ?_⟩
  exact s.handle_of_call? hs _ (hcompile r (by simp [hhistory]))

/-- A request for the code of a graph. -/
def graphRequest (query : String) (g : Graph) : Request :=
  ⟨"POST", "/compile", query, .ok (Snapshot.graphBytes .single (fun n => n.weights) g),
    false, false⟩

/-- A dense layer, and one behind it that cannot be reordered. -/
def misfitGraph : Graph :=
  ⟨"net", [("fc", Graph.denseLayer "resource"),
    ("flat", { Compile.shapedLayer [2] with name := "flat" })]⟩

/-- Requests that end in every way: with code from a call and from the cache; with the wrong method,
for no target, and with a body that cannot be read; given up before their turn, and given up then;
with bytes that are no snapshot; and with a call that fails at the check of the nodes, and one that
fails in a pass. -/
def variousRequests : List Request :=
  [denseRequest "backend=VIVADO", denseRequest "backend=vivado",
   ⟨"GET", "/compile", "", .ok [], false, false⟩, denseRequest "backend=xyz",
   ⟨"POST", "/compile", "", .error "gone", true, false⟩,
   ⟨"POST", "/compile", "", .ok [0xa0], true, false⟩,
   ⟨"POST", "/compile", "", .ok [0xa0], false, true⟩,
   ⟨"POST", "/compile", "", .ok [0xff], false, false⟩,
   graphRequest "" ⟨"net", [("pool", Compile.poolingLayer)]⟩,
   graphRequest "backend=vivado" misfitGraph]

/-- The counters that these requests raise, one line or more for each. -/
def variousCounts : List Counter :=
  [.cacheMisses, .passDuration "apply_resource_strategy",
    .passTransforms "apply_resource_strategy" .dense, .nodesRendered "vivado" .dense,
    .compileDuration "vivado", .requests 200, .requestDuration,
   .cacheHits, .requests 200, .requestDuration,
   .requests 405, .requestDuration,
   .requests 400, .requestDuration,
   .requests 400, .requestDuration,
   .cacheMisses, .requests 503, .requestDuration,
   .cacheMisses, .renderFailures "quartus" "canceled", .compileDuration "quartus", .requests 500,
    .requestDuration,
   .cacheMisses, .requests 400, .requestDuration,
   .cacheMisses, .renderFailures "quartus" "not_supported", .compileDuration "quartus",
    .requests 422, .requestDuration,
   .cacheMisses, .passDuration "apply_resource_strategy",
    .passTransforms "apply_resource_strategy" .dense, .passDuration "apply_resource_strategy",
    .renderFailures "vivado" "other", .compileDuration "vivado", .requests 500, .requestDuration]

/-- Two calls were made for one of the targets, and one of them failed, after it had reordered the
weights of a node. -/
theorem counters_account_variousRequests :
    0 < lossyServer.slots ∧ (∀ r ∈ variousRequests, r.path = "/compile") ∧
      lossyServer.raised ⟨{}, 0⟩ variousRequests = variousCounts ∧
      lossyServer.Balanced variousRequests (lossyServer.responses ⟨{}, 0⟩ variousRequests)
        (lossyServer.calls ⟨{}, 0⟩ variousRequests) variousCounts ∧
      (lossyServer.calls ⟨{}, 0⟩ variousRequests).countP (fun c => c.isFor "vivado") = 2 ∧
      (lossyServer.calls ⟨{}, 0⟩ variousRequests).countP
        (fun c => c.isFor "vivado" && !c.succeeds) = 1 := by
  have hslots : 0 < lossyServer.slots := by decide
  have hcompile : ∀ r ∈ variousRequests, r.path = "/compile" := by
    simp [variousRequests, denseRequest, graphRequest]
  have hraised : lossyServer.raised ⟨{}, 0⟩ variousRequests = variousCounts := by decide +kernel
  have hbalanced := (lossyServer.counters_account hslots ⟨{}, 0⟩ hcompile).1
  rw [hraised] at hbalanced
  exact ⟨hslots, hcompile, hraised, hbalanced, (hbalanced.compileDuration "vivado").symm,
    (hbalanced.renderFailures "vivado").symm⟩

end Server

end LayerCode

import LayerCode.Proofs.Service.Cached

/-!
# Manifests are handed over once

A server hands the manifest of a snapshot's code to its sink when the code is generated, and the
cache keeps it from being generated again. So the manifests that a sink is handed in the course of
requests are those of the demands that were made, each at its first occurrence. The invariant is
that the cache holds the code of exactly the demands that were made so far.

* `Demand.result?`, `Demand.manifest?`: what a demand leads to;
* `Sink.recorded`, `Server.handedOver`: the manifests that a sink is handed;
* `Cache.Remembers`: the code of the demands so far is in the cache, and no other;
* **`Server.handle_alike`**, `Server.after_alike`: a sink shows in no answer and in no cache;
* **`Server.handle_remembers`**, `Server.after_remembers`: what a request, and a history of them,
  add to the cache and hand over.
-/

namespace LayerCode

open Text Outcome

/-! ## Demands -/

namespace Demand

/-- The code that is demanded, if it can be generated. -/
def result? (d : Demand) : Option Result :=
  (Snapshot.decode d.body).toOption.bind fun g => (compile d.target false g).result.toOption

/-- The manifest of the code that is demanded, if there is any. -/
def manifest? (d : Demand) : Option Record := d.result?.bind Record.ofResult?

/-- **Demands with one key are one demand**, as far as digests tell their snapshots apart. -/
theorem key_inj {bodies : List (List UInt8)} (hd : Digest.Separates bodies) {d e : Demand}
    (hdt : d.target ∈ Target.all) (het : e.target ∈ Target.all) (hdb : d.body ∈ bodies)
    (heb : e.body ∈ bodies) (h : d.key = e.key) : d = e := by
  obtain ⟨dt, db⟩ := d
  obtain ⟨et, eb⟩ := e
  obtain ⟨rfl, hdigest⟩ := Cache.key_inj hdt het h
  obtain rfl := hd db hdb eb heb hdigest
  rfl

theorem copy_of_result? {d : Demand} {r : Result} (h : d.result? = some r) : r.copy = r := by
  obtain ⟨g, -, hr⟩ := Option.bind_eq_some_iff.mp h
  exact Cache.copy_of_compile (eq_ok_of_toOption hr)

end Demand

/-! ## What a cache remembers -/

/-- The cache with the code that is demanded, if it can be generated. -/
def Cache.learn (c : Cache) (d : Demand) : Cache :=
  match d.result? with
  | none => c
  | some r => c.put d.key r

/-- Of all demands for the snapshots, the cache holds the code of those that were made. -/
def Cache.Remembers (bodies : List (List UInt8)) (made : List Demand) (c : Cache) : Prop :=
  ∀ d : Demand, d.target ∈ Target.all → d.body ∈ bodies →
    c.find? d.key = if d ∈ made then d.result? else none

namespace Cache.Remembers

variable {bodies : List (List UInt8)} {made : List Demand} {c : Cache} {d : Demand}

theorem empty (bodies : List (List UInt8)) : Remembers bodies [] {} := by
  intro d _ _
  simp [find?]

theorem of_mem (hc : c.Remembers bodies made) (h : d ∈ made) :
    c.Remembers bodies (made ++ [d]) := by
  intro e het heb
  rw [hc e het heb]
  by_cases he : e = d
  · subst he
    simp [h]
  · simp [he]

theorem learn (hc : c.Remembers bodies made) (hd : Digest.Separates bodies)
    (hdt : d.target ∈ Target.all) (hdb : d.body ∈ bodies) (hmiss : c.find? d.key = none) :
    (c.learn d).Remembers bodies (made ++ [d]) := by
  intro e het heb
  by_cases he : e = d
  · subst he
    rw [if_pos (by simp), Cache.learn]
    cases hr : e.result? with
    | none => exact hmiss
    | some r => simp [find?_put, Demand.copy_of_result? hr]
  · have hkey : e.key ≠ d.key := fun h => he (Demand.key_inj hd het hdt heb hdb h)
    have hsame : (c.learn d).find? e.key = c.find? e.key := by
      rw [Cache.learn]
      cases d.result? with
      | none => rfl
      | some r => simp [find?_put, hkey]
    rw [hsame, hc e het heb]
    simp [he]

end Cache.Remembers

/-! ## Sinks -/

/-- The sink, with a record of the manifests that it is handed. -/
def Sink.recorded {ρ : Type} (sink : Sink ρ) : Sink (ρ × List Record) :=
  fun (state, handed) record =>
    let (after, events, fault) := sink state record
    ((after, handed ++ [record]), events, fault)

namespace Server

variable {π ρ ρ' : Type} (s : Server π)

/-- The server with another sink. -/
def withSink (sink : Sink ρ) : Server ρ := ⟨s.defaultBackend, s.slots, some sink⟩

/-- The manifests that a sink is handed by a server that was just set up, in the course of
requests. -/
def handedOver (sink : Sink ρ) (start : ρ) (history : List Request) : List Record :=
  ((s.withSink sink.recorded).after ⟨{}, start, []⟩ history).sink.2

/-- The answers to requests. -/
def responses (state : ServerState π) : List Request → List Response
  | [] => []
  | r :: history => (s.handle state r).response :: responses (s.handle state r).state history

theorem publish_withSink (sink : Sink ρ) (p : ρ) (r : Result) :
    ((s.withSink sink).publish p r).1 =
      (Record.ofResult? r).elim p fun record => (sink p record).1 := by
  unfold publish withSink
  cases Record.ofResult? r with
  | none => rfl
  | some record =>
    simp only [Option.elim_some]
    rcases sink p record with ⟨after, events, _ | text⟩
    · rfl
    · rfl

/-- The states have one cache, and related sinks. -/
def Alike (R : ρ → ρ' → Prop) (state : ServerState ρ) (state' : ServerState ρ') : Prop :=
  state'.cache = state.cache ∧ R state.sink state'.sink

section Alike

variable {sink : Sink ρ} {sink' : Sink ρ'} {R : ρ → ρ' → Prop}
  (hR : ∀ p p' record, R p p' → R (sink p record).1 (sink' p' record).1)

include hR

theorem publish_alike {p : ρ} {p' : ρ'} (h : R p p') (r : Result) :
    R ((s.withSink sink).publish p r).1 ((s.withSink sink').publish p' r).1 := by
  rw [publish_withSink, publish_withSink]
  cases Record.ofResult? r with
  | none => exact h
  | some record => exact hR p p' record h

variable {state : ServerState ρ} {state' : ServerState ρ'}

theorem generate_alike (h : Alike R state state') (t : Target) (leaves : Bool)
    (body : List UInt8) :
    ((s.withSink sink').generate state' t leaves body).response =
        ((s.withSink sink).generate state t leaves body).response ∧
      Alike R ((s.withSink sink).generate state t leaves body).state
        ((s.withSink sink').generate state' t leaves body).state := by
  unfold generate
  cases Snapshot.decode body with
  | error fault => exact ⟨rfl, h⟩
  | ok g =>
    simp only
    cases (LayerCode.compile t leaves g).result with
    | error fault => exact ⟨rfl, h⟩
    | ok r => exact ⟨rfl, congrArg (Cache.put · _ r) h.1, s.publish_alike hR h.2 r⟩

theorem answer_alike (h : Alike R state state') (r : Request) :
    ((s.withSink sink').answer state' r).response = ((s.withSink sink).answer state r).response ∧
      Alike R ((s.withSink sink).answer state r).state
        ((s.withSink sink').answer state' r).state := by
  have htarget : (s.withSink sink').target r.query = (s.withSink sink).target r.query := rfl
  have hbusy : (s.withSink sink').busy r = (s.withSink sink).busy r := rfl
  unfold answer
  rw [htarget, hbusy, h.1]
  split
  · exact ⟨rfl, h⟩
  · split
    · exact ⟨rfl, h⟩
    · split
      · exact ⟨rfl, h⟩
      · split
        · exact ⟨rfl, h⟩
        · split
          · exact ⟨rfl, h⟩
          · exact s.generate_alike hR h _ _ _

/-- **A sink shows in no answer and in no cache.** Servers that differ in their sinks, with states
that differ in those of their sinks, give one answer. -/
theorem handle_alike (h : Alike R state state') (r : Request) :
    ((s.withSink sink').handle state' r).response = ((s.withSink sink).handle state r).response ∧
      Alike R ((s.withSink sink).handle state r).state
        ((s.withSink sink').handle state' r).state := by
  unfold handle
  split_ifs
  · exact s.answer_alike hR h r
  · exact ⟨rfl, h⟩
  · exact ⟨rfl, h⟩
  · exact ⟨rfl, h⟩

theorem after_alike (h : Alike R state state') (history : List Request) :
    (s.withSink sink').responses state' history = (s.withSink sink).responses state history ∧
      Alike R ((s.withSink sink).after state history)
        ((s.withSink sink').after state' history) := by
  induction history generalizing state state' with
  | nil => exact ⟨rfl, h⟩
  | cons r history ih =>
    obtain ⟨hresponse, hstate⟩ := s.handle_alike hR h r
    obtain ⟨hresponses, hafter⟩ := ih hstate
    refine ⟨?_, hafter⟩
    rw [responses, responses, hresponse, hresponses]

end Alike

/-! ## Histories -/

/-- The manifest that a request leads to after demands were made: that of its own demand, if this is
a new one. -/
def fresh (made : List Demand) (r : Request) : Option Record :=
  (s.demand? r).bind fun d => if d ∈ made then none else d.manifest?

section Recorded

variable (sink : Sink ρ) {state : ServerState (ρ × List Record)} {bodies : List (List UInt8)}
  {made : List Demand}

theorem generate_recorded (state : ServerState (ρ × List Record)) (d : Demand) :
    ((s.withSink sink.recorded).generate state d.target false d.body).state.cache =
        state.cache.learn d ∧
      ((s.withSink sink.recorded).generate state d.target false d.body).state.sink.2 =
        state.sink.2 ++ d.manifest?.toList := by
  unfold generate Demand.manifest? Cache.learn Demand.result?
  cases Snapshot.decode d.body with
  | error fault => simp [Except.toOption]
  | ok g =>
    simp only [Except.toOption, Option.bind_some]
    cases (LayerCode.compile d.target false g).result with
    | error fault => simp
    | ok r =>
      refine ⟨rfl, ?_⟩
      simp only [publish_withSink, Option.bind_some]
      cases Record.ofResult? r with
      | none => simp
      | some record => rfl

/-- **What a request hands over**, and what the cache holds then. -/
theorem handle_remembers (hs : 0 < s.slots) (hd : Digest.Separates bodies)
    (hc : state.cache.Remembers bodies made) {r : Request} (hpath : r.path = "/compile")
    (hr : r.Stays) (hbodies : r.bodies ⊆ bodies) :
    ((s.withSink sink.recorded).handle state r).state.cache.Remembers bodies
        (made ++ (s.demand? r).toList) ∧
      ((s.withSink sink.recorded).handle state r).state.sink.2 =
        state.sink.2 ++ (s.fresh made r).toList := by
  have hhandle : ((s.withSink sink.recorded).handle state r).state =
      ((s.withSink sink.recorded).answer state r).state := by
    rw [handle, if_pos hpath, compile]
  have hdemand : s.demand? r = (s.withSink sink.recorded).demand? r := rfl
  rw [hhandle, fresh, hdemand]
  rcases (s.withSink sink.recorded).answer_cases r with
    ⟨hnone, response, hsame⟩ | ⟨d, hsome, hdt, hdb, hcases⟩
  · rw [hnone, (hsame state).1]
    simpa using hc
  · have hfree : (s.withSink sink.recorded).busy r = false := by
      simp [busy, hr.1, withSink, Int64.not_le.mpr hs]
    obtain ⟨hhit, -, hmiss⟩ := hcases state
    rw [hr.2] at hmiss
    have hfind := hc d hdt (hbodies hdb)
    rw [hsome, Option.toList_some, Option.bind_some]
    by_cases hmade : d ∈ made
    · rw [if_pos hmade] at hfind ⊢
      cases hresult : d.result? with
      | some result =>
        rw [(hhit result (hfind.trans hresult)).1]
        exact ⟨hc.of_mem hmade, by simp⟩
      | none =>
        -- Code that could not be generated before cannot be generated now.
        obtain ⟨hcache, hhanded⟩ := s.generate_recorded sink state d
        rw [(hmiss (hfind.trans hresult) hfree).1, hcache, hhanded, Cache.learn, hresult,
          Demand.manifest?, hresult]
        exact ⟨hc.of_mem hmade, by simp⟩
    · rw [if_neg hmade] at hfind ⊢
      obtain ⟨hcache, hhanded⟩ := s.generate_recorded sink state d
      rw [(hmiss hfind hfree).1, hcache, hhanded]
      exact ⟨hc.learn hd hdt (hbodies hdb) hfind, rfl⟩

theorem demands_concat (history : List Request) (r : Request) :
    (history ++ [r]).filterMap s.demand? =
      history.filterMap s.demand? ++ (s.demand? r).toList := by
  rw [List.filterMap_append]
  cases hr : s.demand? r with
  | none => simp [hr]
  | some d => simp [hr]

theorem firstSeen_fresh (made : List Demand) (r : Request) :
    (firstSeen (made ++ (s.demand? r).toList)).filterMap Demand.manifest? =
      (firstSeen made).filterMap Demand.manifest? ++ (s.fresh made r).toList := by
  unfold fresh
  cases s.demand? r with
  | none => simp
  | some d =>
    rw [Option.toList_some, firstSeen_concat, Option.bind_some]
    by_cases hd : d ∈ made
    · simp [hd]
    · rw [if_neg (by simpa using hd), if_neg hd, List.filterMap_append]
      cases hm : d.manifest? with
      | none => simp [hm]
      | some record => simp [hm]

/-- **What a history hands over**, and what the cache holds then. -/
theorem after_remembers (hs : 0 < s.slots) (hd : Digest.Separates bodies) (start : ρ)
    {history : List Request} (hcompile : ∀ r ∈ history, r.path = "/compile" ∧ r.Stays)
    (hbodies : ∀ r ∈ history, r.bodies ⊆ bodies) :
    ((s.withSink sink.recorded).after ⟨{}, start, []⟩ history).cache.Remembers bodies
        (history.filterMap s.demand?) ∧
      s.handedOver sink start history =
        (firstSeen (history.filterMap s.demand?)).filterMap Demand.manifest? := by
  induction history using List.reverseRecOn with
  | nil => exact ⟨Cache.Remembers.empty bodies, rfl⟩
  | append_singleton history r ih =>
    rw [List.forall_mem_append, List.forall_mem_singleton] at hcompile hbodies
    obtain ⟨hcache, hhanded⟩ := ih hcompile.1 hbodies.1
    have hstep := s.handle_remembers sink hs hd hcache hcompile.2.1 hcompile.2.2 hbodies.2
    have hafter : (s.withSink sink.recorded).after ⟨{}, start, []⟩ (history ++ [r]) =
        ((s.withSink sink.recorded).handle
          ((s.withSink sink.recorded).after ⟨{}, start, []⟩ history) r).state := by
      rw [after, List.foldl_append]
      rfl
    rw [handedOver, hafter, s.demands_concat, s.firstSeen_fresh, ← hhanded]
    exact hstep

end Recorded

/-- **The manifest of what is demanded is handed over once.** In the course of requests for code, a
sink is handed the manifests of the demands that are made, each by the first request that makes it.
Other requests hand over nothing. A sink that takes the manifests otherwise, or fails to, is handed
the same ones, and the answers are the same; and keeping a record of them changes nothing. -/
theorem handedOver_once (hs : 0 < s.slots) {history : List Request}
    (hcompile : ∀ r ∈ history, r.path = "/compile" ∧ r.Stays)
    (hd : Digest.Separates (history.flatMap Request.bodies)) (sink : Sink ρ) (start : ρ) :
    s.handedOver sink start history =
        (firstSeen (history.filterMap s.demand?)).filterMap Demand.manifest? ∧
      (∀ earlier r later, history = earlier ++ r :: later →
        s.handedOver sink start (earlier ++ [r]) =
          s.handedOver sink start earlier ++
            (s.fresh (earlier.filterMap s.demand?) r).toList) ∧
      (∀ {ρ' : Type} (sink' : Sink ρ') (start' : ρ'),
        s.handedOver sink' start' history = s.handedOver sink start history ∧
          (s.withSink sink').responses ⟨{}, start'⟩ history =
            (s.withSink sink).responses ⟨{}, start⟩ history) ∧
      ((s.withSink sink.recorded).after ⟨{}, start, []⟩ history).sink.1 =
        ((s.withSink sink).after ⟨{}, start⟩ history).sink := by
  have hbodies : ∀ r ∈ history, r.bodies ⊆ history.flatMap Request.bodies :=
    fun r hr body hbody => List.mem_flatMap.mpr ⟨r, hr, hbody⟩
  have hall := (s.after_remembers sink hs hd start hcompile hbodies).2
  refine ⟨hall, ?_, fun {ρ'} sink' start' => ⟨?_, ?_⟩, ?_⟩
  · intro earlier r later hhistory
    have hsub : earlier ++ [r] ⊆ history := by
      rw [hhistory]
      exact List.append_subset.mpr ⟨by simp, by simp⟩
    have hsub' : earlier ⊆ history := fun q hq => hsub (List.mem_append_left _ hq)
    rw [(s.after_remembers sink hs hd start (fun q hq => hcompile q (hsub hq))
        fun q hq => hbodies q (hsub hq)).2,
      (s.after_remembers sink hs hd start (fun q hq => hcompile q (hsub' hq))
        fun q hq => hbodies q (hsub' hq)).2,
      s.demands_concat, s.firstSeen_fresh]
  · rw [hall, (s.after_remembers sink' hs hd start' hcompile hbodies).2]
  · have hstart : Alike (fun (_ : ρ) (_ : ρ') => True) ⟨{}, start⟩ ⟨{}, start'⟩ :=
      ⟨rfl, trivial⟩
    exact (s.after_alike (fun _ _ _ _ => trivial) hstart history).1
  · have hR : ∀ (p : ρ) (p' : ρ × List Record) record, p'.1 = p →
        (sink.recorded p' record).1.1 = (sink p record).1 := by
      rintro p ⟨-, handed⟩ record rfl
      rfl
    have hstart : Alike (fun (p : ρ) (p' : ρ × List Record) => p'.1 = p) ⟨{}, start⟩
        ⟨{}, start, []⟩ := ⟨rfl, rfl⟩
    exact (s.after_alike hR hstart history).2.2

/-- Requests for the code of a dense layer and of an empty graph, over and over. -/
def repeatedRequests : List Request :=
  [denseRequest "backend=VIVADO", ⟨"POST", "/compile", "", .ok [0xa0], false, false⟩,
   ⟨"GET", "/compile", "", .error "gone", false, false⟩, denseRequest "backend=vivado",
   denseRequest "", denseRequest "backend=vivado"]

/-- A sink that takes nothing is handed the manifest of the dense layer for either target. -/
theorem handedOver_once_repeatedRequests :
    0 < lossyServer.slots ∧
      (∀ r ∈ repeatedRequests, r.path = "/compile" ∧ r.Stays) ∧
      Digest.Separates (repeatedRequests.flatMap Request.bodies) ∧
      lossyServer.handedOver (fun lost _ => (lost + 1, [], some "unreachable")) 0
          repeatedRequests =
        (firstSeen (repeatedRequests.filterMap lossyServer.demand?)).filterMap
          Demand.manifest? ∧
      (lossyServer.handedOver (fun lost _ => (lost + 1, [], some "unreachable")) 0
          repeatedRequests).map (fun record => record.metadata[1]?) =
        [some ("backend", "vivado"), some ("backend", "quartus")] := by
  have hslots : 0 < lossyServer.slots := by decide
  have hcompile : ∀ r ∈ repeatedRequests, r.path = "/compile" ∧ r.Stays := by
    simp [repeatedRequests, denseRequest, Request.Stays]
  have hd : Digest.Separates (repeatedRequests.flatMap Request.bodies) := by
    unfold Digest.Separates
    decide +kernel
  exact ⟨hslots, hcompile, hd,
    (lossyServer.handedOver_once hslots hcompile hd _ 0).1, by decide +kernel⟩

end Server

end LayerCode

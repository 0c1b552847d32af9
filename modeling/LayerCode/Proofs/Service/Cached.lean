import Mathlib.Data.List.Basic
import LayerCode.Proofs.Compile.Strategy
import LayerCode.Proofs.Snapshot.RoundTrip
import LayerCode.Proofs.Text.Listing
import LayerCode.Service.Server

/-!
# The cache shows in no answer

A server answers from its cache what it would have answered without it. The invariant is that every
result in the cache is the code of a snapshot that was sent before, for the target in its key; only
successes get there, and a copy of a success is the success. A key tells targets apart, and
snapshots as far as their digests differ.

* `Digest.hex_inj`, `Cache.key_inj`: what is known of two snapshots with one key;
* `Cache.find?_put`: the results in a cache after one was put there;
* `Cache.Faithful`: the results are the code of snapshots that were sent;
* `Demand`, `Server.demand?`: what a request asks for;
* **`Server.handle_faithful`**, `Server.after_faithful`: a request, and a history of them, keep a
  cache faithful;
* `Server.answer_response`: the answer from a faithful cache is the answer that is worked out.
-/

namespace LayerCode

open Text Outcome

/-! ## Keys -/

namespace Digest

/-- No two of the byte strings have the same digest. -/
def Separates (bodies : List (List UInt8)) : Prop :=
  ∀ a ∈ bodies, ∀ b ∈ bodies, ofBytes a = ofBytes b → a = b

theorem digitChar_inj {i j : Nat} (hi : i < 16) (hj : j < 16)
    (h : Nat.digitChar i = Nat.digitChar j) : i = j := by
  have hall : ∀ i < 16, ∀ j < 16, Nat.digitChar i = Nat.digitChar j → i = j := by decide
  exact hall i hi j hj h

theorem hex_inj {a b : List UInt8} (h : hex a = hex b) : a = b := by
  have hdigits := congrArg String.toList h
  simp only [hex, String.toList_ofList] at hdigits
  clear h
  induction a generalizing b with
  | nil =>
    cases b with
    | nil => rfl
    | cons y b => simp at hdigits
  | cons x a ih =>
    cases b with
    | nil => simp at hdigits
    | cons y b =>
      simp only [List.flatMap_cons, List.cons_append, List.nil_append, List.cons.injEq] at hdigits
      obtain ⟨hhigh, hlow, hrest⟩ := hdigits
      have hx := x.toNat_lt
      have hy := y.toNat_lt
      have hhigh := digitChar_inj (by omega) (by omega) hhigh
      have hlow := digitChar_inj (by omega) (by omega) hlow
      rw [ih hrest, UInt8.toNat_inj.mp (show x.toNat = y.toNat by omega)]

end Digest

theorem Target.lookup_mem {text : RawText} {t : Target} (h : lookup text = .ok t) : t ∈ all := by
  unfold lookup at h
  split at h
  · exact absurd h (by simp)
  · split at h
    · next t' ht =>
      obtain rfl := Except.ok.inj h
      exact List.mem_of_find?_eq_some ht
    · exact absurd h (by simp)

namespace Cache

/-- **Snapshots with one key are for one target, and have one digest.** -/
theorem key_inj {t t' : Target} (ht : t ∈ Target.all) (ht' : t' ∈ Target.all) {a b : List UInt8}
    (h : key t.name a = key t'.name b) : t = t' ∧ Digest.ofBytes a = Digest.ofBytes b := by
  have hchars := congrArg String.toList h
  simp only [key, String.toList_append, List.append_assoc] at hchars
  have hq : Target.quartus.name.toList = 'q' :: "uartus".toList := by decide
  have hv : Target.vivado.name.toList = 'v' :: "ivado".toList := by decide
  simp only [Target.all, List.mem_cons, List.not_mem_nil, or_false] at ht ht'
  rcases ht with rfl | rfl <;> rcases ht' with rfl | rfl
  · refine ⟨rfl, Digest.hex_inj (String.toList_inj.mp ?_)⟩
    exact List.append_cancel_left (List.append_cancel_left hchars)
  · rw [hq, hv] at hchars
    simp at hchars
  · rw [hq, hv] at hchars
    simp at hchars
  · refine ⟨rfl, Digest.hex_inj (String.toList_inj.mp ?_)⟩
    exact List.append_cancel_left (List.append_cancel_left hchars)

/-! ## Results in a cache -/

theorem find?_put (c : Cache) (k : String) (r : Result) (k' : String) :
    (c.put k r).find? k' = if k' = k then some r.copy else c.find? k' := by
  split_ifs with h
  · subst h
    simp only [find?, put, List.lookup_cons, beq_self_eq_true, Option.map_some]
    rfl
  · have hne : (k' == k) = false := beq_eq_false_iff_ne.mpr h
    simp only [find?, put, List.lookup_cons, hne, lookup_filter_ne h]

/-- Every result is the code of one of the snapshots, for the target in its key. -/
def Faithful (bodies : List (List UInt8)) (c : Cache) : Prop :=
  ∀ k r, c.find? k = some r → ∃ t ∈ Target.all, ∃ body ∈ bodies, ∃ g,
    k = key t.name body ∧ Snapshot.decode body = .ok g ∧ (compile t false g).result = .ok r

theorem faithful_empty (bodies : List (List UInt8)) : Faithful bodies {} :=
  fun _ _ h => absurd h (by simp [find?])

/-- A success has a list of the code of nodes, so its copy is the success itself. -/
theorem copy_of_compile {t : Target} {g : Graph} {r : Result}
    (h : (compile t false g).result = .ok r) : r.copy = r := by
  obtain ⟨name, artifacts, rfl⟩ := Compile.exists_artifacts h
  rfl

theorem Faithful.put {bodies : List (List UInt8)} {c : Cache} (hc : c.Faithful bodies) {t : Target}
    (ht : t ∈ Target.all) {body : List UInt8} (hbody : body ∈ bodies) {g : Graph}
    (hg : Snapshot.decode body = .ok g) {r : Result} (hr : (compile t false g).result = .ok r) :
    (c.put (key t.name body) r).Faithful bodies := by
  intro k r' hk
  rw [find?_put] at hk
  split_ifs at hk with hkey
  · obtain rfl := Option.some.inj hk
    exact ⟨t, ht, body, hbody, g, hkey, hg, (copy_of_compile hr).symm ▸ hr⟩
  · exact hc k r' hk

end Cache

/-! ## Requests -/

/-- The client is there until it is answered. -/
def Request.Stays (r : Request) : Prop := r.canceled = false ∧ r.leaves = false

/-- The body of a request, if it can be read. -/
def Request.bodies (r : Request) : List (List UInt8) := r.body.toOption.toList

theorem Server.mem_bodies_of_readBody {r : Request} {body : List UInt8}
    (h : readBody r = .ok body) : body ∈ r.bodies := by
  unfold readBody at h
  split at h
  · exact absurd h (by simp)
  · next b hb =>
    split_ifs at h
    obtain rfl := Except.ok.inj h
    simp [Request.bodies, hb, Except.toOption]

/-- The code of a snapshot for a target, which a request asks for. -/
structure Demand where
  target : Target
  body : List UInt8
deriving DecidableEq

/-- What the demanded code is remembered by. -/
def Demand.key (d : Demand) : String := Cache.key d.target.name d.body

namespace Server

variable {π : Type} (s : Server π)

/-- What a request for code asks for, if it can be told. -/
def demand? (r : Request) : Option Demand :=
  if r.method = "POST" then
    match s.target r.query, readBody r with
    | .ok t, .ok body => some ⟨t, body⟩
    | _, _ => none
  else none

/-- What a server remembers after requests. -/
def after (state : ServerState π) (history : List Request) : ServerState π :=
  history.foldl (fun state r => (s.handle state r).state) state

theorem generate_faithful {state : ServerState π} {bodies : List (List UInt8)}
    (hc : state.cache.Faithful bodies) {t : Target} (ht : t ∈ Target.all) {leaves : Bool}
    {body : List UInt8} (hbody : body ∈ bodies) :
    (s.generate state t leaves body).state.cache.Faithful bodies := by
  unfold generate
  split
  · exact hc
  · next g hg =>
    simp only
    split
    · exact hc
    · next r hr =>
      obtain rfl := Compile.not_canceled hr
      exact hc.put ht hbody hg hr

theorem generate_of_ok (state : ServerState π) {t : Target} {body : List UInt8} {g : Graph}
    (hg : Snapshot.decode body = .ok g) {r : Result}
    (hr : (LayerCode.compile t false g).result = .ok r) :
    (s.generate state t false body).response = .code r := by
  simp only [generate, hg, hr]

theorem generate_response (state state' : ServerState π) (t : Target) (leaves : Bool)
    (body : List UInt8) :
    (s.generate state t leaves body).response = (s.generate state' t leaves body).response := by
  unfold generate
  cases Snapshot.decode body with
  | error fault => rfl
  | ok g =>
    simp only
    cases (LayerCode.compile t leaves g).result with
    | error fault => rfl
    | ok r => rfl

/-- **What a request for code comes to.** It is refused whatever the server remembers, or it demands
code. The demand is met from the cache, waits in vain, or is worked on. -/
theorem answer_cases (r : Request) :
    (s.demand? r = none ∧ ∃ response, ∀ state,
      (s.answer state r).state = state ∧ (s.answer state r).response = response) ∨
    ∃ d, s.demand? r = some d ∧ d.target ∈ Target.all ∧ d.body ∈ r.bodies ∧ ∀ state,
      (∀ result, state.cache.find? d.key = some result →
        (s.answer state r).state = state ∧ (s.answer state r).response = .code result) ∧
      (state.cache.find? d.key = none → s.busy r = true → (s.answer state r).state = state) ∧
      (state.cache.find? d.key = none → s.busy r = false →
        (s.answer state r).state = (s.generate state d.target r.leaves d.body).state ∧
          (s.answer state r).response =
            (s.generate state d.target r.leaves d.body).response) := by
  by_cases hpost : r.method = "POST"
  · cases ht : s.target r.query with
    | error unknown =>
      refine .inl ⟨by simp [demand?, ht], .failure 400 unknown.message, fun state => ?_⟩
      simp [answer, hpost, ht]
    | ok t =>
      cases hbody : readBody r with
      | error text =>
        refine .inl ⟨by simp [demand?, ht, hbody],
          .failure 400 ("Bad Request (read body): " ++ text), fun state => ?_⟩
        simp [answer, hpost, ht, hbody]
      | ok body =>
        refine .inr ⟨⟨t, body⟩, by simp [demand?, hpost, ht, hbody], Target.lookup_mem ht,
          mem_bodies_of_readBody hbody, fun state => ?_⟩
        refine ⟨fun result hit => ?_, fun hmiss hbusy => ?_, fun hmiss hfree => ?_⟩
        · rw [Demand.key] at hit
          simp [answer, hpost, ht, hbody, Cache.get, hit]
        · rw [Demand.key] at hmiss
          simp [answer, hpost, ht, hbody, Cache.get, hmiss, hbusy]
        · rw [Demand.key] at hmiss
          simp [answer, hpost, ht, hbody, Cache.get, hmiss, hfree]
  · exact .inl ⟨by simp [demand?, hpost], .failure 405 "Method not allowed",
      fun state => by simp [answer, hpost]⟩

theorem answer_faithful {state : ServerState π} {bodies : List (List UInt8)}
    (hc : state.cache.Faithful bodies) {r : Request} (hr : r.bodies ⊆ bodies) :
    (s.answer state r).state.cache.Faithful bodies := by
  rcases s.answer_cases r with ⟨-, response, hsame⟩ | ⟨d, -, ht, hbody, hcases⟩
  · rw [(hsame state).1]
    exact hc
  · obtain ⟨hhit, hbusy, hfree⟩ := hcases state
    cases hfind : state.cache.find? d.key with
    | some result =>
      rw [(hhit result hfind).1]
      exact hc
    | none =>
      cases hwait : s.busy r with
      | true =>
        rw [hbusy hfind hwait]
        exact hc
      | false =>
        rw [(hfree hfind hwait).1]
        exact s.generate_faithful hc ht (hr hbody)

/-- **A request keeps a cache faithful** to snapshots with its own among them. -/
theorem handle_faithful {state : ServerState π} {bodies : List (List UInt8)}
    (hc : state.cache.Faithful bodies) {r : Request} (hr : r.bodies ⊆ bodies) :
    (s.handle state r).state.cache.Faithful bodies := by
  unfold handle
  split_ifs
  · exact s.answer_faithful hc hr
  · exact hc
  · exact hc
  · exact hc

theorem after_faithful {state : ServerState π} {bodies : List (List UInt8)}
    (hc : state.cache.Faithful bodies) {history : List Request}
    (hh : ∀ r ∈ history, r.bodies ⊆ bodies) :
    (s.after state history).cache.Faithful bodies := by
  induction history generalizing state with
  | nil => exact hc
  | cons r history ih =>
    rw [List.forall_mem_cons] at hh
    exact ih (s.handle_faithful hc hh.1) hh.2

/-- **An answer from a faithful cache is the answer that an empty one leads to.** -/
theorem answer_response (hs : 0 < s.slots) {state : ServerState π} {bodies : List (List UInt8)}
    (hc : state.cache.Faithful bodies) {r : Request} (hr : r.Stays)
    (hd : Digest.Separates bodies) (hbodies : r.bodies ⊆ bodies) (fresh : π) :
    (s.answer state r).response = (s.answer ⟨{}, fresh⟩ r).response := by
  rcases s.answer_cases r with ⟨-, response, hsame⟩ | ⟨⟨t, body⟩, -, ht, hbody, hcases⟩
  · rw [(hsame state).2, (hsame ⟨{}, fresh⟩).2]
  · have hfree : s.busy r = false := by
      simp [busy, hr.1, Int64.not_le.mpr hs]
    rw [((hcases ⟨{}, fresh⟩).2.2 rfl hfree).2]
    cases hfind : state.cache.find? (Demand.key ⟨t, body⟩) with
    | none => rw [((hcases state).2.2 hfind hfree).2, s.generate_response state ⟨{}, fresh⟩]
    | some result =>
      rw [((hcases state).1 result hfind).2]
      -- The snapshot that the result was generated for has the same key, so it is this one.
      obtain ⟨t', ht', body', hbody', g, hkey, hg, hresult⟩ := hc _ _ hfind
      obtain ⟨rfl, hdigest⟩ := Cache.key_inj ht ht' hkey
      obtain rfl := hd body (hbodies hbody) body' hbody' hdigest
      rw [hr.2, s.generate_of_ok _ hg hresult]

/-- **The cache shows in no answer.** A server that any requests were sent to before, answered or
not, with any luck in handing manifests over, answers as a server that was just set up, if the
client stays and no two snapshots of all these requests have one digest. -/
theorem handle_after (hs : 0 < s.slots) (sink fresh : π) (history : List Request) {r : Request}
    (hr : r.Stays)
    (hd : Digest.Separates ((r :: history).flatMap Request.bodies)) :
    (s.handle (s.after ⟨{}, sink⟩ history) r).response = (s.handle ⟨{}, fresh⟩ r).response := by
  have hbodies : ∀ q ∈ r :: history, q.bodies ⊆ (r :: history).flatMap Request.bodies :=
    fun q hq body hbody => List.mem_flatMap.mpr ⟨q, hq, hbody⟩
  rw [List.forall_mem_cons] at hbodies
  have hempty : (⟨{}, sink⟩ : ServerState π).cache.Faithful
      ((r :: history).flatMap Request.bodies) := Cache.faithful_empty _
  have hc := s.after_faithful hempty hbodies.2
  unfold handle
  split_ifs
  · exact s.answer_response hs hc hr hd hbodies.1 fresh
  · rfl
  · rfl
  · rfl

/-! ## A dense layer and an empty graph -/

/-- A server whose manifests are all lost, and counted. -/
def lossyServer : Server Nat where
  defaultBackend := "quartus"
  slots := 1
  sink := some fun lost _ => (lost + 1, [], some "unreachable")

/-- A request for the code of a dense layer. -/
def denseRequest (query : String) : Request :=
  ⟨"POST", "/compile", query,
    .ok (Snapshot.graphBytes .half (fun n => n.weights) (Graph.denseGraph "Resource")),
    false, false⟩

/-- Requests for the code of a dense layer and of an empty graph, and two that were given up, one of
them while it was worked on. -/
def earlierRequests : List Request :=
  [{ denseRequest "backend=vivado" with leaves := true }, denseRequest "backend=VIVADO",
   ⟨"POST", "/compile", "", .ok [0xa0], false, false⟩,
   ⟨"GET", "/compile", "backend=vivado", .error "gone", true, false⟩]

/-- The code of the dense layer is answered from the cache as it is by a new server, although the
target was spelled in capitals before and the manifest was lost. -/
theorem handle_after_earlierRequests :
    0 < lossyServer.slots ∧ (denseRequest "backend=vivado").Stays ∧
      Digest.Separates
        ((denseRequest "backend=vivado" :: earlierRequests).flatMap Request.bodies) ∧
      (lossyServer.after ⟨{}, 0⟩ earlierRequests).cache.size = 2 ∧
      (lossyServer.after ⟨{}, 0⟩ earlierRequests).sink = 1 ∧
      (lossyServer.handle (lossyServer.after ⟨{}, 0⟩ earlierRequests)
          (denseRequest "backend=vivado")).response =
        (lossyServer.handle ⟨{}, 0⟩ (denseRequest "backend=vivado")).response ∧
      (lossyServer.handle ⟨{}, 0⟩ (denseRequest "backend=vivado")).response.status = 200 := by
  have hslots : 0 < lossyServer.slots := by decide
  have hd : Digest.Separates
      ((denseRequest "backend=vivado" :: earlierRequests).flatMap Request.bodies) := by
    unfold Digest.Separates
    decide +kernel
  exact ⟨hslots, ⟨rfl, rfl⟩, hd, by decide +kernel, by decide +kernel,
    lossyServer.handle_after hslots 0 0 earlierRequests ⟨rfl, rfl⟩ hd, by decide +kernel⟩

end Server

end LayerCode

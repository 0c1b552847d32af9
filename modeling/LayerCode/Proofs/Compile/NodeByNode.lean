import LayerCode.Proofs.Compile.Outcomes
import LayerCode.Proofs.Pass.Settled

/-!
# Code node by node

Generating code goes over the whole graph three times: to check the nodes, to run the passes and to
generate text. No node can tell: what becomes of a node, and its code, follow from the node alone.
So graphs can be put together, and code can be generated again.

* `compile_of_checked`: generating code in terms of `settleAll`;
* `mapM_checkNode_settleAll`: the check does not see what the pass did;
* `produce`, **`compile_of_produce`**, `exists_produce`: the code of a graph from that of its nodes;
* `headers_eq_firstSeen`, `length_parts`: the headers of a graph are those of its nodes, and every
  node has its code.
-/

namespace LayerCode

open Text Outcome

namespace Compile

variable {t : Target} {g : Graph} {graph : String}

theorem compile_of_checked {orders : List ChannelOrder}
    (h : g.nodes.mapM (checkNode t g.name) = .ok orders) :
    (compile t false g).graph = ⟨g.name, (Resource.settleAll g.entries).1⟩ ∧
      (compile t false g).result =
        ((Resource.settleAll g.entries).2.mapError (.passes g.name)).bind fun _ =>
          renderAll t ⟨g.name, (Resource.settleAll g.entries).1⟩ orders := by
  obtain ⟨journal, hrun⟩ := Resource.run_eq_settleAll () g
  rcases compile_cases t false g with
    ⟨fault, hfault, -⟩ | ⟨orders', after, horders, hg, ⟨fault, hrun', hr⟩ | ⟨hrun', hr⟩⟩
  · rw [h] at hfault
    exact absurd hfault (by simp)
  all_goals
    obtain rfl := Except.ok.inj (h.symm.trans horders)
    obtain ⟨rfl, hend⟩ := Prod.mk.inj (hrun.symm.trans hrun')
    exact ⟨hg, by rw [hr, hend]; rfl⟩

/-! ## Generating code again -/

theorem checkNode_settle {n m : Node} (h : Resource.settle n = .ok m) :
    checkNode t graph m = checkNode t graph n := by
  rw [Resource.settle_rest h]
  rfl

theorem mapM_checkNode_settleAll (es : List (String × Node)) :
    ((Resource.settleAll es).1.map Prod.snd).mapM (checkNode t graph) =
      (es.map Prod.snd).mapM (checkNode t graph) := by
  induction es with
  | nil => rfl
  | cons e es ih =>
    obtain ⟨key, n⟩ := e
    cases hn : Resource.settle n with
    | error fault => rw [Resource.settleAll_cons_error key hn]
    | ok m =>
      rw [Resource.settleAll_cons_ok key hn, List.map_cons, List.map_cons, List.mapM_cons,
        List.mapM_cons, checkNode_settle hn, ih]

/-- **Code can be generated again.** The second time, the graph that the first time left is given
back as it is, with the same code, or with the same fault, also when the first time ended at a node
with other nodes already reordered. -/
theorem compile_again (t : Target) (canceled : Bool) (g : Graph) :
    (compile t canceled (compile t canceled g).graph).result = (compile t canceled g).result ∧
      (compile t canceled (compile t canceled g).graph).graph = (compile t canceled g).graph := by
  have hkept : (compile t canceled g).graph = g →
      (compile t canceled (compile t canceled g).graph).result = (compile t canceled g).result ∧
        (compile t canceled (compile t canceled g).graph).graph = (compile t canceled g).graph := by
    intro h
    rw [h]
    exact ⟨rfl, h⟩
  cases canceled with
  | true =>
    rcases compile_graph t true g with h | h
    · exact hkept h
    · exact hkept h
  | false =>
    rcases compile_cases t false g with ⟨-, -, h, -⟩ | ⟨orders, -, horders, -⟩
    · exact hkept h
    · obtain ⟨hg, hr⟩ := compile_of_checked horders
      have hagain : (compile t false g).graph.nodes.mapM
          (checkNode t (compile t false g).graph.name) = .ok orders := by
        rw [hg, ← horders]
        exact mapM_checkNode_settleAll g.entries
      obtain ⟨hg', hr'⟩ := compile_of_checked hagain
      simp only [hg, Resource.settleAll_settleAll] at hg' hr'
      rw [hg]
      exact ⟨hr'.trans hr.symm, hg'⟩

-- A dense layer is reordered, and the one behind it has a weight with a single axis.
example :
    let g : Graph := ⟨"net", [("fc", Graph.denseLayer "resource"), ("flat", shapedLayer [2])]⟩
    (compile .vivado false g).graph ≠ g ∧ (compile .vivado false g).result.isOk = false := by
  decide +kernel

/-! ## Single nodes -/

/-- What the passes make of a node and its code, worked out from the node alone. -/
def produce (t : Target) (graph : String) (n : Node) : Except Fault (Node × Artifact) := do
  let order ← checkNode t graph n
  let m ← (Resource.settle n).mapError fun fault => .passes graph (Resource.faultAt n fault)
  let a ← renderNode t graph m order
  pure (m, a)

/-- The code of a graph, put together from that of its nodes. -/
def assemble (t : Target) (graph : String) (artifacts : List Artifact) : Result :=
  ⟨graph, t.name, some artifacts, some (firstSeen (artifacts.flatMap Artifact.headers))⟩

theorem produce_eq_ok_iff {n : Node} {p : Node × Artifact} :
    produce t graph n = .ok p ↔ ∃ order, checkNode t graph n = .ok order ∧
      Resource.settle n = .ok p.1 ∧ renderNode t graph p.1 order = .ok p.2 := by
  constructor
  · intro h
    obtain ⟨order, horder, h⟩ := bind_eq_ok.mp h
    obtain ⟨m, hm, h⟩ := bind_eq_ok.mp h
    obtain ⟨a, ha, h⟩ := bind_eq_ok.mp h
    obtain rfl := Except.ok.inj h
    exact ⟨order, horder, mapError_eq_ok.mp hm, ha⟩
  · rintro ⟨order, horder, hm, ha⟩
    simp only [produce, horder, hm, ha, mapError_ok, ok_bind, pure_eq_ok]

/-- Nodes are worked out one by one as they are in three rounds. -/
theorem forall₂_produce {ns : List Node} {ps : List (Node × Artifact)} :
    List.Forall₂ (fun n p => produce t graph n = .ok p) ns ps ↔
      ∃ orders, List.Forall₂ (fun n order => checkNode t graph n = .ok order) ns orders ∧
        List.Forall₂ (fun n m => Resource.settle n = .ok m) ns (ps.map Prod.fst) ∧
        List.Forall₂ (fun q a => renderNode t graph q.1 q.2 = .ok a)
          ((ps.map Prod.fst).zip orders) (ps.map Prod.snd) := by
  induction ns generalizing ps with
  | nil =>
    cases ps with
    | nil => simp
    | cons p ps => simp
  | cons n ns ih =>
    cases ps with
    | nil => simp
    | cons p ps =>
      rw [List.forall₂_cons, produce_eq_ok_iff, ih]
      constructor
      · rintro ⟨⟨order, horder, hm, ha⟩, orders, horders, hms, has⟩
        exact ⟨order :: orders, .cons horder horders, .cons hm hms, .cons ha has⟩
      · rintro ⟨orders, horders, hms, has⟩
        obtain ⟨order, rest, horder, hrest, rfl⟩ := List.forall₂_cons_left_iff.mp horders
        rw [List.map_cons, List.forall₂_cons] at hms
        rw [List.map_cons, List.map_cons, List.zip_cons_cons, List.forall₂_cons] at has
        exact ⟨⟨order, horder, hms.1, has.1⟩, rest, hrest, hms.2, has.2⟩

theorem settleAll_of_forall₂ {es : List (String × Node)} {ms : List Node}
    (h : List.Forall₂ (fun n m => Resource.settle n = .ok m) (es.map Prod.snd) ms) :
    ∃ fs, Resource.settleAll es = (fs, .ok ()) ∧ fs.map Prod.snd = ms := by
  induction es generalizing ms with
  | nil =>
    obtain rfl := List.forall₂_nil_left_iff.mp h
    exact ⟨[], rfl, rfl⟩
  | cons e es ih =>
    obtain ⟨key, n⟩ := e
    obtain ⟨m, ms, hm, hms, rfl⟩ := List.forall₂_cons_left_iff.mp h
    obtain ⟨fs, hfs, rfl⟩ := ih hms
    refine ⟨(key, m) :: fs, ?_, rfl⟩
    rw [Resource.settleAll_cons_ok key hm, hfs]

/-- **A graph has code if its nodes have**, and then its nodes and its code are theirs. -/
theorem compile_of_produce {ps : List (Node × Artifact)}
    (h : g.nodes.mapM (produce t g.name) = .ok ps) :
    (compile t false g).result = .ok (assemble t g.name (ps.map Prod.snd)) ∧
      (compile t false g).graph.nodes = ps.map Prod.fst := by
  obtain ⟨orders, horders, hms, has⟩ := forall₂_produce.mp (mapM_eq_ok_iff.mp h)
  obtain ⟨fs, hfs, hnodes⟩ := settleAll_of_forall₂ hms
  obtain ⟨hg, hr⟩ := compile_of_checked (mapM_eq_ok_iff.mpr horders)
  rw [hfs] at hg hr
  refine ⟨?_, by rw [hg]; exact hnodes⟩
  have hrender : ((⟨g.name, fs⟩ : Graph).nodes.zip orders).mapM
      (fun q => renderNode t g.name q.1 q.2) = .ok (ps.map Prod.snd) := by
    rw [show (⟨g.name, fs⟩ : Graph).nodes = ps.map Prod.fst from hnodes]
    exact mapM_eq_ok_iff.mpr has
  rw [hr]
  show renderAll t ⟨g.name, fs⟩ orders = _
  rw [renderAll, hrender]
  rfl

/-- The nodes of a graph that has code have code. -/
theorem exists_produce {r : Result} (h : (compile t false g).result = .ok r) :
    ∃ ps, g.nodes.mapM (produce t g.name) = .ok ps := by
  obtain ⟨orders, after, horders, hrun, -, hrender⟩ := compile_eq_ok h
  obtain ⟨journal, hrun'⟩ := Resource.run_eq_settleAll () g
  obtain ⟨rfl, hend⟩ := Prod.mk.inj (hrun'.symm.trans hrun)
  have hsettled := Resource.settleAll_eq_ok_iff.mp (Prod.ext rfl hend)
  obtain ⟨artifacts, hartifacts, -⟩ := bind_eq_ok.mp hrender
  have hchecks := mapM_eq_ok_iff.mp horders
  have hrenders := mapM_eq_ok_iff.mp hartifacts
  have hms : List.Forall₂ (fun n m => Resource.settle n = .ok m) g.nodes
      ((Resource.settleAll g.entries).1.map Prod.snd) := by
    rw [Graph.nodes, List.forall₂_map_left_iff, List.forall₂_map_right_iff]
    exact hsettled.imp fun _ _ h => h.2
  have hlen : ((Resource.settleAll g.entries).1.map Prod.snd).length = artifacts.length := by
    rw [← hrenders.length_eq, List.length_zip, ← hchecks.length_eq, hms.length_eq]
    exact (Nat.min_self _).symm
  refine ⟨((Resource.settleAll g.entries).1.map Prod.snd).zip artifacts,
    mapM_eq_ok_iff.mpr (forall₂_produce.mpr ⟨orders, hchecks, ?_⟩)⟩
  rw [List.map_fst_zip hlen.le, List.map_snd_zip hlen.ge]
  exact ⟨hms, hrenders⟩

theorem length_parts {canceled : Bool} {r : Result} (h : (compile t canceled g).result = .ok r) :
    r.parts.length = g.nodes.length := by
  obtain rfl := not_canceled h
  obtain ⟨ps, hps⟩ := exists_produce h
  obtain rfl := Except.ok.inj ((compile_of_produce hps).1.symm.trans h)
  rw [(mapM_eq_ok_iff.mp hps).length_eq]
  exact List.length_map _

/-! ## Graphs put together -/

theorem headers_eq_firstSeen {canceled : Bool} {r : Result}
    (h : (compile t canceled g).result = .ok r) :
    r.headers = firstSeen (r.parts.flatMap Artifact.headers) := by
  obtain ⟨name, artifacts, rfl⟩ := exists_artifacts h
  rfl

theorem assemble_append (as bs : List Artifact) :
    assemble t graph (as ++ bs) =
      ⟨graph, t.name, some ((assemble t graph as).parts ++ (assemble t graph bs).parts),
        some ((assemble t graph as).headers ++
          (assemble t graph bs).headers.filter (· ∉ (assemble t graph as).headers))⟩ := by
  have hmem : ∀ h, h ∈ (assemble t graph as).headers ↔ h ∈ as.flatMap Artifact.headers :=
    fun _ => mem_firstSeen _
  rw [assemble, List.flatMap_append, firstSeen_append]
  simp only [hmem, List.contains_eq_mem, ← decide_not]
  rfl

theorem compile_append_ok {gx gy : Graph} (hn : g.nodes = gx.nodes ++ gy.nodes)
    (hx : gx.name = g.name) (hy : gy.name = g.name) {rx ry : Result}
    (hrx : (compile t false gx).result = .ok rx) (hry : (compile t false gy).result = .ok ry) :
    (compile t false g).result = .ok ⟨g.name, t.name, some (rx.parts ++ ry.parts),
        some (rx.headers ++ ry.headers.filter (· ∉ rx.headers))⟩ ∧
      (compile t false g).graph.nodes =
        (compile t false gx).graph.nodes ++ (compile t false gy).graph.nodes := by
  obtain ⟨px, hpx⟩ := exists_produce hrx
  obtain ⟨py, hpy⟩ := exists_produce hry
  obtain ⟨hcodex, hnodesx⟩ := compile_of_produce hpx
  obtain ⟨hcodey, hnodesy⟩ := compile_of_produce hpy
  obtain rfl := Except.ok.inj (hcodex.symm.trans hrx)
  obtain rfl := Except.ok.inj (hcodey.symm.trans hry)
  rw [hx] at hpx
  rw [hy] at hpy
  obtain ⟨hcode, hnodes⟩ := compile_of_produce
    (hn ▸ mapM_append_eq_ok.mpr ⟨px, py, hpx, hpy, rfl⟩)
  rw [hcode, hnodes, hnodesx, hnodesy, List.map_append, List.map_append, assemble_append, hx, hy]
  exact ⟨rfl, rfl⟩

/-- **Code is generated node by node.** The graph of two lists of nodes has code if and only if the
graphs of both lists have. Its code is then that of the first list followed by that of the second,
with the headers of the second that are not among those of the first, and the nodes that it is left
with are those that the two graphs are left with. The headers of a graph with code are those of its
nodes, each once, in the order in which they first occur. -/
theorem compile_append (t : Target) (name : String) {xs ys : List Node}
    (hd : ((xs ++ ys).map Node.name).Nodup) :
    (∃ gx gy g, Graph.make name xs = .ok gx ∧ Graph.make name ys = .ok gy ∧
      Graph.make name (xs ++ ys) = .ok g ∧
      ((∃ r, (compile t false g).result = .ok r) ↔
        (∃ r, (compile t false gx).result = .ok r) ∧ ∃ r, (compile t false gy).result = .ok r) ∧
      ∀ rx ry, (compile t false gx).result = .ok rx → (compile t false gy).result = .ok ry →
        (compile t false g).result = .ok ⟨name, t.name, some (rx.parts ++ ry.parts),
          some (rx.headers ++ ry.headers.filter (· ∉ rx.headers))⟩ ∧
        (compile t false g).graph.nodes =
          (compile t false gx).graph.nodes ++ (compile t false gy).graph.nodes) ∧
    ∀ (g : Graph) (canceled : Bool) (r : Result), (compile t canceled g).result = .ok r →
      r.headers.Nodup ∧ (∀ h, h ∈ r.headers ↔ ∃ a ∈ r.parts, h ∈ a.headers) ∧
        r.headers.Pairwise fun h k => (r.parts.flatMap Artifact.headers).idxOf h <
          (r.parts.flatMap Artifact.headers).idxOf k := by
  refine ⟨?_, fun g canceled r h => ?_⟩
  · have hboth := hd
    rw [List.map_append, List.nodup_append] at hboth
    obtain ⟨gx, hmx, hnamex, hnx⟩ := Graph.exists_make name hboth.1
    obtain ⟨gy, hmy, hnamey, hny⟩ := Graph.exists_make name hboth.2.1
    obtain ⟨g, hmake, hname, hn⟩ := Graph.exists_make name hd
    have hnodes : g.nodes = gx.nodes ++ gy.nodes := by rw [hn, hnx, hny]
    have hsamex : gx.name = g.name := hnamex.trans hname.symm
    have hsamey : gy.name = g.name := hnamey.trans hname.symm
    refine ⟨gx, gy, g, hmx, hmy, hmake, ⟨?_, ?_⟩, fun rx ry hrx hry => ?_⟩
    · rintro ⟨r, hr⟩
      obtain ⟨ps, hps⟩ := exists_produce hr
      rw [hnodes] at hps
      obtain ⟨px, py, hpx, hpy, -⟩ := mapM_append_eq_ok.mp hps
      rw [← hsamex] at hpx
      rw [← hsamey] at hpy
      exact ⟨⟨_, (compile_of_produce hpx).1⟩, ⟨_, (compile_of_produce hpy).1⟩⟩
    · rintro ⟨⟨rx, hrx⟩, ⟨ry, hry⟩⟩
      exact ⟨_, (compile_append_ok hnodes hsamex hsamey hrx hry).1⟩
    · rw [← hname]
      exact compile_append_ok hnodes hsamex hsamey hrx hry
  · rw [headers_eq_firstSeen h]
    refine ⟨firstSeen_nodup _, fun x => ?_, firstSeen_ordered _⟩
    rw [mem_firstSeen, List.mem_flatMap]

/-- A dense layer that is left in its first order. -/
def secondLayer : Node := { Graph.denseLayer "latency" with name := "fc2", index := 2 }

/-- The code of two dense layers is that of the one and of the other, with the header that they
share once. -/
theorem compile_append_dense :
    (([Graph.denseLayer "resource"] ++ [secondLayer]).map Node.name).Nodup ∧
      ∃ g r, Graph.make "net" ([Graph.denseLayer "resource"] ++ [secondLayer]) = .ok g ∧
        (compile .vivado false g).result = .ok r ∧ r.parts.map Artifact.node = ["fc", "fc2"] ∧
        r.headers = ["nnet_utils/nnet_dense.h"] := by
  have hd : (([Graph.denseLayer "resource"] ++ [secondLayer]).map Node.name).Nodup := by decide
  obtain ⟨⟨gx, gy, g, hmx, hmy, hmake, -, hcode⟩, -⟩ := compile_append .vivado "net" hd
  obtain ⟨-, rfl⟩ := Graph.make_eq_ok_iff.mp hmx
  obtain ⟨-, rfl⟩ := Graph.make_eq_ok_iff.mp hmy
  have hone : ∀ n ∈ [Graph.denseLayer "resource", secondLayer],
      (compile .vivado false ⟨"net", [(n.name, n)]⟩).result.toOption.map
        (fun r => (r.parts.map Artifact.node, r.headers)) =
          some ([n.name], ["nnet_utils/nnet_dense.h"]) := by decide +kernel
  obtain ⟨rx, hrx, hshownx⟩ := Option.map_eq_some_iff.mp (hone _ List.mem_cons_self)
  obtain ⟨ry, hry, hshowny⟩ :=
    Option.map_eq_some_iff.mp (hone _ (List.mem_cons_of_mem _ List.mem_cons_self))
  obtain ⟨hpartsx, hheadersx⟩ := Prod.mk.inj hshownx
  obtain ⟨hpartsy, hheadersy⟩ := Prod.mk.inj hshowny
  obtain ⟨hr, -⟩ := hcode rx ry (eq_ok_of_toOption hrx) (eq_ok_of_toOption hry)
  refine ⟨hd, g, _, hmake, hr, ?_, ?_⟩
  · show (rx.parts ++ ry.parts).map Artifact.node = _
    rw [List.map_append, hpartsx, hpartsy]
    rfl
  · show rx.headers ++ ry.headers.filter (· ∉ rx.headers) = _
    rw [hheadersx, hheadersy]
    decide

end Compile

end LayerCode

import Mathlib.Data.List.Forall2
import LayerCode.Proofs.Compile.Strategy
import LayerCode.Proofs.Template.Renders

/-!
# How generating code ends

The nodes are checked first, then the passes run, then the text is generated. The check can end in a
refusal, the passes in a cancellation or at a weight with the wrong number of axes, and generating
text cannot fail: nodes are made with the records and the weights that the templates name.

* `Target.Lacks`, `Target.Serves`: the target has no kernels for the channel order of a node, or has
  them for all nodes;
* `Node.SameText`, `renderAll_congr`: what the text of a node is generated from;
* `CodeOf`, `renderAll_ok`: every node of a well-formed graph has its text;
* **`compile_refused`**, **`compile_served`**: generating code ends at the check, or goes on;
* `Outcome.kind?`: the kind of the fault, which the last section classifies.
-/

namespace LayerCode

open Text Outcome

/-! ## Channel orders -/

namespace Target

/-- The record of the node has a channel order other than channels last, and the target has kernels
for no other. -/
def Lacks (t : Target) (n : Node) (f : DataFormat) : Prop :=
  t.channelsFirst = false ∧ n.attrs.bind Attributes.dataFormat? = some f ∧ f ≠ .channelsLast

/-- The target has kernels for the channel orders of all nodes. -/
def Serves (t : Target) (g : Graph) : Prop := ∀ n ∈ g.nodes, ∀ f, ¬ t.Lacks n f

theorem validate_of_lacks {t : Target} {n : Node} {f : DataFormat} (h : t.Lacks n f) :
    t.validate n = .error ⟨f, t.name, n.name⟩ := by
  obtain ⟨ht, hf, hne⟩ := h
  simp [validate, hf, hne, ht]

theorem exists_validate_eq_ok {t : Target} {n : Node} (h : ∀ f, ¬ t.Lacks n f) :
    ∃ order, t.validate n = .ok order := by
  unfold validate
  split
  · exact ⟨_, rfl⟩
  · next f hf =>
    split_ifs with hlast hfirst
    · exact ⟨_, rfl⟩
    · exact ⟨_, rfl⟩
    · exact absurd ⟨Bool.eq_false_iff.mpr hfirst, hf, hlast⟩ (h f)

end Target

/-! ## Text -/

/-- The second node is the first but for its weights and its layout state, which no text shows. -/
def Node.SameText (n m : Node) : Prop := m = { n with weights := m.weights, layout := m.layout }

theorem Node.Reordered.sameText {n m : Node} (h : n.Reordered m) : n.SameText m := by
  rw [Node.SameText, h.rest]

namespace Compile

theorem renderNode_congr {n m : Node} (h : n.SameText m) (t : Target) (graph : String)
    (order : ChannelOrder) : renderNode t graph m order = renderNode t graph n order := by
  rw [h]
  rfl

theorem renderAll_congr {g h : Graph} (hc : Graph.Changed (fun _ => Node.SameText) g h) (t : Target)
    (orders : List ChannelOrder) : renderAll t h orders = renderAll t g orders := by
  have hnodes : List.Forall₂ Node.SameText g.nodes h.nodes := hc.forall₂.imp fun _ _ ⟨_, h⟩ => h
  have hmap : ∀ {ns ms : List Node}, List.Forall₂ Node.SameText ns ms →
      (ms.zip orders).mapM (fun p => renderNode t g.name p.1 p.2) =
        (ns.zip orders).mapM fun p => renderNode t g.name p.1 p.2 := by
    intro ns ms hs
    induction hs generalizing orders with
    | nil => rfl
    | cons hnm _ ih =>
      cases orders with
      | nil => rfl
      | cons order orders =>
        simp only [List.zip_cons_cons, List.mapM_cons, renderNode_congr hnm, ih]
  simp only [renderAll, hc.name, hmap hnodes]

/-- The artifact is the code of the node: its config block, its invocation in the channel order of
its kernel, and the headers of its family. -/
structure CodeOf (t : Target) (n : Node) (a : Artifact) : Prop where
  node : a.node = n.name
  variant : a.variant = n.variant.name
  config : t.registry.config n = .ok a.config
  call : ∃ order, t.validate n = .ok order ∧ t.registry.call n order.tag = .ok a.call
  headers : a.includes = some n.variant.headers

theorem renderNode_ok {t : Target} (ht : t ∈ Target.all) {n : Node} (hn : n.WellFormed)
    {order : ChannelOrder} (ho : t.validate n = .ok order) (graph : String) :
    ∃ a, renderNode t graph n order = .ok a ∧ CodeOf t n a := by
  obtain ⟨⟨config, hconfig⟩, hcalls⟩ := Registry.builtin_renders hn
  obtain ⟨call, hcall⟩ := hcalls order.tag
  rw [← Target.registry_of_mem ht] at hconfig hcall
  refine ⟨⟨n.name, n.variant.name, config, call, some n.variant.headers⟩, ?_,
    rfl, rfl, hconfig, ⟨order, ho, hcall⟩, rfl⟩
  simp only [renderNode, hconfig, hcall, mapError_ok, ok_bind, pure_eq_ok]

/-- **The text of a well-formed graph can be generated**, a piece of code for each node in order. -/
theorem renderAll_ok {t : Target} (ht : t ∈ Target.all) {g : Graph} (hw : g.WellFormed)
    {orders : List ChannelOrder}
    (ho : List.Forall₂ (fun n order => t.validate n = .ok order) g.nodes orders) :
    ∃ r, renderAll t g orders = .ok r ∧ r.graph = g.name ∧ r.backend = t.name ∧
      List.Forall₂ (CodeOf t) g.nodes r.parts := by
  have hmap : ∀ {ns : List Node} {orders : List ChannelOrder}, (∀ n ∈ ns, n.WellFormed) →
      List.Forall₂ (fun n order => t.validate n = .ok order) ns orders →
      ∃ as, (ns.zip orders).mapM (fun p => renderNode t g.name p.1 p.2) = .ok as ∧
        List.Forall₂ (CodeOf t) ns as := by
    intro ns orders hns hs
    induction hs with
    | nil => exact ⟨[], rfl, .nil⟩
    | cons horder _ ih =>
      rw [List.forall_mem_cons] at hns
      obtain ⟨a, ha, hcode⟩ := renderNode_ok ht hns.1 horder g.name
      obtain ⟨as, has, hcodes⟩ := ih hns.2
      refine ⟨a :: as, ?_, .cons hcode hcodes⟩
      simp only [List.zip_cons_cons, List.mapM_cons, ha, has, ok_bind, pure_eq_ok]
  obtain ⟨as, has, hcodes⟩ := hmap (fun n hn => hw.node hn) ho
  refine ⟨⟨g.name, t.name, some as, some (firstSeen (as.flatMap Artifact.headers))⟩, ?_, rfl, rfl,
    hcodes⟩
  rw [renderAll, has, ok_bind, pure_eq_ok]

/-! ## The check -/

variable {t : Target} {g : Graph}

theorem checkNode_of_lacks {n : Node} {f : DataFormat} (h : t.Lacks n f) (graph : String) :
    checkNode t graph n = .error (.notSupported graph n.name ⟨f, t.name, n.name⟩) := by
  rw [checkNode, Target.validate_of_lacks h, mapError_error]

theorem exists_lacks_of_error {n : Node} {graph : String} {fault : Fault}
    (h : checkNode t graph n = .error fault) : ∃ f, t.Lacks n f := by
  by_contra hno
  obtain ⟨order, horder⟩ := Target.exists_validate_eq_ok (not_exists.mp hno)
  rw [checkNode, horder, mapError_ok] at h
  exact absurd h (by simp)

theorem forall₂_validate {graph : String} {orders : List ChannelOrder}
    (h : g.nodes.mapM (checkNode t graph) = .ok orders) :
    List.Forall₂ (fun n order => t.validate n = .ok order) g.nodes orders :=
  (mapM_eq_ok_iff.mp h).imp fun _ _ => mapError_eq_ok.mp

/-- **A graph with a channel order that the target lacks is refused for the first such node**, and
stays as it is. -/
theorem compile_refused (h : ∃ n ∈ g.nodes, ∃ f, t.Lacks n f) (canceled : Bool) :
    ∃ before n after f, g.nodes = before ++ n :: after ∧ t.Lacks n f ∧
      (∀ m ∈ before, ∀ f, ¬ t.Lacks m f) ∧ (compile t canceled g).graph = g ∧
      (compile t canceled g).result = .error (.notSupported g.name n.name ⟨f, t.name, n.name⟩) := by
  rcases compile_cases t canceled g with ⟨fault, hmap, hg, hr⟩ | ⟨orders, _, hmap, -⟩
  · obtain ⟨before, n, after, hsplit, hn, hbefore⟩ := mapM_eq_error_iff.mp hmap
    obtain ⟨f, hf⟩ := exists_lacks_of_error hn
    rw [checkNode_of_lacks hf, Except.error.injEq] at hn
    refine ⟨before, n, after, f, hsplit, hf, fun m hm f' hf' => ?_, hg, hn ▸ hr⟩
    obtain ⟨order, horder⟩ := hbefore m hm
    rw [checkNode_of_lacks hf'] at horder
    exact absurd horder (by simp)
  · obtain ⟨n, hn, f, hf⟩ := h
    obtain ⟨order, -, horder⟩ := exists_of_mem_right (mapM_eq_ok_iff.mp hmap).flip hn
    rw [checkNode_of_lacks hf] at horder
    exact absurd horder (by simp)

/-- **A graph whose channel orders the target has goes through the passes**, and its code is the
text of the graph that they leave. -/
theorem compile_served (h : t.Serves g) {canceled : Bool}
    {after : Pass.Progress Unit} {end? : Except Pass.Fault Unit}
    (hrun : Pass.run [Resource.pass] canceled () g = (after, end?)) :
    ∃ orders, List.Forall₂ (fun n order => t.validate n = .ok order) g.nodes orders ∧
      (compile t canceled g).graph = after.graph ∧
      (compile t canceled g).result =
        (end?.mapError (.passes g.name)).bind fun _ => renderAll t after.graph orders := by
  rcases compile_cases t canceled g with
    ⟨fault, hmap, -⟩ | ⟨orders, after', hmap, hg, ⟨fault, hrun', hr⟩ | ⟨hrun', hr⟩⟩
  · obtain ⟨before, n, rest, hsplit, hn, -⟩ := mapM_eq_error_iff.mp hmap
    obtain ⟨f, hf⟩ := exists_lacks_of_error hn
    have hmem : n ∈ g.nodes := hsplit ▸ List.mem_append_right before List.mem_cons_self
    exact absurd hf (h n hmem f)
  · obtain ⟨rfl, rfl⟩ := Prod.mk.inj (hrun.symm.trans hrun')
    exact ⟨orders, forall₂_validate hmap, hg, hr⟩
  · obtain ⟨rfl, rfl⟩ := Prod.mk.inj (hrun.symm.trans hrun')
    exact ⟨orders, forall₂_validate hmap, hg, hr⟩

/-! ## The outcome -/

theorem compile_canceled (h : t.Serves g) :
    (compile t true g).graph = g ∧
      (compile t true g).result = .error (.passes g.name .canceled) := by
  have hrun : Pass.run [Resource.pass] true () g = (⟨(), g, {}⟩, .error .canceled) := rfl
  obtain ⟨orders, -, hg, hr⟩ := compile_served h hrun
  exact ⟨hg, hr⟩

theorem compile_misfit (hw : g.WellFormed) (h : t.Serves g) {i : Nat}
    {n : Node} (hi : Resource.FirstMisfit g i n) :
    ∃ r ∈ n.variant.rules, ∃ w ∈ n.weights, w.name = r.weight ∧ w.rank ≠ r.rank ∧
      (compile t false g).result = .error (.passes g.name
        (.transform "apply_resource_strategy" n.name (.tensor (r.misfit w)))) := by
  obtain ⟨after, r, hr, w, hwt, hname, hrank, hrun, -⟩ := Resource.run_misfit hw hi ()
  obtain ⟨orders, -, -, hresult⟩ := compile_served h hrun
  exact ⟨r, hr, w, hwt, hname, hrank, hresult⟩

theorem compile_fit (hw : g.WellFormed) (ht : t ∈ Target.all) (h : t.Serves g)
    (hf : ∀ n ∈ g.nodes, n.Eligible → n.Fits) :
    ∃ r, (compile t false g).result = .ok r ∧ r.graph = g.name ∧ r.backend = t.name ∧
      List.Forall₂ (CodeOf t) g.nodes r.parts := by
  obtain ⟨after, -, -, hrun, -, hs, -⟩ := Resource.runFrom_fit hw hf () 62
  obtain ⟨orders, horders, -, hresult⟩ := compile_served h hrun
  -- The pass changes weights and layout states only, so the text is that of the graph before it.
  have hsame : Graph.Changed (fun _ => Node.SameText) g after.graph := by
    refine hs.changed.imp fun _ n m _ hR => ?_
    rcases hR with ⟨-, hR⟩ | rfl
    · exact hR.sameText
    · rfl
  obtain ⟨r, hr, hrest⟩ := renderAll_ok ht hw horders
  exact ⟨r, by rw [hresult, ← hr, ← renderAll_congr hsame]; rfl, hrest⟩

/-- The kind of the fault, if there is one. -/
def Outcome.kind? (o : Outcome) : Option Kind :=
  match o.result with
  | .ok _ => none
  | .error fault => some fault.kind

theorem Outcome.kind?_of_error {o : Outcome} {fault : Fault} (h : o.result = .error fault) :
    o.kind? = some fault.kind := by
  rw [kind?, h]

theorem Outcome.kind?_of_ok {o : Outcome} {r : Result} (h : o.result = .ok r) : o.kind? = none := by
  rw [kind?, h]

theorem kind?_cases (hw : g.WellFormed) (ht : t ∈ Target.all) (canceled : Bool) :
    (compile t canceled g).kind? ∈ [none, some .notSupported, some .canceled, some .other] := by
  by_cases hlacks : ∃ n ∈ g.nodes, ∃ f, t.Lacks n f
  · obtain ⟨_, _, _, _, -, -, -, -, hr⟩ := compile_refused hlacks canceled
    simp [Outcome.kind?_of_error hr, Fault.kind]
  · have hserved : t.Serves g := fun n hn f hf => hlacks ⟨n, hn, f, hf⟩
    cases canceled with
    | true => simp [Outcome.kind?_of_error (compile_canceled hserved).2, Fault.kind]
    | false =>
      by_cases hf : ∀ n ∈ g.nodes, n.Eligible → n.Fits
      · obtain ⟨r, hr, -⟩ := compile_fit hw ht hserved hf
        simp [Outcome.kind?_of_ok hr]
      · obtain ⟨i, n, hi⟩ := Resource.exists_firstMisfit hf
        obtain ⟨_, -, _, -, -, -, hr⟩ := compile_misfit hw hserved hi
        simp [Outcome.kind?_of_error hr, Fault.kind]

/-- **The four outcomes of generating code.** A channel order that the target lacks comes first, and
names its node, also when the work is canceled; then a cancellation; then the first eligible node
with a weight that does not fit its rule. Otherwise there is code for every node, in order. No other
kind of fault occurs. -/
theorem compile_outcome (hb : g.Built) (ht : t ∈ Target.all) (canceled : Bool) :
    ((∃ n ∈ g.nodes, ∃ f, t.Lacks n f) →
      (compile t canceled g).graph = g ∧
        (compile t canceled g).kind? = some .notSupported ∧
        ∃ before n after f, g.nodes = before ++ n :: after ∧ t.Lacks n f ∧
          (∀ m ∈ before, ∀ f, ¬ t.Lacks m f) ∧ (compile t canceled g).result =
            .error (.notSupported g.name n.name ⟨f, t.name, n.name⟩)) ∧
    (t.Serves g →
      (canceled = true →
        (compile t canceled g).graph = g ∧ (compile t canceled g).kind? = some .canceled ∧
          (compile t canceled g).result = .error (.passes g.name .canceled)) ∧
      (canceled = false → (∃ n ∈ g.nodes, n.Eligible ∧ ¬ n.Fits) →
        (compile t canceled g).kind? = some .other ∧
          ∃ i n, Resource.FirstMisfit g i n ∧
            ∃ r ∈ n.variant.rules, ∃ w ∈ n.weights, w.name = r.weight ∧ w.rank ≠ r.rank ∧
              (compile t canceled g).result = .error (.passes g.name
                (.transform "apply_resource_strategy" n.name (.tensor (r.misfit w))))) ∧
      (canceled = false → (∀ n ∈ g.nodes, n.Eligible → n.Fits) →
        ∃ r, (compile t canceled g).result = .ok r ∧ r.graph = g.name ∧ r.backend = t.name ∧
          List.Forall₂ (CodeOf t) g.nodes r.parts)) ∧
    (compile t canceled g).kind? ≠ some .unexpectedLayer ∧
      (compile t canceled g).kind? ≠ some .missingTemplate := by
  have hw := hb.wellFormed
  refine ⟨fun hlacks => ?_, fun hserved => ⟨?_, ?_, ?_⟩, ?_⟩
  · obtain ⟨before, n, after, f, hsplit, hf, hbefore, hg, hr⟩ := compile_refused hlacks canceled
    exact ⟨hg, Outcome.kind?_of_error hr, before, n, after, f, hsplit, hf, hbefore, hr⟩
  · rintro rfl
    obtain ⟨hg, hr⟩ := compile_canceled hserved
    exact ⟨hg, Outcome.kind?_of_error hr, hr⟩
  · rintro rfl ⟨k, hk, he, hmisfit⟩
    obtain ⟨i, n, hi⟩ := Resource.exists_firstMisfit fun hf => hmisfit (hf k hk he)
    obtain ⟨r, hr, w, hwt, hname, hrank, hresult⟩ := compile_misfit hw hserved hi
    exact ⟨Outcome.kind?_of_error hresult, i, n, hi, r, hr, w, hwt, hname, hrank, hresult⟩
  · rintro rfl hf
    exact compile_fit hw ht hserved hf
  · have hkind := kind?_cases hw ht canceled
    constructor
    · intro h
      simp [h] at hkind
    · intro h
      simp [h] at hkind

/-! ## A dense layer before a pooling layer -/

/-- A dense layer for the resource strategy whose weight has the given axes. -/
def shapedLayer (shape : List Int64) : Node :=
  { Graph.denseLayer "resource" with
    weights := [⟨"bias", [1], #[0x3f800000]⟩, ⟨"weight", shape, #[0x40000000, 0x80000000]⟩] }

/-- A pooling layer over its whole input, with the channels first. -/
def poolingLayer : Node where
  name := "pool"
  index := 2
  strategy := ""
  reuseFactor := 1
  input := ⟨"y", "result_t"⟩
  output := ⟨"z", "result_t"⟩
  attrs := some (.globalPooling1D ⟨4, 2, .max, .channelsFirst⟩)
  variant := .globalPooling1D
  weights := []
  layout := .untransformed

/-- A graph of the two layers. -/
def pooledGraph (shape : List Int64) : Graph :=
  ⟨"net", [("fc", shapedLayer shape), ("pool", poolingLayer)]⟩

theorem shapedLayer_wellFormed {shape : List Int64}
    (h : ∀ w ∈ (shapedLayer shape).weights, Tensor.make w.name w.shape w.data = .ok w) :
    (shapedLayer shape).WellFormed where
  record := (Graph.denseLayer_wellFormed "resource").record
  names := (Graph.denseLayer_wellFormed "resource").names
  tensors := fun w hw => (Tensor.make_eq_ok_iff.mp (h w hw)).2
  reuse := (Graph.denseLayer_wellFormed "resource").reuse

theorem poolingLayer_wellFormed : poolingLayer.WellFormed where
  record := ⟨_, rfl, rfl, by decide +kernel⟩
  names := by decide +kernel
  tensors := fun w hw => absurd hw List.not_mem_nil
  reuse := by decide

theorem pooledGraph_built {shape : List Int64}
    (h : ∀ w ∈ (shapedLayer shape).weights, Tensor.make w.name w.shape w.data = .ok w) :
    (pooledGraph shape).Built := by
  refine Graph.WellFormed.built ⟨?_, ?_, ?_⟩ ?_
  · simp [pooledGraph, shapedLayer, Graph.denseLayer, poolingLayer]
  · simp [pooledGraph]
  · simpa [pooledGraph] using ⟨shapedLayer_wellFormed h, poolingLayer_wellFormed⟩
  · simp [pooledGraph, Graph.nodes, shapedLayer, Graph.denseLayer, poolingLayer]

/-- The pooling layer is refused by the target without kernels for it, although the work is
canceled. The other target is canceled, stops at a weight with one axis, or has code for both
layers. -/
theorem compile_outcome_pooled :
    (pooledGraph [2, 1]).Built ∧ (pooledGraph [2]).Built ∧
      Target.quartus ∈ Target.all ∧ Target.vivado ∈ Target.all ∧
      ((compile .quartus true (pooledGraph [2, 1])).graph = pooledGraph [2, 1] ∧
        (compile .quartus true (pooledGraph [2, 1])).kind? = some .notSupported) ∧
      (compile .vivado true (pooledGraph [2, 1])).kind? = some .canceled ∧
      (compile .vivado false (pooledGraph [2])).kind? = some .other ∧
      ∃ r, (compile .vivado false (pooledGraph [2, 1])).result = .ok r ∧ r.parts.length = 2 := by
  have hmatrix : (pooledGraph [2, 1]).Built := pooledGraph_built (by decide +kernel)
  have hflat : (pooledGraph [2]).Built := pooledGraph_built (by decide +kernel)
  have hq : Target.quartus ∈ Target.all := List.mem_cons_self
  have hv : Target.vivado ∈ Target.all := List.mem_cons_of_mem _ List.mem_cons_self
  have hlacks : Target.quartus.Lacks poolingLayer .channelsFirst := ⟨rfl, rfl, by decide⟩
  have hserved : ∀ g : Graph, Target.vivado.Serves g := fun _ _ _ _ h => absurd h.1 (by decide)
  have heligible : (shapedLayer [2]).Eligible := ⟨rfl, by decide +kernel, rfl⟩
  have hfits : ∀ n ∈ (pooledGraph [2, 1]).nodes, n.Fits := by
    unfold Node.Fits
    decide +kernel
  have hmisfit : ¬ (shapedLayer [2]).Fits := by
    unfold Node.Fits
    decide +kernel
  obtain ⟨hgraph, hrefused, -⟩ := (compile_outcome hmatrix hq true).1
    ⟨poolingLayer, List.mem_cons_of_mem _ List.mem_cons_self, .channelsFirst, hlacks⟩
  obtain ⟨-, hcanceled, -⟩ := ((compile_outcome hmatrix hv true).2.1 (hserved _)).1 rfl
  obtain ⟨hother, -⟩ := ((compile_outcome hflat hv false).2.1 (hserved _)).2.1 rfl
    ⟨shapedLayer [2], List.mem_cons_self, heligible, hmisfit⟩
  obtain ⟨r, hr, -, -, hcode⟩ := ((compile_outcome hmatrix hv false).2.1 (hserved _)).2.2 rfl
    fun n hn _ => hfits n hn
  exact ⟨hmatrix, hflat, hq, hv, ⟨hgraph, hrefused⟩, hcanceled, hother, r, hr, hcode.length_eq.symm⟩

end Compile

end LayerCode

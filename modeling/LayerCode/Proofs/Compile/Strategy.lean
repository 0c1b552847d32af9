import LayerCode.Proofs.Graph.Built
import LayerCode.Proofs.Template.Strategy
import LayerCode.Proofs.Text.Spelling

/-!
# The strategy of generated code

Generating code reorders the weights of the nodes that ask for the resource strategy, and then
prints the strategy of every node. The pass folds the name of the strategy, and the templates put it
in lower case: the two agree, except on a name that is spelled with the long s.

* `compile_eq_ok`, `exists_artifacts`, `renderAll_part`: what a success was made of;
* `Swept.transformed_iff`: the nodes whose weights were reordered;
* **`exists_layout_printed`**: the layout of a node and the strategy in its config block.
-/

namespace LayerCode

open Text Outcome

theorem Target.registry_of_mem {t : Target} (ht : t ∈ all) : t.registry = .builtin := by
  simp only [all, List.mem_cons, List.not_mem_nil, or_false] at ht
  rcases ht with rfl | rfl <;> rfl

/-! ## Successful compilations -/

namespace Compile

theorem compile_eq_ok {t : Target} {canceled : Bool} {g : Graph} {r : Result}
    (h : (compile t canceled g).result = .ok r) :
    ∃ orders after, g.nodes.mapM (checkNode t g.name) = .ok orders ∧
      Pass.run [Resource.pass] canceled () g = (after, .ok ()) ∧
      (compile t canceled g).graph = after.graph ∧ renderAll t after.graph orders = .ok r := by
  rcases compile_cases t canceled g with
    ⟨_, _, _, hr⟩ | ⟨orders, after, horders, hg, ⟨_, _, hr⟩ | ⟨hrun, hr⟩⟩
  · exact absurd (h.symm.trans hr) (by simp)
  · exact absurd (h.symm.trans hr) (by simp)
  · exact ⟨orders, after, horders, hrun, hg, hr.symm.trans h⟩

theorem not_canceled {t : Target} {canceled : Bool} {g : Graph} {r : Result}
    (h : (compile t canceled g).result = .ok r) : canceled = false := by
  obtain ⟨orders, after, -, hrun, -⟩ := compile_eq_ok h
  exact Pass.not_canceled_of_run hrun

/-- A success is put together from the code of nodes. -/
theorem exists_artifacts {t : Target} {canceled : Bool} {g : Graph} {r : Result}
    (h : (compile t canceled g).result = .ok r) :
    ∃ name artifacts, r = ⟨name, t.name, some artifacts,
      some (firstSeen (artifacts.flatMap Artifact.headers))⟩ := by
  obtain ⟨orders, after, -, -, -, hrender⟩ := compile_eq_ok h
  obtain ⟨artifacts, -, hr⟩ := bind_eq_ok.mp hrender
  exact ⟨_, artifacts, (Except.ok.inj hr).symm⟩

/-- The code of a graph has the code of every node at its place. -/
theorem renderAll_part {t : Target} {g : Graph} {orders : List ChannelOrder} {r : Result}
    (h : renderAll t g orders = .ok r) (hlen : orders.length = g.size) {i : Nat} {n : Node}
    (hn : g.node? i = some n) :
    ∃ order a, r.parts[i]? = some a ∧ renderNode t g.name n order = .ok a := by
  obtain ⟨artifacts, hmap, hr⟩ := bind_eq_ok.mp h
  obtain rfl := Except.ok.inj hr
  have hall := mapM_eq_ok_iff.mp hmap
  have hi : i < g.size := Graph.lt_size_of_node? hn
  have hsize : g.nodes.length = g.size := List.length_map _
  have hzip : i < (g.nodes.zip orders).length := by
    rw [List.length_zip]
    omega
  have hparts : i < artifacts.length := hall.length_eq ▸ hzip
  have hnode : g.nodes[i] = n := by
    refine Option.some.inj ?_
    rw [← List.getElem?_eq_getElem, ← hn, Graph.nodes, List.getElem?_map, Graph.node?]
  refine ⟨orders[i], artifacts[i], List.getElem?_eq_getElem hparts, ?_⟩
  have hi := hall.get hzip hparts
  simpa only [List.get_eq_getElem, List.getElem_zip, hnode] using hi

/-- The strategy in the code of a node. -/
theorem printedStrategy?_renderNode {t : Target} (ht : t ∈ Target.all) {graph : String} {n : Node}
    (hr : n.variant.resourceRules.isSome = true) {order : ChannelOrder} {a : Artifact}
    (h : renderNode t graph n order = .ok a) :
    a.node = n.name ∧
      Template.printedStrategy? a.config = some ("nnet::" ++ Template.strategyText n.strategy) := by
  obtain ⟨config, hconfig, h⟩ := bind_eq_ok.mp h
  obtain ⟨call, -, h⟩ := bind_eq_ok.mp h
  obtain rfl := Except.ok.inj h
  rw [Target.registry_of_mem ht] at hconfig
  exact ⟨rfl, Template.printedStrategy?_config hr (mapError_eq_ok.mp hconfig)⟩

end Compile

/-! ## The pass and the templates -/

namespace Resource

/-- After a sweep over the whole graph a node that can be reordered has its strategy still, and was
reordered if and only if it asked for it. -/
theorem Swept.transformed_iff {g h : Graph} (hs : Swept g.size g h) {i : Nat} {n : Node}
    (hn : g.node? i = some n) (hr : n.variant.resourceRules.isSome = true)
    (hl : n.layout = .untransformed) :
    ∃ m, h.node? i = some m ∧ m.name = n.name ∧ m.variant = n.variant ∧ m.strategy = n.strategy ∧
      (m.layout = .transformed ↔ sameWord n.strategy "resource" = true) := by
  obtain ⟨m, hm, ⟨⟨-, he⟩, hR⟩ | ⟨hno, rfl⟩⟩ := hs.exists_after hn
  · refine ⟨m, hm, by rw [hR.rest], by rw [hR.rest], by rw [hR.rest], ?_⟩
    exact ⟨fun _ => he.selected, fun _ => by rw [hR.rest]⟩
  · refine ⟨m, hm, rfl, rfl, rfl, fun ht => ?_, fun hsel => ?_⟩
    · exact absurd (hl.symm.trans ht) (by decide)
    · exact absurd ⟨Graph.lt_size_of_node? hn, hr, hsel, hl⟩ hno

end Resource

theorem Template.strategyText_eq_resource {s : String} :
    strategyText s = "resource" ↔ lower s = "resource" := by
  unfold strategyText
  split_ifs with hs
  · subst hs
    decide +kernel
  · rfl

theorem Template.qualified_eq_resource {s : String} :
    "nnet::" ++ strategyText s = "nnet::resource" ↔ lower s = "resource" := by
  rw [← strategyText_eq_resource, ← String.toList_inj, ← String.toList_inj, String.toList_append]
  show "nnet::".toList ++ _ = "nnet::".toList ++ "resource".toList ↔ _
  rw [List.append_right_inj]

namespace Compile

/-- A success has reordered a node that can be reordered if and only if the folded name of its
strategy says so, and has printed that strategy in lower case. -/
theorem exists_layout_printed {g : Graph} (hw : g.WellFormed) {t : Target} (ht : t ∈ Target.all)
    {canceled : Bool} {r : Result} (hok : (compile t canceled g).result = .ok r) {i : Nat}
    {n : Node} (hn : g.node? i = some n) (hr : n.variant.resourceRules.isSome = true)
    (hl : n.layout = .untransformed) :
    ∃ m a, (compile t canceled g).graph.node? i = some m ∧ r.parts[i]? = some a ∧
      m.name = n.name ∧ a.node = n.name ∧
      (m.layout = .transformed ↔ sameWord n.strategy "resource" = true) ∧
      Template.printedStrategy? a.config = some ("nnet::" ++ Template.strategyText n.strategy) := by
  obtain ⟨orders, after, horders, hrun, hgraph, hrender⟩ := compile_eq_ok hok
  have hs := Resource.run_ok hw hrun
  obtain ⟨m, hm, hname, hvariant, hstrategy, hlayout⟩ := hs.transformed_iff hn hr hl
  have hlen : orders.length = after.graph.size := by
    rw [← (mapM_eq_ok_iff.mp horders).length_eq, hs.size_eq]
    exact List.length_map _
  obtain ⟨order, a, ha, hnode⟩ := renderAll_part hrender hlen hm
  obtain ⟨haname, hprinted⟩ := printedStrategy?_renderNode ht (hvariant ▸ hr) hnode
  rw [hstrategy] at hprinted
  exact ⟨m, a, hgraph ▸ hm, ha, hname, haname.trans hname, hlayout, hprinted⟩

/-- **The layout of a node and the strategy in its config block.** A node whose block says resource
has been reordered. The converse holds of every spelling of the strategy but those with the long s,
which folding takes for an s and lower case keeps. -/
theorem printed_resource_iff (s : String) :
    ((sameWord s "resource" = true ↔ lower s = "resource") ↔ ¬ LongSpelling s) ∧
    ∀ {g : Graph}, g.Built → ∀ t ∈ Target.all, ∀ (canceled : Bool) (r : Result),
      (compile t canceled g).result = .ok r → ∀ (i : Nat) (n : Node), g.node? i = some n →
        n.strategy = s → n.variant.resourceRules.isSome = true → n.layout = .untransformed →
        ∃ m a, (compile t canceled g).graph.node? i = some m ∧ r.parts[i]? = some a ∧
          m.name = n.name ∧ a.node = n.name ∧
          (Template.printedStrategy? a.config = some "nnet::resource" → m.layout = .transformed) ∧
          ((m.layout = .transformed ↔
            Template.printedStrategy? a.config = some "nnet::resource") ↔ ¬ LongSpelling s) := by
  refine ⟨sameWord_iff_lower_iff s, fun {g} hb t ht canceled r hok i n hn hstrategy hr hl => ?_⟩
  subst hstrategy
  obtain ⟨m, a, hm, ha, hname, haname, hlayout, hprinted⟩ :=
    exists_layout_printed hb.wellFormed ht hok hn hr hl
  refine ⟨m, a, hm, ha, hname, haname, ?_, ?_⟩
  · rw [hprinted, Option.some.injEq, Template.qualified_eq_resource, hlayout]
    exact sameWord_of_lower
  · rw [hprinted, Option.some.injEq, Template.qualified_eq_resource, hlayout]
    exact sameWord_iff_lower_iff n.strategy

/-- A dense layer whose strategy is in mixed case is reordered as its config block says. -/
theorem printed_resource_iff_dense :
    (Graph.denseGraph "Resource").Built ∧ Target.vivado ∈ Target.all ∧
      ¬ LongSpelling "Resource" ∧
      ∃ r, (compile .vivado false (Graph.denseGraph "Resource")).result = .ok r ∧
        ∃ m a, (compile .vivado false (Graph.denseGraph "Resource")).graph.node? 0 = some m ∧
          r.parts[0]? = some a ∧
          (m.layout = .transformed ↔
            Template.printedStrategy? a.config = some "nnet::resource") := by
  have hb := Graph.denseGraph_built "Resource"
  have ht : Target.vivado ∈ Target.all := List.mem_cons_of_mem _ List.mem_cons_self
  have hspelling : ¬ LongSpelling "Resource" :=
    (printed_resource_iff "Resource").1.mp (by decide +kernel)
  have hok : (compile .vivado false (Graph.denseGraph "Resource")).result.isOk = true := by
    decide +kernel
  obtain ⟨r, hr⟩ := exists_of_isOk hok
  obtain ⟨m, a, hm, ha, -, -, -, hiff⟩ :=
    (printed_resource_iff "Resource").2 hb .vivado ht false r hr 0 (Graph.denseLayer "Resource")
      rfl rfl rfl rfl
  exact ⟨hb, ht, hspelling, r, hr, m, a, hm, ha, hiff.mpr hspelling⟩

/-- A dense layer whose strategy is spelled with the long s is reordered, and its config block says
something else than resource. -/
theorem printed_long_spelling :
    (Graph.denseGraph "reſource").Built ∧ (Graph.denseLayer "reſource").layout = .untransformed ∧
      ∃ r m a, (compile .vivado false (Graph.denseGraph "reſource")).result = .ok r ∧
        (compile .vivado false (Graph.denseGraph "reſource")).graph.node? 0 = some m ∧
        r.parts[0]? = some a ∧ m.layout = .transformed ∧
        Template.printedStrategy? a.config = some "nnet::reſource" ∧
        sameWord "reſource" "resource" = true ∧ lower "reſource" ≠ "resource" := by
  have hok : (compile .vivado false (Graph.denseGraph "reſource")).result.isOk = true := by
    decide +kernel
  obtain ⟨r, hr⟩ := exists_of_isOk hok
  have hb := Graph.denseGraph_built "reſource"
  have ht : Target.vivado ∈ Target.all := List.mem_cons_of_mem _ List.mem_cons_self
  obtain ⟨m, a, hm, ha, -, -, hlayout, hprinted⟩ :=
    exists_layout_printed (i := 0) (n := Graph.denseLayer "reſource") hb.wellFormed ht hr
      rfl rfl rfl
  have hfold : sameWord "reſource" "resource" = true := by decide +kernel
  have htext : "nnet::" ++ Template.strategyText "reſource" = "nnet::reſource" := by decide +kernel
  exact ⟨hb, rfl, r, m, a, hr, hm, ha, hlayout.mpr hfold, hprinted.trans (congrArg some htext),
    hfold, by decide +kernel⟩

end Compile

end LayerCode

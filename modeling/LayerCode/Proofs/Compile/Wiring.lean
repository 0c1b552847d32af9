import LayerCode.Proofs.Compile.NodeByNode
import LayerCode.Proofs.Template.Named

/-!
# Which symbols the code of a graph names

The code of every node is generated from values with the symbols of its index, whatever templates
the target has. With the templates of the kernel library, the two texts of a node fit together, and
two artifacts name the same symbol only if their nodes have the same index. Nothing keeps a node
from calling a port or its strategy like a symbol, though, and then its code names that symbol too.

* `forall₂_codeOf`: every artifact is the code of its node;
* `Wired`, `wired_of_codeOf`: the texts of a node fit together;
* `mem_of_mem_codeWords`: where the symbols in the code of a node come from;
* **`symbols_apart`**.
-/

namespace LayerCode

open Text Outcome Template

namespace Compile

variable {t : Target}

theorem codeOf_of_renderNode {graph : String} {n : Node} {order : ChannelOrder} {x : Artifact}
    (ho : t.validate n = .ok order) (h : renderNode t graph n order = .ok x) : CodeOf t n x := by
  obtain ⟨config, hconfig, h⟩ := bind_eq_ok.mp h
  obtain ⟨call, hcall, h⟩ := bind_eq_ok.mp h
  obtain rfl := Except.ok.inj h
  exact ⟨rfl, rfl, mapError_eq_ok.mp hconfig, ⟨order, ho, mapError_eq_ok.mp hcall⟩, rfl⟩

/-- **Every artifact is the code of its node**, whatever templates the target has. -/
theorem forall₂_codeOf {canceled : Bool} {g : Graph} {r : Result}
    (h : (compile t canceled g).result = .ok r) : List.Forall₂ (CodeOf t) g.nodes r.parts := by
  obtain rfl := not_canceled h
  obtain ⟨ps, hps⟩ := exists_produce h
  obtain rfl := Except.ok.inj ((compile_of_produce hps).1.symm.trans h)
  show List.Forall₂ (CodeOf t) g.nodes (ps.map Prod.snd)
  rw [List.forall₂_map_right_iff]
  refine (mapM_eq_ok_iff.mp hps).imp fun n p hp => ?_
  obtain ⟨order, horder, hsettle, hrender⟩ := produce_eq_ok_iff.mp hp
  -- The text is generated after the pass, which changes weights and layout state only.
  rw [renderNode_congr (Resource.settle_rest hsettle)] at hrender
  exact codeOf_of_renderNode (mapError_eq_ok.mp horder) hrender

/-! ## Texts of the kernel library -/

/-- The texts of a node fit together: the block defines the struct that the invocation names, and
the invocation passes the buffers of the node and the symbol of every declared weight once. Read
word by word, the invocation names every symbol of the node once and no other one, and the block
that of the struct only, besides the symbols that the node brings as words of its ports and its
strategy. -/
structure Wired (n : Node) (x : Artifact) (c : Invocation) : Prop where
  call : x.call = c.text
  block : ∃ base body, x.config = "struct " ++ c.config ++ " : nnet::" ++ base ++
    "_config \x7b\n" ++ body ++ "\x7d;\n"
  symbol : c.config = configSymbol n.index
  buffers : ∀ b ∈ c.buffers, b = n.input.var ∨ b = n.output.var
  weights : c.weights.Perm ((weightSymbols n.variant n.index).map Prod.snd)
  nodup : c.weights.Nodup
  callNames : ∀ s, IsSymbol s →
    (words x.call).count s = (portWords n).count s + if s ∈ nodeSymbols n then 1 else 0
  blockNames : ∀ s ∈ words x.config, IsSymbol s →
    s = configSymbol n.index ∨ s ∈ words (strategyText n.strategy)

theorem wired_of_codeOf (ht : t.registry = .builtin) {n : Node} {x : Artifact} (h : CodeOf t n x) :
    ∃ order, t.validate n = .ok order ∧ Wired n x (.ofNode n order.tag) := by
  obtain ⟨order, horder, hcall⟩ := h.call
  have hconfig := h.config
  rw [ht, Registry.builtin_call_eq_ok, render_builtinCall] at hcall
  rw [ht, Registry.builtin_config_eq_ok] at hconfig
  have htext : x.call = (Invocation.ofNode n order.tag).text := (Except.ok.inj hcall).symm
  obtain ⟨kernel, lines, hblock, -⟩ := builtinConfig_eq_configBlock n.variant
  refine ⟨order, horder, ?_⟩
  constructor
  case call => exact htext
  case block =>
    obtain ⟨body, -, hbody⟩ := exists_render_config (hblock ▸ hconfig)
    exact ⟨kernel, body, hbody⟩
  case symbol => rfl
  case buffers =>
    show ∀ b ∈ passedBuffers n.variant n.input.var n.output.var, _
    unfold passedBuffers
    split <;> simp
  case weights => exact (List.perm_cons _).mp (perm_nodeSymbols n order.tag)
  case nodup => exact nodup_passedWeights n.variant n.index
  case callNames => exact fun s hs => htext ▸ count_words_call n order hs
  case blockNames =>
    exact fun s hmem hs => List.mem_cons.mp (namesOnly_config hconfig s hmem hs.numbered)

/-- The words of an artifact. -/
def codeWords (x : Artifact) : List String := words x.config ++ words x.call

/-- A symbol in the code of a node is one of its symbols, or comes from the node. -/
theorem mem_of_mem_codeWords {n : Node} {x : Artifact} {c : Invocation} (h : Wired n x c)
    {s : String} (hs : IsSymbol s) (hmem : s ∈ codeWords x) :
    s ∈ nodeSymbols n ∨ s ∈ ownWords n := by
  rw [ownWords, List.mem_append]
  rcases List.mem_append.mp hmem with hblock | hcall
  · rcases h.blockNames s hblock hs with rfl | hstrategy
    · exact .inl List.mem_cons_self
    · exact .inr (.inr hstrategy)
  · have hcount := h.callNames s hs
    have hpositive := List.count_pos_iff.mpr hcall
    by_cases hsymbol : s ∈ nodeSymbols n
    · exact .inl hsymbol
    · rw [if_neg hsymbol] at hcount
      exact .inr (.inl (List.count_pos_iff.mp (by omega)))

/-- **Generated symbols do not collide**, unless a node brings one. The symbols of two declared
weights are the same if and only if the weights have the same name and the nodes the same index. For
any templates, the code of two nodes is generated from values with a symbol in common only if the
nodes have the same index. With the templates of the kernel library, the texts of each node fit
together, and two artifacts have a symbol as a word in common only if their nodes have the same
index, or one of the nodes brings the word. -/
theorem symbols_apart :
    (∀ v w : Variant, ∀ a ∈ v.declaredWeights, ∀ b ∈ w.declaredWeights, ∀ i j : Int64,
      (weightSymbols v i).lookup a = (weightSymbols w j).lookup b ↔ a = b ∧ i = j) ∧
    ∀ (t : Target) (canceled : Bool) (g : Graph) (r : Result),
      (compile t canceled g).result = .ok r →
        List.Forall₂ (CodeOf t) g.nodes r.parts ∧
        (∀ n ∈ g.nodes, ∀ m ∈ g.nodes, ∀ tag tag', ∀ s ∈ (CallValues.ofNode n tag).symbols,
          s ∈ (CallValues.ofNode m tag').symbols → n.index = m.index) ∧
        (t.registry = .builtin →
          List.Forall₂ (fun n x =>
            ∃ order, t.validate n = .ok order ∧ Wired n x (.ofNode n order.tag)) g.nodes r.parts ∧
          ∀ p ∈ g.nodes.zip r.parts, ∀ q ∈ g.nodes.zip r.parts, ∀ s, IsSymbol s →
            s ∈ codeWords p.2 → s ∈ codeWords q.2 →
              p.1.index = q.1.index ∨ s ∈ ownWords p.1 ∨ s ∈ ownWords q.1) := by
  refine ⟨fun v w a ha b hb i j => ?_, fun t canceled g r h => ?_⟩
  · rw [lookup_weightSymbols ha, lookup_weightSymbols hb, Option.some.injEq]
    constructor
    · exact weightSymbol_inj (mem_weightNames ha) (mem_weightNames hb)
    · rintro ⟨rfl, rfl⟩
      rfl
  · have hcode := forall₂_codeOf h
    refine ⟨hcode, fun n _ m _ tag tag' s => index_eq_of_mem_nodeSymbols, fun ht => ?_⟩
    have hwired := hcode.imp fun n x hx => wired_of_codeOf ht hx
    refine ⟨hwired, fun p hp q hq s hs hsp hsq => ?_⟩
    obtain ⟨_, -, hwiredp⟩ := List.forall₂_zip hwired hp
    obtain ⟨_, -, hwiredq⟩ := List.forall₂_zip hwired hq
    rcases mem_of_mem_codeWords hwiredp hs hsp with hsp | hown
    · rcases mem_of_mem_codeWords hwiredq hs hsq with hsq | hown
      · exact .inl (index_eq_of_mem_nodeSymbols hsp hsq)
      · exact .inr (.inr hown)
    · exact .inr (.inl hown)

/-- A dense layer with the index -1 and an attention layer with the index 11. -/
def attentionGraph : Graph :=
  ⟨"net", [("fc", { Graph.denseLayer "" with index := -1 }),
    ("mha",
      { name := "mha", index := 11, strategy := "", reuseFactor := 1, input := ⟨"y", "result_t"⟩
        output := ⟨"z", "result_t"⟩, attrs := some (.attention ⟨1, 1, 1, 1, 1⟩)
        variant := .multiHeadAttention
        weights := (sortOn id Variant.multiHeadAttention.declaredWeights).map (⟨·, [1], #[0]⟩)
        layout := .untransformed })]⟩

/-- The layers of the graph bring no symbol, so their artifacts have none in common. -/
theorem symbols_apart_attention :
    "bias" ∈ Variant.dense.declaredWeights ∧ "bias" ∈ Variant.gru.declaredWeights ∧
      (weightSymbols .dense 1).lookup "bias" ≠ (weightSymbols .gru (-1)).lookup "bias" ∧
      ∃ r n m x y, (compile .quartus false attentionGraph).result = .ok r ∧
        attentionGraph.nodes = [n, m] ∧ r.parts = [x, y] ∧
        (∀ s ∈ (CallValues.ofNode n "cl").symbols, s ∉ (CallValues.ofNode m "cl").symbols) ∧
        ∀ s, IsSymbol s → s ∈ codeWords x → s ∉ codeWords y := by
  have hok : (compile .quartus false attentionGraph).result.isOk = true := by
    decide +kernel
  obtain ⟨r, hr⟩ := exists_of_isOk hok
  obtain ⟨hcode, hvalues, hbuiltin⟩ := symbols_apart.2 _ _ _ _ hr
  obtain ⟨-, hcommon⟩ := hbuiltin rfl
  obtain ⟨x, y, hparts⟩ := List.length_eq_two.mp hcode.length_eq.symm
  have hdense : "bias" ∈ Variant.dense.declaredWeights := by decide
  have hgru : "bias" ∈ Variant.gru.declaredWeights := by decide
  have hindex : (-1 : Int64) ≠ 11 := by decide
  refine ⟨hdense, hgru, fun h => ?_, r, _, _, x, y, hr, rfl, hparts, fun s hs hs' => ?_,
    fun s hs hx hy => ?_⟩
  · exact absurd ((symbols_apart.1 _ _ _ hdense _ hgru _ _).mp h).2 (by decide)
  · exact hindex (hvalues _ (by simp [attentionGraph, Graph.nodes]) _
      (by simp [attentionGraph, Graph.nodes]) _ _ s hs hs')
  · have hnone : ∀ n ∈ attentionGraph.nodes, ∀ w ∈ ownWords n, numbered w = false := by
      decide +kernel
    rw [hparts] at hcommon
    rcases hcommon _ List.mem_cons_self _ (List.mem_cons_of_mem _ List.mem_cons_self) s hs hx
      hy with h | h | h
    · exact hindex h
    · exact absurd (hnone _ (by simp [attentionGraph, Graph.nodes]) s h) (by simp [hs.numbered])
    · exact absurd (hnone _ (by simp [attentionGraph, Graph.nodes]) s h) (by simp [hs.numbered])

/-- Two dense layers with the indices 3 and 7. The first one calls its ports and its strategy like
symbols of both. -/
def namesakeGraph : Graph :=
  ⟨"net", [("fc", { Graph.denseLayer "b7" with
      index := 3, input := ⟨"w7", "config7"⟩, output := ⟨"w3", "result_t"⟩ }),
    ("fd", { Graph.denseLayer "" with name := "fd", index := 7 })]⟩

/-- A target whose template for invocations of dense layers spells a symbol. -/
def spellingTarget : Target where
  name := "spelling"
  channelsFirst := false
  registry := (Registry.builtin.register Variant.dense.code none "block;" "use(w7);").1

/-- The block of the first layer, up to its strategy. -/
def namesakeBlock : String :=
  "struct config3 : nnet::dense_config \x7b\n    static const unsigned n_in = 2;\n" ++
    "    static const unsigned n_out = 1;\n    static const unsigned reuse_factor = 1;\n" ++
    "    static const unsigned n_zeros = 0;\n    static const unsigned strategy = nnet::"

/-- **Nodes, and other templates, can bring symbols.** The invocation of the first layer passes the
array of its weight a second time, as its output, and that of the second layer's weight, as its
input. Both artifacts name that array, the config block of the second layer, and its bias, which
stands in the block of the first layer. With a template that spells a symbol, every artifact names
it. -/
theorem symbols_shared_by_names :
    namesakeGraph.nodes.map Node.index = [3, 7] ∧
      (∃ r x y, (compile .vivado false namesakeGraph).result = .ok r ∧ r.parts = [x, y] ∧
        x.config = namesakeBlock ++ "b7;\n\x7d;\n" ∧ "b7" ∈ words x.config ∧
        words x.call =
          ["nnet", "dense", "config7", "result_t", "config3", "w7", "w3", "w3", "b3"] ∧
        words y.call = ["nnet", "dense", "input_t", "result_t", "config7", "x", "y", "w7", "b7"]) ∧
      ∃ r, (compile spellingTarget false namesakeGraph).result = .ok r ∧
        r.parts.map Artifact.call = ["use(w7);", "use(w7);"] := by
  refine ⟨by decide, ?_, exists_ok_of_any (by decide +kernel)⟩
  obtain ⟨r, hr, hlength, hblock, hcalls⟩ : ∃ r,
      (compile .vivado false namesakeGraph).result = .ok r ∧ r.parts.length = 2 ∧
        r.parts.head?.map Artifact.config = some (namesakeBlock ++ "b7;\n\x7d;\n") ∧
        (r.parts.map fun x => words x.call) =
          [["nnet", "dense", "config7", "result_t", "config3", "w7", "w3", "w3", "b3"],
           ["nnet", "dense", "input_t", "result_t", "config7", "x", "y", "w7", "b7"]] :=
    exists_ok_of_any (by decide +kernel)
  obtain ⟨x, y, hparts⟩ := List.length_eq_two.mp hlength
  simp only [hparts, List.head?_cons, Option.map_some, Option.some.injEq, List.map_cons,
    List.map_nil, List.cons.injEq, and_true] at hblock hcalls
  refine ⟨r, x, y, hr, hparts, hblock, ?_, hcalls.1, hcalls.2⟩
  have hword : "b7" ∈ words "b7;\n\x7d;\n" := by decide
  have hends : endsBroken namesakeBlock = true := endsBroken_append rfl
  rw [hblock, words_append (.inl hends)]
  exact List.mem_append_right _ hword

end Compile

end LayerCode

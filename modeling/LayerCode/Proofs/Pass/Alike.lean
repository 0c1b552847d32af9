import Mathlib.Data.List.Forall2
import LayerCode.Pass.Resource
import LayerCode.Proofs.Graph.Changed
import LayerCode.Proofs.Outcome

/-!
# Graphs that differ in the values of their weights

No pass decides anything by the value of a weight. Two graphs that are alike, that is, the same but
for those values, go through a run side by side: the runs take the same steps, log the same events
and end in the same way, and the graphs are alike after every step.

* `Tensor.Alike`, `Node.Alike`, `Graph.Alike`: the same but for the values of weights;
* `Rule.apply_alike`, `transformNode_alike`: alike weights and nodes are reordered alike;
* `Pass.Respects`: a pass that does not tell alike graphs apart;
* **`Pass.sweep_alike`**, **`Pass.run_alike`**: a sweep, and a run, of such passes;
* `Resource.pass_respects`: the resource pass is one.
-/

namespace LayerCode

open Text Outcome

/-! ## Weights -/

/-- The same name, the same shape, and as many values. -/
structure Tensor.Alike (t u : Tensor) : Prop where
  name : u.name = t.name
  shape : u.shape = t.shape
  size : u.data.size = t.data.size

/-- The same shape, and as many values. -/
structure Layout.Alike (l k : Layout) : Prop where
  shape : k.shape = l.shape
  size : k.data.size = l.data.size

theorem Tensor.Alike.replace {t u : Tensor} (h : t.Alike u) {l k : Layout} (hl : l.Alike k) :
    (t.replace l).Alike (u.replace k) :=
  ⟨h.name, hl.shape, hl.size⟩

theorem Tensor.transpose_alike {t u : Tensor} (h : t.Alike u) :
    Agree Layout.Alike t.transpose u.transpose := by
  obtain ⟨name, shape, data⟩ := t
  obtain ⟨_, _, data'⟩ := u
  obtain ⟨rfl, rfl, hsize⟩ := h
  simp only at hsize
  simp only [transpose, hsize]
  split
  · split_ifs
    · exact .error _
    · exact .ok ⟨rfl, by simp⟩
  · exact .error _

theorem Tensor.permute_alike {t u : Tensor} (h : t.Alike u) (axes : List Int64) :
    Agree Layout.Alike (t.permute axes) (u.permute axes) := by
  obtain ⟨name, shape, data⟩ := t
  obtain ⟨_, _, data'⟩ := u
  obtain ⟨rfl, rfl, hsize⟩ := h
  simp only at hsize
  simp only [permute, rank, hsize]
  split_ifs
  · exact .error _
  · exact .error _
  · exact .error _
  · exact .error _
  · exact .ok ⟨rfl, by simp⟩

theorem Rule.apply_alike (r : Rule) {t u : Tensor} (h : t.Alike u) :
    Agree Layout.Alike (r.apply t) (r.apply u) := by
  obtain ⟨weight, axes⟩ := r
  cases axes with
  | none => exact Tensor.transpose_alike h
  | some axes => exact Tensor.permute_alike h axes

/-! ## Nodes -/

/-- The second node is the first but for the values of its weights. -/
structure Node.Alike (n m : Node) : Prop where
  rest : m = { n with weights := m.weights }
  weights : List.Forall₂ Tensor.Alike n.weights m.weights

namespace Node.Alike

variable {n m : Node}

theorem name (h : n.Alike m) : m.name = n.name := by rw [h.rest]

theorem variant (h : n.Alike m) : m.variant = n.variant := by rw [h.rest]

theorem layout (h : n.Alike m) : m.layout = n.layout := by rw [h.rest]

theorem weight? (h : n.Alike m) (name : String) :
    n.weight? name = none ∧ m.weight? name = none ∨
      ∃ t u, n.weight? name = some t ∧ m.weight? name = some u ∧ t.Alike u := by
  obtain ⟨-, hw⟩ := h
  unfold Node.weight?
  generalize n.weights = ts at hw ⊢
  generalize m.weights = us at hw ⊢
  induction hw with
  | nil => exact .inl ⟨rfl, rfl⟩
  | @cons t u ts us htu _ ih =>
    rw [List.find?_cons, List.find?_cons, htu.name]
    cases t.name == name with
    | true => exact .inr ⟨t, u, rfl, rfl, htu⟩
    | false => exact ih

theorem setWeight (h : n.Alike m) (name : String) {l k : Layout} (hl : l.Alike k) :
    (n.setWeight name l).Alike (m.setWeight name k) := by
  refine ⟨?_, ?_⟩
  · unfold Node.setWeight
    rw [h.rest]
  · show List.Forall₂ Tensor.Alike (n.weights.map _) (m.weights.map _)
    rw [List.forall₂_map_left_iff, List.forall₂_map_right_iff]
    refine h.weights.imp fun t u htu => ?_
    rw [htu.name]
    split_ifs
    · exact htu.replace hl
    · exact htu

theorem markTransformed (h : n.Alike m) : n.markTransformed.Alike m.markTransformed := by
  refine ⟨?_, h.weights⟩
  unfold Node.markTransformed
  rw [h.rest]

end Node.Alike

namespace Resource

variable {n m : Node}

theorem stage_alike (h : n.Alike m) (r : Rule) :
    Agree (fun s s' => s'.1 = s.1 ∧ s.2.Alike s'.2) (stage n r) (stage m r) := by
  unfold stage
  rcases h.weight? r.weight with ⟨hn, hm⟩ | ⟨t, u, hn, hm, htu⟩
  · simp only [hn, hm, h.variant]
    exact .error _
  · simp only [hn, hm]
    exact ((r.apply_alike htu).mapError _).bind fun l k hl => .ok ⟨rfl, hl⟩

theorem commit_alike (h : n.Alike m) {staged staged' : List (String × Layout)}
    (hs : List.Forall₂ (fun s s' => s'.1 = s.1 ∧ s.2.Alike s'.2) staged staged') :
    (commit n staged).Alike (commit m staged') := by
  refine Node.Alike.markTransformed ?_
  induction hs generalizing n m with
  | nil => exact h
  | cons hss _ ih =>
    rw [List.foldl_cons, List.foldl_cons, hss.1]
    exact ih (h.setWeight _ hss.2)

/-- **Alike nodes are reordered alike**, or refused in the same way. -/
theorem transformNode_alike (h : n.Alike m) :
    Agree Node.Alike (transformNode n) (transformNode m) := by
  unfold transformNode
  rw [h.variant, h.layout]
  cases n.variant.resourceRules with
  | none => exact .error _
  | some rules =>
    show Agree Node.Alike (if _ then _ else _) (if _ then _ else _)
    split_ifs
    · exact .ok h
    · exact (agree_mapM fun r _ => stage_alike h r).bind fun _ _ hs => .ok (commit_alike h hs)

end Resource

/-! ## Graphs -/

/-- The second graph is the first but for the values of weights. -/
def Graph.Alike : Graph → Graph → Prop := Graph.Changed fun _ => Node.Alike

theorem Graph.Alike.node? {g h : Graph} (ha : g.Alike h) (i : Nat) :
    g.node? i = none ∧ h.node? i = none ∨
      ∃ n m, g.node? i = some n ∧ h.node? i = some m ∧ n.Alike m := by
  cases hn : g.node? i with
  | some n =>
    obtain ⟨m, hm, hnm⟩ := ha.exists_after hn
    exact .inr ⟨n, m, rfl, hm, hnm⟩
  | none =>
    refine .inl ⟨rfl, Option.eq_none_iff_forall_not_mem.mpr fun m hm => ?_⟩
    obtain ⟨n, hn', -⟩ := ha.exists_before hm
    exact absurd (hn.symm.trans hn') (by simp)

theorem Graph.Alike.setNode {g h : Graph} (ha : g.Alike h) (i : Nat) {n m : Node}
    (hnm : n.Alike m) : (g.setNode i n).Alike (h.setNode i m) where
  name := ha.name
  listed := by rw [listed_setNode, listed_setNode, ha.listed]
  nodes j k l hk hl := by
    rw [node?_setNode] at hk hl
    split_ifs at hk hl with hij
    · obtain ⟨_, _, rfl⟩ := Option.map_eq_some_iff.mp hk
      obtain ⟨_, _, rfl⟩ := Option.map_eq_some_iff.mp hl
      exact hnm
    · exact ha.nodes j k l hk hl

/-! ## Passes -/

variable {σ : Type}

/-- The same effect, on graphs that are alike. -/
structure Effect.Alike (e d : Effect σ) : Prop where
  state : d.state = e.state
  graph : e.graph.Alike d.graph
  events : d.events = e.events
  restart : d.restart = e.restart

namespace Pass

/-- The pass does not tell alike nodes and graphs apart. -/
structure Respects (p : Pass σ) : Prop where
  applies : ∀ s {n m}, n.Alike m → p.applies s m = p.applies s n
  transform : ∀ s {g h}, g.Alike h → ∀ i, (p.transform s g i).Alike (p.transform s h i)

/-- The same state and the same journal, and graphs that are alike. -/
structure Progress.Alike (c d : Progress σ) : Prop where
  state : d.state = c.state
  graph : c.graph.Alike d.graph
  journal : d.journal = c.journal

/-- Two computations that have come equally far and ended in the same way. -/
def EndAlike {β : Type} (x y : Progress σ × β) : Prop := x.1.Alike y.1 ∧ y.2 = x.2

variable {c d : Progress σ}

theorem EndAlike.cases {β : Type} {x y : Progress σ × β} (h : EndAlike x y) :
    ∃ c d e, x = (c, e) ∧ y = (d, e) ∧ c.Alike d :=
  ⟨x.1, y.1, x.2, rfl, by rw [← h.2], h.1⟩

theorem applyAt_alike {p : Pass σ} (hp : p.Respects) (h : c.Alike d) (i : Nat) {n m : Node}
    (hnm : n.Alike m) : EndAlike (applyAt p i n c) (applyAt p i m d) := by
  have he := hp.transform c.state h.graph i
  have hname : ((p.transform c.state d.graph i).graph.node? i).map Node.name =
      ((p.transform c.state c.graph i).graph.node? i).map Node.name := by
    rcases he.graph.node? i with ⟨hk, hl⟩ | ⟨k, l, hk, hl, hkl⟩
    · rw [hk, hl]
    · rw [hk, hl, Option.map_some, Option.map_some, hkl.name]
  unfold applyAt
  simp only [h.state, h.journal, he.events, he.restart, hname, hnm.name, hnm.variant]
  cases (p.transform c.state c.graph i).restart with
  | error fault => exact ⟨⟨he.state, he.graph, rfl⟩, rfl⟩
  | ok restart => exact ⟨⟨he.state, he.graph, rfl⟩, rfl⟩

/-- **Sweeps over graphs that are alike go side by side.** -/
theorem sweep_alike {steps : List (Nat × Pass σ)} (hp : ∀ s ∈ steps, s.2.Respects)
    (applied : Nat) (h : c.Alike d) : EndAlike (sweep steps applied c) (sweep steps applied d) := by
  induction steps generalizing applied c d with
  | nil => exact ⟨h, rfl⟩
  | cons step steps ih =>
    obtain ⟨i, p⟩ := step
    have hrespects : p.Respects := hp (i, p) List.mem_cons_self
    have hrest : ∀ s ∈ steps, s.2.Respects := fun s hs => hp s (List.mem_cons_of_mem _ hs)
    rw [sweep, sweep]
    rcases h.graph.node? i with ⟨hn, hm⟩ | ⟨n, m, hn, hm, hnm⟩
    · simp only [hn, hm]
      exact ih hrest applied h
    · simp only [hn, hm, h.state, hrespects.applies c.state hnm]
      split_ifs
      · obtain ⟨after, after', e, hc, hd, ha⟩ := (applyAt_alike hrespects h i hnm).cases
        rw [hc, hd]
        rcases e with fault | _ | _
        · exact ⟨ha, rfl⟩
        · exact ih hrest (applied + 1) ha
        · exact ⟨ha, rfl⟩
      · exact ih hrest applied h

theorem runFrom_alike {passes : List (Pass σ)} (hp : ∀ p ∈ passes, p.Respects) (canceled : Bool)
    (left : Nat) (h : c.Alike d) :
    EndAlike (runFrom passes canceled left c) (runFrom passes canceled left d) := by
  have hsteps : ∀ g : Graph, ∀ s ∈ steps passes g, s.2.Respects := by
    intro g s hs
    obtain ⟨i, -, hs⟩ := List.mem_flatMap.mp hs
    obtain ⟨p, hmem, rfl⟩ := List.mem_map.mp hs
    exact hp p hmem
  induction left generalizing c d with
  | zero => exact ⟨h, by rw [runFrom, runFrom, h.graph.name]⟩
  | succ left ih =>
    rw [runFrom, runFrom]
    split_ifs
    · exact ⟨h, rfl⟩
    · have hsame : steps passes d.graph = steps passes c.graph := by
        rw [steps, h.graph.size_eq, steps]
      obtain ⟨after, after', e, hc, hd, ha⟩ := (sweep_alike (hsteps c.graph) 0 h).cases
      rw [hsame, hc, hd]
      rcases e with fault | _ | count
      · exact ⟨ha, rfl⟩
      · exact ⟨⟨ha.state, ha.graph, by simp only [ha.journal, ha.graph.name]⟩, rfl⟩
      · exact ih ha

/-- **Runs over graphs that are alike go side by side.** -/
theorem run_alike {passes : List (Pass σ)} (hp : ∀ p ∈ passes, p.Respects) (canceled : Bool) (s : σ)
    {g h : Graph} (ha : g.Alike h) : EndAlike (run passes canceled s g) (run passes canceled s h) :=
  runFrom_alike hp canceled maxSweeps ⟨rfl, ha, rfl⟩

end Pass

namespace Resource

theorem pass_respects : (pass : Pass σ).Respects where
  applies s n m h := by
    show Resource.applies m = Resource.applies n
    rw [h.rest]
    rfl
  transform s g h ha i := by
    show (transform s g i).Alike (transform s h i)
    unfold transform
    rcases ha.node? i with ⟨hn, hm⟩ | ⟨n, m, hn, hm, hnm⟩
    · simp only [hn, hm]
      exact ⟨rfl, ha, rfl, rfl⟩
    · have hevents : events m = events n := by
        rw [hnm.rest]
        rfl
      simp only [hn, hm, hevents]
      rcases (transformNode_alike hnm).cases with ⟨fault, hk, hl⟩ | ⟨k, l, hk, hl, hkl⟩
      · simp only [hk, hl]
        exact ⟨rfl, ha, rfl, rfl⟩
      · simp only [hk, hl]
        exact ⟨rfl, ha.setNode i hkl, rfl, rfl⟩

end Resource

end LayerCode

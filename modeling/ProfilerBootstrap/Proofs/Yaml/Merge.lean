import Mathlib.Algebra.Order.BigOperators.Group.List
import Mathlib.Algebra.Order.Ring.Nat
import ProfilerBootstrap.Proofs.Yaml.Upholds
import ProfilerBootstrap.Yaml.Value.Merge

namespace ProfilerBootstrap.Yaml

abbrev nodeAt (nodes : Array Node) (id : NodeId) : Node := nodes.getD id default

theorem nodeAt_modify (nodes : Array Node) (f : Node → Node) (i j : NodeId) :
    nodeAt (nodes.modify i f) j =
      if i = j ∧ j < nodes.size then f (nodeAt nodes j) else nodeAt nodes j := by
  unfold nodeAt
  rw [Array.getD_eq_getD_getElem?, Array.getD_eq_getD_getElem?, Array.getElem?_modify]
  by_cases hj : j < nodes.size
  · by_cases hi : i = j
    · simp [hi, hj]
    · simp [hi]
  · simp [hj]

/-- What becomes of a node `m` while merge keys are resolved. -/
structure Node.Becomes (m n : Node) : Prop where
  tag : n.tag = m.tag ∨ m.tag = .value ∧ n.tag = .str
  content : n.content = m.content ∨ m.content.kind = .mapping ∧ n.content.kind = .mapping

theorem Node.Becomes.refl (n : Node) : n.Becomes n := ⟨.inl rfl, .inl rfl⟩

theorem Node.Becomes.trans {l m n : Node} (h : l.Becomes m) (h' : m.Becomes n) : l.Becomes n := by
  refine ⟨?_, ?_⟩
  · rcases h'.tag with ht' | ⟨hm, hn⟩
    · rw [ht']
      exact h.tag
    · rcases h.tag with ht | ⟨-, hm'⟩
      · exact .inr ⟨ht.symm.trans hm, hn⟩
      · exact absurd (hm.symm.trans hm') nofun
  · rcases h'.content with hc' | ⟨hm, hn⟩
    · rw [hc']
      exact h.content
    · rcases h.content with hc | ⟨hl, -⟩
      · exact .inr ⟨hc ▸ hm, hn⟩
      · exact .inr ⟨hl, hn⟩

theorem Node.Becomes.kind {m n : Node} (h : m.Becomes n) : n.content.kind = m.content.kind := by
  cases h.content with
  | inl h => rw [h]
  | inr h => rw [h.1, h.2]

theorem Node.Becomes.scalar {m n : Node} {text : List Nat} (h : m.Becomes n)
    (hn : n.content = .scalar text) : m.content = .scalar text := by
  rcases h.content with hc | ⟨-, hk⟩
  · exact hc.symm.trans hn
  · rw [hn] at hk
    cases hk

theorem Node.Becomes.sequence {m n : Node} {ids : List NodeId} (h : m.Becomes n)
    (hm : m.content = .sequence ids) : n.content = .sequence ids := by
  rcases h.content with hc | ⟨hk, -⟩
  · exact hc.trans hm
  · rw [hm] at hk
    cases hk

theorem Node.Becomes.isMerge {m n : Node} (h : m.Becomes n) : n.tag = .merge ↔ m.tag = .merge := by
  rcases h.tag with h | ⟨hm, hn⟩
  · rw [h]
  · simp [hm, hn]

theorem Node.Becomes.withPairs {m n : Node} (h : m.Becomes n) (hk : m.content.kind = .mapping)
    (pairs : List (NodeId × NodeId)) : m.Becomes { n with content := .mapping pairs } :=
  ⟨h.tag, .inr ⟨hk, rfl⟩⟩

theorem Node.Becomes.named {m n : Node} (h : m.Becomes n) (ht : n.tag = .value) :
    m.Becomes { n with tag := .str } := by
  refine ⟨.inr ⟨?_, rfl⟩, h.content⟩
  rcases h.tag with h | ⟨-, hn⟩
  · rw [← h, ht]
  · rw [hn] at ht
    cases ht

def Resolved (g s : Array Node) : Prop := ∀ id, (nodeAt g id).Becomes (nodeAt s id)

theorem Resolved.refl (g : Array Node) : Resolved g g := fun _ => .refl _

theorem Resolved.trans {g s s' : Array Node} (h : Resolved g s) (h' : Resolved s s') :
    Resolved g s' :=
  fun id => (h id).trans (h' id)

namespace Merge

variable {g s s' s'' : Array Node} {id : NodeId}

theorem isMerge_eq (h : Resolved g s) (p : NodeId × NodeId) : isMerge s p = isMerge g p := by
  unfold isMerge
  exact decide_eq_decide.mpr (h p.1).isMerge

def pairsIn (n : Node) : List (NodeId × NodeId) :=
  match n.content with
  | .mapping pairs => pairs
  | _ => []

def keys (g s : Array Node) (id : NodeId) : Nat := (pairsIn (nodeAt s id)).countP (isMerge g)

def total (g s : Array Node) : Nat := ((List.range s.size).map (keys g s)).sum

/-- From `s` to `s'` no mapping has been given a merge key. -/
structure Lessens (g s s' : Array Node) : Prop where
  resolved : Resolved g s'
  size : s'.size = s.size
  keys_le : ∀ id, keys g s' id ≤ keys g s id

theorem Lessens.refl (h : Resolved g s) : Lessens g s s := ⟨h, rfl, fun _ => Nat.le_refl _⟩

theorem Lessens.trans (h : Lessens g s s') (h' : Lessens g s' s'') : Lessens g s s'' :=
  ⟨h'.resolved, h'.size.trans h.size, fun id => Nat.le_trans (h'.keys_le id) (h.keys_le id)⟩

theorem Lessens.total_le (h : Lessens g s s') : total g s' ≤ total g s := by
  unfold total
  rw [h.size]
  exact List.sum_le_sum fun id _ => h.keys_le id

theorem keys_eq_zero (h : s.size ≤ id) : keys g s id = 0 := by
  unfold keys nodeAt
  rw [Array.getD_eq_getD_getElem?, Array.getElem?_eq_none h]
  rfl

theorem lt_size_of_keys (h : keys g s id ≠ 0) : id < s.size :=
  Nat.lt_of_not_le fun hid => h (keys_eq_zero hid)

theorem Lessens.total_lt (h : Lessens g s s') (hlt : keys g s' id < keys g s id) :
    total g s' < total g s := by
  have hid : id < s.size := lt_size_of_keys (Nat.ne_of_gt (Nat.zero_lt_of_lt hlt))
  unfold total
  rw [h.size]
  exact List.sum_lt_sum _ _ (fun id _ => h.keys_le id) ⟨id, List.mem_range.mpr hid, hlt⟩

theorem kind_of_keys (h : keys g s id ≠ 0) : (nodeAt s id).content.kind = .mapping := by
  unfold keys pairsIn at h
  split at h
  · next pairs hc => rw [hc]; rfl
  · exact absurd rfl h

/-- Gives a mapping other pairs, among which are no more merge keys than before. -/
theorem lessens_setPairs (h : Resolved g s) (hk : (nodeAt s id).content.kind = .mapping)
    {pairs : List (NodeId × NodeId)} (hle : pairs.countP (isMerge g) ≤ keys g s id) :
    Lessens g s (s.modify id ({ · with content := .mapping pairs })) := by
  refine ⟨fun i => ?_, Array.size_modify, fun i => ?_⟩
  · rw [nodeAt_modify]
    split
    · next hi => exact (h i).withPairs ((h i).kind.symm.trans (hi.1 ▸ hk)) pairs
    · exact h i
  · unfold keys
    rw [nodeAt_modify]
    split
    · next hi => exact hi.1 ▸ hle
    · exact Nat.le_refl _

theorem keys_setPairs (pairs : List (NodeId × NodeId)) (hid : id < s.size) :
    keys g (s.modify id ({ · with content := .mapping pairs })) id =
      pairs.countP (isMerge g) := by
  unfold keys
  rw [nodeAt_modify, if_pos ⟨rfl, hid⟩]
  rfl

theorem lessens_name {k : NodeId} (h : Resolved g s) (ht : (nodeAt s k).tag = .value) :
    Lessens g s (s.modify k ({ · with tag := .str })) := by
  refine ⟨fun i => ?_, Array.size_modify, fun i => ?_⟩
  · rw [nodeAt_modify]
    split
    · next hi => exact (h i).named (hi.1 ▸ ht)
    · exact h i
  · unfold keys
    rw [nodeAt_modify]
    split
    · exact Nat.le_refl _
    · exact Nat.le_refl _

abbrev Marked : Error → Prop := Error.From none Unusable.Never

theorem run_node : (node id).run s = .ok (nodeAt s id, s) := rfl

theorem run_pairsOf : (pairsOf id).run s = .ok (pairsIn (nodeAt s id), s) := by
  unfold pairsOf pairsIn
  rw [StateT.run_bind, run_node]
  generalize nodeAt s id = n
  obtain ⟨tag, content, m⟩ := n
  cases content <;> rfl

theorem run_get : (get : M (Array Node)).run s = .ok (s, s) := rfl

theorem run_setPairs (pairs : List (NodeId × NodeId)) :
    (setPairs id pairs).run s =
      .ok (⟨⟩, s.modify id ({ · with content := .mapping pairs })) := rfl

theorem keys_split (id : NodeId) (h : Resolved g s) :
    ∃ front back, (pairsIn (nodeAt s id)).takeWhile (!isMerge s ·) = front ∧
      (pairsIn (nodeAt s id)).drop front.length = back ∧ front.countP (isMerge g) = 0 ∧
      keys g s id = back.countP (isMerge g) ∧ ∀ p ∈ back.head?, isMerge g p := by
  generalize hp : pairsIn (nodeAt s id) = pairs
  have hfront : (pairs.takeWhile (!isMerge s ·)).countP (isMerge g) = 0 := by
    refine List.countP_eq_zero.mpr fun p hmem => ?_
    have hnot := List.all_eq_true.mp List.all_takeWhile p hmem
    rw [← isMerge_eq h]
    simpa using hnot
  have hback : pairs.drop (pairs.takeWhile (!isMerge s ·)).length =
      pairs.dropWhile (!isMerge s ·) := by
    have happ : pairs.takeWhile (!isMerge s ·) ++ pairs.dropWhile (!isMerge s ·) = pairs :=
      List.takeWhile_append_dropWhile
    calc pairs.drop (pairs.takeWhile (!isMerge s ·)).length
      _ = (pairs.takeWhile (!isMerge s ·) ++ pairs.dropWhile (!isMerge s ·)).drop
            (pairs.takeWhile (!isMerge s ·)).length := by rw [happ]
      _ = pairs.dropWhile (!isMerge s ·) := List.drop_left
  refine ⟨_, _, rfl, hback, hfront, ?_, ?_⟩
  · have happ : pairs.takeWhile (!isMerge s ·) ++ pairs.dropWhile (!isMerge s ·) = pairs :=
      List.takeWhile_append_dropWhile
    unfold keys
    rw [hp]
    conv => lhs; rw [← happ, List.countP_append, hfront, Nat.zero_add]
  · intro p hmem
    have hnot := List.head?_dropWhile_not (!isMerge s ·) pairs
    rw [hmem] at hnot
    rw [← isMerge_eq h]
    simpa using hnot

theorem meets_takeFirst (h : Resolved g s) :
    Meets Marked (takeFirst id) s fun under s' =>
      under = none ∧ s' = s ∧ keys g s id = 0 ∨
      under.isSome ∧ Lessens g s s' ∧ keys g s' id + 1 = keys g s id := by
  unfold takeFirst
  refine .after run_pairsOf (.after run_get ?_)
  obtain ⟨front, back, hfront, hback, hno, hkeys, hhead⟩ := keys_split id h
  dsimp only
  rw [hfront, hback]
  cases back with
  | nil => exact .pure (.inl ⟨rfl, rfl, hkeys⟩)
  | cons p after =>
    -- the merge key that comes first is taken out, and those after it stay
    have hone : keys g s id = (front ++ after).countP (isMerge g) + 1 := by
      rw [hkeys, List.countP_cons_of_pos (hhead p rfl), List.countP_append, hno, Nat.zero_add]
    have hsome : keys g s id ≠ 0 := by omega
    refine .after (run_setPairs _) (.pure (.inr ⟨rfl, ?_, ?_⟩))
    · exact lessens_setPairs h (kind_of_keys hsome) (by omega)
    · rw [keys_setPairs _ (lt_size_of_keys hsome), hone]

def Plain (g : Array Node) (pairs : List (NodeId × NodeId)) : Prop :=
  pairs.countP (isMerge g) = 0

theorem Plain.append {pairs pairs' : List (NodeId × NodeId)} (h : Plain g pairs)
    (h' : Plain g pairs') : Plain g (pairs ++ pairs') := by
  unfold Plain at *
  rw [List.countP_append, h, h']

theorem Plain.flatten : ∀ {groups : List (List (NodeId × NodeId))}, (∀ l ∈ groups, Plain g l) →
    Plain g groups.flatten
  | [], _ => rfl
  | l :: groups, h => by
    have hrest : Plain g groups.flatten := flatten fun l hl => h l (List.mem_cons_of_mem _ hl)
    exact (h l List.mem_cons_self).append hrest

theorem Plain.keys_eq {pairs : List (NodeId × NodeId)} (h : Plain g pairs) (i : NodeId) :
    keys g (s.modify i ({ · with content := .mapping pairs })) i = 0 := by
  by_cases hi : i < s.size
  · exact (keys_setPairs pairs hi).trans h
  · -- a node that is not there has no pairs
    refine keys_eq_zero ?_
    rw [Array.size_modify]
    exact Nat.le_of_not_lt hi

theorem meets_nameValues (h : Lessens g s s') (hid : keys g s' id = 0) :
    Meets Marked (nameValues id) s' fun _ s'' => Lessens g s s'' ∧ keys g s'' id = 0 := by
  unfold nameValues
  refine .after run_pairsOf (.bind (m := fun _ s'' => Lessens g s s'' ∧ keys g s'' id = 0)
    ((Upholds.forIn fun p _ s₁ h₁ => ?_).meets ⟨h, hid⟩) fun _ s₁ h₁ => .pure h₁)
  refine .after run_node ?_
  split
  · next ht =>
    have hstep := lessens_name h₁.1.resolved ht
    refine .bind (m := fun _ s₂ => Lessens g s s₂ ∧ keys g s₂ id = 0) (.modify ?_)
      fun _ s₂ h₂ => .pure ⟨trivial, h₂⟩
    exact ⟨h₁.1.trans hstep, Nat.le_zero.mp (h₁.2 ▸ hstep.keys_le id)⟩
  · exact .pure ⟨trivial, h₁⟩

/-- What resolving does to the nodes from `s` on, for any mapping of them. -/
def Resolves (g s : Array Node) (resolve : NodeId → M Unit) : Prop :=
  ∀ (id : NodeId) (s' : Array Node), Lessens g s s' → (nodeAt s' id).content.kind = .mapping →
    Meets Marked (resolve id) s' fun _ s'' => Lessens g s s'' ∧ keys g s'' id = 0

theorem meets_pairsUnder {resolve : NodeId → M Unit} (hr : Resolves g s resolve)
    (h : Resolved g s) (start : Mark) (under : NodeId) :
    Meets Marked (pairsUnder resolve start under) s fun pairs s' =>
      Lessens g s s' ∧ Plain g pairs := by
  have hmapping {id : NodeId} {s' : Array Node} (h' : Lessens g s s')
      (hk : (nodeAt s' id).content.kind = .mapping) :
      Meets Marked (do resolve id; pairsOf id) s' fun pairs s'' =>
        Plain g pairs ∧ Lessens g s s'' :=
    (hr id s' h' hk).bind fun _ s₁ h₁ => .of_run run_pairsOf ⟨h₁.2, h₁.1⟩
  unfold pairsUnder
  refine .after run_node ?_
  split
  · next pairs hc =>
    exact (hmapping (.refl h) (by rw [hc]; rfl)).mono fun _ _ h' => h'.symm
  · next items hc =>
    refine .bind (m := fun groups s' => (∀ l ∈ groups, Plain g l) ∧ Lessens g s s')
      (Gives.mapM (fun item s' h' => ?_) items s (.refl h)) fun groups s' h' => ?_
    · refine .after run_node ?_
      split
      · next pairs hc => exact hmapping h' (by rw [hc]; rfl)
      · exact .throw (.marked _ _ _ _)
    · refine .pure ⟨h'.2, .flatten fun l hl => h'.1 l (List.mem_reverse.mp hl)⟩
  · exact .throw (.marked _ _ _ _)

/-- With a depth of more than the merge keys that there are, those of a mapping are resolved, and it
has none left. -/
theorem meets_flatten : ∀ (n : Nat) (s : Array Node) (id : NodeId), Resolved g s →
    (nodeAt s id).content.kind = .mapping → total g s < n →
    Meets Marked (flatten n id) s fun _ s' => Lessens g s s' ∧ keys g s' id = 0
  | 0, _, _, _, _, hn => absurd hn (Nat.not_lt_zero _)
  | n + 1, s, id, h, hk, hn => by
    unfold flatten
    refine .after run_node (.after run_get (.after run_pairsOf ?_))
    have hrounds : keys g s id ≤ ((pairsIn (nodeAt s id)).filter (isMerge s)).length := by
      rw [← List.countP_eq_length_filter]
      exact Nat.le_of_eq (List.countP_congr fun p _ => by rw [isMerge_eq h])
    have hempty : Plain g [] := rfl
    refine .bind (m := fun merged s' => Lessens g s s' ∧ keys g s' id ≤ 0 ∧ Plain g merged)
      ?_ fun merged s₁ h₁ => ?_
    · -- Each round takes one merge key out, so there are enough rounds for all of them.
      refine Meets.foldlM (J := fun k merged s' => Lessens g s s' ∧ keys g s' id ≤ k ∧
        Plain g merged) (fun k merged _ s₁ h₁ => ?_) _ _ _ ⟨.refl h, hrounds, hempty⟩
      refine (meets_takeFirst h₁.1.resolved).bind fun under s₂ h₂ => ?_
      rcases h₂ with ⟨rfl, rfl, hzero⟩ | ⟨hunder, hless, hone⟩
      · exact .pure ⟨h₁.1, hzero ▸ Nat.zero_le k, h₁.2.2⟩
      · obtain ⟨under, rfl⟩ := Option.isSome_iff_exists.mp hunder
        have hk₂ : keys g s₂ id ≤ k := by omega
        have hn₂ : total g s₂ < n := by
          have hle := h₁.1.total_le
          have hlt := hless.total_lt (show keys g s₂ id < keys g s₁ id by omega)
          omega
        have hresolve : Resolves g s₂ (flatten n) := by
          intro item s₃ h₃ hitem
          have hlt : total g s₃ < n := Nat.lt_of_le_of_lt h₃.total_le hn₂
          exact (meets_flatten n s₃ item h₃.resolved hitem hlt).mono
            fun _ s' h' => ⟨h₃.trans h'.1, h'.2⟩
        refine (meets_pairsUnder hresolve hless.resolved _ under).bind fun pairs s₃ h₃ => .pure ?_
        exact ⟨h₁.1.trans (hless.trans h₃.1), Nat.le_trans (h₃.1.keys_le id) hk₂,
          h₁.2.2.append h₃.2⟩
    · have hnone := Nat.le_zero.mp h₁.2.1
      refine (meets_nameValues h₁.1 hnone).bind fun _ s₂ h₂ => .after run_pairsOf ?_
      have hplain : Plain g (merged ++ pairsIn (nodeAt s₂ id)) := h₁.2.2.append h₂.2
      have hkind : (nodeAt s₂ id).content.kind = .mapping := by
        rw [(h₂.1.resolved id).kind, ← (h id).kind, hk]
      have hset := lessens_setPairs h₂.1.resolved hkind (hplain.symm ▸ Nat.zero_le _)
      exact .modify ⟨h₂.1.trans hset, hplain.keys_eq id⟩

theorem foldl_eq_sum {α : Type} {f : Nat → α → Nat} {w : α → Nat} (h : ∀ n a, f n a = n + w a) :
    ∀ (l : List α) (n : Nat), l.foldl f n = n + (l.map w).sum
  | [], _ => rfl
  | a :: l, n => by
    rw [List.foldl_cons, foldl_eq_sum h l, h, List.map_cons, List.sum_cons, Nat.add_assoc]

theorem depth_eq (nodes : Array Node) : depth nodes = total nodes nodes + 1 := by
  have hlist : nodes.toList = (List.range nodes.size).map (nodeAt nodes) := by
    apply List.ext_getElem
    · simp
    · intro i h _
      simp [nodeAt, Array.getD_eq_getD_getElem?, Array.getElem?_eq_getElem (by simpa using h)]
  unfold depth total
  rw [← Array.foldl_toList]
  refine (foldl_eq_sum (w := fun node => (pairsIn node).countP (isMerge nodes))
    (fun n node => ?_) _ 1).trans ?_
  · unfold pairsIn
    cases node.content with
    | mapping pairs => rw [List.countP_eq_length_filter]
    | scalar text => rfl
    | sequence items => rfl
  · rw [Nat.add_comm, hlist, List.map_map]
    rfl

/-- The depth that a mapping is resolved with is always enough. -/
theorem meets_flatten_depth (hk : (nodeAt s id).content.kind = .mapping) :
    Meets Marked (flatten (depth s) id) s fun _ s' => Resolved s s' := by
  rw [depth_eq]
  have h := meets_flatten (total s s + 1) s id (.refl s) hk (Nat.lt_succ_self _)
  exact h.mono fun _ _ h => h.1.resolved

end Merge

end ProfilerBootstrap.Yaml

import ProfilerBootstrap.Proofs.Yaml.Construction

namespace ProfilerBootstrap.Yaml

namespace Construction

variable {g : Array Node} {id : NodeId} {ids : List NodeId} {s : State}

/-- The first container is the list of some values, and does not wait. -/
structure RootIs (g : Array Node) (vs : List Value) (s : State) : Prop where
  resolved : Resolved g s.nodes
  list : s.heap[0]? = some (.list vs)
  waiting : ∀ p ∈ s.waiting, p.2 ≠ 0

/-- The first container is there, and does not wait. -/
structure RootTaken (g : Array Node) (s : State) : Prop where
  resolved : Resolved g s.nodes
  made : s.heap.size ≠ 0
  waiting : ∀ p ∈ s.waiting, p.2 ≠ 0

theorem keptFilling_rootIs (g : Array Node) (vs : List Value) :
    KeptFilling g (· ≠ 0) (RootIs g vs) where
  resolved _ h := h.resolved
  nodes _ _ h hn := ⟨h.resolved.trans hn, h.list, h.waiting⟩
  values _ _ h := ⟨h.resolved, h.list, h.waiting⟩
  container s id items h := by
    have hsize : 0 < s.heap.size := (Array.getElem?_eq_some_iff.1 h.list).1
    refine ⟨h.resolved, ?_, fun p hp => ?_⟩
    · rw [Array.getElem?_push_lt hsize]
      exact (Array.getElem?_eq_getElem hsize).symm.trans h.list
    · rcases List.mem_cons.1 hp with rfl | hp
      · exact Nat.ne_of_gt hsize
      · exact h.waiting p hp
  waiting _ h := ⟨h.waiting, h.resolved, h.list, nofun⟩
  filled s r items h hr := by
    refine ⟨h.resolved, ?_, h.waiting⟩
    rw [Array.set!_eq_setIfInBounds, Array.getElem?_setIfInBounds_ne hr]
    exact h.list

theorem kept_rootTaken (g : Array Node) : Kept g (RootTaken g) where
  resolved _ h := h.resolved
  nodes _ _ h hn := ⟨h.resolved.trans hn, h.made, h.waiting⟩
  values _ _ h := ⟨h.resolved, h.made, h.waiting⟩
  container s id items h := by
    refine ⟨h.resolved, by simp, fun p hp => ?_⟩
    rcases List.mem_cons.1 hp with rfl | hp
    · exact h.made
    · exact h.waiting p hp

theorem meets_text_of_sequence (hs : (nodeAt s.nodes id).content = .sequence ids) :
    Meets (Fails g) (text id) s fun _ _ => False := by
  refine .after run_get ?_
  unfold textOf
  refine .after run_get (.after run_node ?_)
  rw [hs]
  exact .throw (.marked _ _ _ _)

theorem meets_make_of_sequence (hs : (nodeAt s.nodes id).content = .sequence ids) :
    Meets (Fails g) (make id) s fun v s' => ∃ items,
      v = .ref s.heap.size ∧
        s' = { s with heap := s.heap.push items, waiting := (id, s.heap.size) :: s.waiting } := by
  have htext {α : Type} {k : List Nat → M α} {post : α → State → Prop} :
      Meets (Fails g) (text id >>= k) s post :=
    (meets_text_of_sequence hs).bind nofun
  have hdiscard {α : Type} {k : Unit → M α} {post : α → State → Prop} :
      Meets (Fails g) (discard (text id) >>= k) s post := by
    have h : Meets (Fails g) (text id >>= fun _ => pure ()) s fun _ _ => False := htext
    exact Meets.bind (x := discard (text id)) h nofun
  have hcontainer (items : Items) : Meets (Fails g) (container id items) s fun v s' =>
      ∃ items, v = .ref s.heap.size ∧
        s' = { s with heap := s.heap.push items, waiting := (id, s.heap.size) :: s.waiting } :=
    .after run_get (.after (run_modify _) (.pure ⟨items, rfl, rfl⟩))
  unfold make
  refine .after run_node ?_
  split
  · exact hdiscard
  · exact htext
  · exact htext
  · exact htext
  · exact htext
  · exact hdiscard
  · exact htext
  · exact hcontainer _
  · exact hcontainer _
  · exact hcontainer _
  · exact hcontainer _
  · exact hcontainer _
  · exact .throw (.marked _ _ _ _)

/-- The first value is the first container. -/
theorem meets_valueOf_of_sequence {values : Array (Option Value)}
    (hvalues : values.getD id none = none) (hs : (nodeAt g id).content = .sequence ids) :
    Meets (Fails g) (valueOf id) ⟨g, values, #[], []⟩ fun v s =>
      v = .ref 0 ∧ RootTaken g { s with waiting := [] } ∧ s.waiting = [(id, 0)] := by
  unfold valueOf
  refine .after run_get ?_
  rw [hvalues]
  refine (meets_make_of_sequence hs).bind fun v s hmade => ?_
  obtain ⟨items, rfl, rfl⟩ := hmade
  exact .after (run_modify _) (.pure ⟨rfl, ⟨.refl g, by simp, nofun⟩, rfl⟩)

theorem meets_fill_of_sequence (hs : (nodeAt g id).content = .sequence ids)
    (htaken : RootTaken g { s with waiting := [] }) (hwaiting : s.waiting = [(id, 0)]) (n : Nat) :
    Meets (Fails g) (fill (n + 1)) s fun _ s' =>
      ∃ vs, RootIs g vs s' ∧ vs.length = ids.length := by
  have hround : Meets (Fails g) (do
      let found ← contents id
      modify fun s => { s with heap := s.heap.set! 0 found }
      return ForInStep.yield PUnit.unit) { s with waiting := [] }
        fun _ s' => ∃ vs, RootIs g vs s' ∧ vs.length = ids.length := by
    refine (gives_contents (kept_rootTaken g) id _ htaken).bind fun found s₁ h₁ => ?_
    obtain ⟨hfound, htaken₁⟩ := h₁
    obtain ⟨vs, rfl, hlength⟩ := hfound ids hs
    refine .after (run_modify _) (.pure ⟨vs, ⟨htaken₁.resolved, ?_, htaken₁.waiting⟩, hlength⟩)
    rw [Array.set!_eq_setIfInBounds]
    exact Array.getElem?_setIfInBounds_self_of_lt (Nat.pos_of_ne_zero htaken₁.made)
  unfold fill
  refine .after run_get (.after (run_modify _) ?_)
  rw [hwaiting, List.reverse_singleton, List.forIn_cons]
  refine .bind (m := fun _ s' => ∃ vs, RootIs g vs s' ∧ vs.length = ids.length)
    (hround.bind fun r s₁ h₁ => ?_) fun _ s₁ h₁ => ?_
  · cases r <;> exact .pure h₁
  · obtain ⟨vs, hvs, hlength⟩ := h₁
    exact ((upholds_fill (keptFilling_rootIs g vs) n).meets hvs).mono
      fun _ s₂ h₂ => ⟨vs, h₂, hlength⟩

end Construction

/-- A sequence at the root has as many values as items. -/
theorem Document.root_of_ofGraph {g : Graph} {d : Document} {ids : List NodeId}
    (h : ofGraph g = .ok d) (hroot : (nodeAt g.nodes g.root).content = .sequence ids) :
    ∃ vs, d.items? d.root = some (.list vs) ∧ vs.length = ids.length := by
  obtain ⟨⟨root, s⟩, hrun, hd⟩ := bind_ok h
  obtain rfl : (⟨s.heap, root⟩ : Document) = d := Except.ok.inj hd
  have hvalues : (Array.replicate g.nodes.size (none : Option Value)).getD g.root none = none := by
    rw [Array.getD_eq_getD_getElem?, Array.getElem?_replicate]
    split <;> rfl
  have hmeets : Meets (Construction.Fails g.nodes) (do
      let root ← Construction.valueOf g.root
      Construction.fill (g.nodes.size + 1)
      return root) ⟨g.nodes, Array.replicate g.nodes.size none, #[], []⟩
        fun v s => v = .ref 0 ∧ ∃ vs, Construction.RootIs g.nodes vs s ∧ vs.length = ids.length :=
    (Construction.meets_valueOf_of_sequence hvalues hroot).bind fun v s₁ h₁ =>
      (Construction.meets_fill_of_sequence hroot h₁.2.1 h₁.2.2 g.nodes.size).bind fun _ s₂ h₂ =>
        .pure ⟨h₁.1, h₂⟩
  obtain ⟨rfl, vs, hvs, hlength⟩ := hmeets.ok hrun
  exact ⟨vs, hvs.list, hlength⟩

end ProfilerBootstrap.Yaml

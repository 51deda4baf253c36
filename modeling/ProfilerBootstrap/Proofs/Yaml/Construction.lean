import ProfilerBootstrap.Proofs.Sequence
import ProfilerBootstrap.Proofs.Yaml.Merge
import ProfilerBootstrap.Yaml.Value.OfGraph

namespace ProfilerBootstrap.Yaml

/-- The text of a node is its own, or for a mapping that of some scalar. -/
inductive HasText (g : Array Node) (id : NodeId) (text : List Nat) : Prop
  | own (h : (nodeAt g id).content = .scalar text)
  | lent (h : (nodeAt g id).content.kind = .mapping) {lender : NodeId}
    (hl : (nodeAt g lender).content = .scalar text)

/-- What is found unusable while the values of the nodes `g` are made. -/
inductive Unusable.InValue (g : Array Node) : Unusable → Prop
  | bool {id : NodeId} {text : List Nat} {u : Unusable} (tag : (nodeAt g id).tag = .bool)
    (has : HasText g id text) (h : Number.bool text = .error u) : InValue g u
  | int {id : NodeId} {text : List Nat} {u : Unusable} (tag : (nodeAt g id).tag = .int)
    (has : HasText g id text) (h : Number.int text = .error u) : InValue g u
  | float {id : NodeId} {text : List Nat} {u : Unusable} (tag : (nodeAt g id).tag = .float)
    (has : HasText g id text) (h : Number.float text = .error u) : InValue g u
  | timestamp {id : NodeId} {text : List Nat} {u : Unusable} (tag : (nodeAt g id).tag = .timestamp)
    (own : (nodeAt g id).content = .scalar text) (h : readTime text = .error u) : InValue g u
  | timestampOfMapping {id : NodeId} (tag : (nodeAt g id).tag = .timestamp)
    (h : (nodeAt g id).content.kind = .mapping) : InValue g .timestampOfNode
  | nesting {id : NodeId} (h : (nodeAt g id).content.kind = .mapping) : InValue g .nesting

namespace Construction

variable {g : Array Node} {I : State → Prop}

/-- What stays true of a state while values are made: it may look at the nodes only as far as merge
keys are resolved, and it bears more containers that wait. -/
structure Kept (g : Array Node) (I : State → Prop) : Prop where
  resolved : ∀ s, I s → Resolved g s.nodes
  nodes : ∀ s nodes, I s → Resolved s.nodes nodes → I { s with nodes := nodes }
  values : ∀ s values, I s → I { s with values := values }
  container : ∀ s id items, I s →
    I { s with heap := s.heap.push items, waiting := (id, s.heap.size) :: s.waiting }

/-- What stays true also while containers are filled, which are of the kind `Q`. -/
structure KeptFilling (g : Array Node) (Q : Ref → Prop) (I : State → Prop) : Prop
    extends Kept g I where
  waiting : ∀ s, I s → (∀ p ∈ s.waiting, Q p.2) ∧ I { s with waiting := [] }
  filled : ∀ s r items, I s → Q r → I { s with heap := s.heap.set! r items }

def Of (g : Array Node) (s : State) : Prop := Resolved g s.nodes

theorem keptFilling_of (g : Array Node) : KeptFilling g (fun _ => True) (Of g) where
  resolved _ h := h
  nodes _ _ h hn := Resolved.trans h hn
  values _ _ h := h
  container _ _ _ h := h
  waiting _ h := ⟨fun _ _ => trivial, h⟩
  filled _ _ _ h _ := h

abbrev Fails (g : Array Node) : Error → Prop := Error.From none (Unusable.InValue g)

theorem run_node {s : State} {id : NodeId} : (node id).run s = .ok (nodeAt s.nodes id, s) := rfl

theorem run_get {s : State} : (get : M State).run s = .ok (s, s) := rfl

theorem run_modify {s : State} (f : State → State) :
    (modify f : M PUnit).run s = .ok (⟨⟩, f s) := rfl

theorem upholds_usable {α : Type} {r : Except Unusable α} (h : ∀ u, r = .error u → u.InValue g) :
    Upholds I (Fails g) (usable r) := by
  unfold usable
  split
  · exact .pure _
  · next u => exact .throw (.unusable (h u rfl))

theorem upholds_fail {α : Type} (c : Option Context) (m : Option Mark) (p : ValueProblem)
    (n : Mark) : Upholds I (Fails g) (fail c m p n : M α) :=
  .throw (.marked _ _ _ _)

section
variable (hI : Kept g I)

include hI

theorem gives_textOf : ∀ (n : Nat) (id : NodeId),
    (n = 0 → ∃ i, (nodeAt g i).content.kind = .mapping) →
    Gives I (Fails g) (HasText g id) (textOf n id)
  | 0, id, h => by
    obtain ⟨i, hi⟩ := h rfl
    exact .throw (.unusable (.nesting hi))
  | n + 1, id, _ => by
    intro s hs
    have hnode := hI.resolved s hs id
    unfold textOf
    refine .after run_get (.after run_node ?_)
    split
    · next text hc => exact .pure ⟨.own (hnode.scalar hc), hs⟩
    · next pairs hc =>
      have hk : (nodeAt g id).content.kind = .mapping := by rw [← hnode.kind, hc]; rfl
      split
      · next k under _ =>
        refine (gives_textOf n under (fun _ => ⟨id, hk⟩) s hs).mono fun text s' h => ⟨?_, h.2⟩
        cases h.1 with
        | own h => exact .lent hk h
        | lent _ h => exact .lent hk h
      · exact .throw (.marked _ _ _ _)
    · exact .throw (.marked _ _ _ _)

theorem gives_text (id : NodeId) : Gives I (Fails g) (HasText g id) (text id) :=
  Gives.bind (Gives.get fun _ _ => trivial) fun _ _ => gives_textOf hI _ id nofun

theorem gives_node (id : NodeId) :
    Gives I (Fails g) (fun n => (nodeAt g id).Becomes n) (node id) :=
  fun s hs => .of_run run_node ⟨hI.resolved s hs id, hs⟩

theorem upholds_text (id : NodeId) : Upholds I (Fails g) (text id) := (gives_text hI id).upholds

theorem upholds_node (id : NodeId) : Upholds I (Fails g) (node id) := (gives_node hI id).upholds

theorem upholds_binary (id : NodeId) : Upholds I (Fails g) (binary id) := by
  unfold binary
  refine (upholds_text hI id).bind fun cs => (upholds_node hI id).bind fun n => ?_
  dsimp only
  split
  · exact upholds_fail _ _ _ _
  · split
    · exact .pure _
    · exact upholds_fail _ _ _ _

theorem upholds_timestamp {id : NodeId} (ht : (nodeAt g id).tag = .timestamp) :
    Upholds I (Fails g) (timestamp id) := by
  have hread : Gives I (Fails g) (fun _ => ∃ cs, HasText g id cs) (discard (text id)) :=
    Gives.bind (gives_text hI id) fun cs hcs => .pure ⟨cs, hcs⟩
  unfold timestamp
  refine hread.bind fun _ htext => Gives.bind (gives_node hI id) fun n hn => ?_
  split
  · next cs hc =>
    refine (upholds_usable fun u hu => .timestamp ht (hn.scalar hc) hu).bind fun t => ?_
    split
    · exact .pure _
    · exact .pure _
  · next hno =>
    obtain ⟨cs, hcs⟩ := htext
    cases hcs with
    | own h =>
      rcases hn.content with hc | ⟨hk, -⟩
      · exact absurd (hc.trans h) (hno cs)
      · rw [h] at hk
        cases hk
    | lent h _ => exact .throw (.unusable (.timestampOfMapping ht h))

theorem upholds_float {id : NodeId} (ht : (nodeAt g id).tag = .float) :
    Upholds I (Fails g) (float id) := by
  unfold float
  refine Gives.bind (gives_text hI id) fun cs hcs => ?_
  refine (upholds_usable fun u hu => .float ht hcs hu).bind fun x => ?_
  split
  · exact .pure _
  · split
    · exact .pure _
    · exact .pure _

theorem upholds_container (id : NodeId) (items : Items) :
    Upholds I (Fails g) (container id items) := by
  intro s hs
  unfold container
  exact .after run_get (.after (run_modify _) (.pure ⟨trivial, hI.container s id items hs⟩))

theorem upholds_convert {α : Type} {id : NodeId} {convert : List Nat → Except Unusable α}
    (h : ∀ cs u, HasText g id cs → convert cs = .error u → u.InValue g) (wrap : α → Value) :
    Upholds I (Fails g) (do return wrap (← usable (convert (← text id)))) :=
  Gives.bind (gives_text hI id) fun cs hcs =>
    (upholds_usable fun u => h cs u hcs).bind fun _ => .pure _

theorem upholds_make (id : NodeId) : Upholds I (Fails g) (make id) := by
  unfold make
  refine Gives.bind (gives_node hI id) fun n hn => ?_
  have htag (t : Tag) (hs : t ≠ .str) (h : n.tag = t) : (nodeAt g id).tag = t := by
    rcases hn.tag with ht | ⟨-, ht⟩
    · rw [← ht, h]
    · exact absurd (h.symm.trans ht) hs
  split
  · exact (upholds_text hI id).discard.bind fun _ => .pure _
  · next h => exact upholds_convert hI (fun cs u => .bool (htag .bool nofun h)) _
  · next h => exact upholds_convert hI (fun cs u => .int (htag .int nofun h)) _
  · next h => exact upholds_float hI (htag .float nofun h)
  · exact upholds_binary hI id
  · next h => exact upholds_timestamp hI (htag .timestamp nofun h)
  · exact (upholds_text hI id).bind fun _ => .pure _
  · exact upholds_container hI id _
  · exact upholds_container hI id _
  · exact upholds_container hI id _
  · exact upholds_container hI id _
  · exact upholds_container hI id _
  · exact upholds_fail _ _ _ _

theorem upholds_valueOf (id : NodeId) : Upholds I (Fails g) (valueOf id) := by
  unfold valueOf
  refine .bind .get fun s => ?_
  split
  · exact .pure _
  · refine (upholds_make hI id).bind fun v => .bind (.modify fun s hs => ?_) fun _ => .pure _
    exact hI.values s _ hs

def SameLength (g : Array Node) (id : NodeId) (vs : List Value) : Prop :=
  ∀ ids, (nodeAt g id).content = .sequence ids → vs.length = ids.length

theorem gives_items (id : NodeId) : Gives I (Fails g) (SameLength g id) (items id) := by
  unfold items
  refine Gives.bind (gives_node hI id) fun n hn => ?_
  split
  · next ids hc =>
    refine (Upholds.mapM_length (fun k => upholds_valueOf hI k) ids).mono fun vs hvs ids' hids' => ?_
    rw [hvs, Content.sequence.inj (hc.symm.trans (hn.sequence hids'))]
  · exact Gives.throw (.marked _ _ _ _)

theorem gives_singleEntries (c : Context) (id : NodeId) :
    Gives I (Fails g) (SameLength g id) (singleEntries c id) := by
  unfold singleEntries
  refine Gives.bind (gives_node hI id) fun n hn => ?_
  split
  · next ids hc =>
    refine (Upholds.mapM_length (fun k => ?_) ids).mono fun vs hvs ids' hids' => ?_
    · refine (upholds_node hI k).bind fun m => ?_
      split
      · exact (upholds_valueOf hI _).bind fun _ => (upholds_valueOf hI _).bind fun _ => .pure _
      · exact upholds_fail _ _ _ _
      · exact upholds_fail _ _ _ _
    · rw [hvs, Content.sequence.inj (hc.symm.trans (hn.sequence hids'))]
  · exact Gives.throw (.marked _ _ _ _)

theorem meets_flatten {s : State} {id : NodeId} (hs : I s)
    (hk : (nodeAt s.nodes id).content.kind = .mapping) :
    Meets (Fails g) (flatten id) s fun _ s' => I s' := by
  have hmerge := Merge.meets_flatten_depth hk
  unfold flatten
  refine .after run_get (.lift (fun r hr => .set ?_) fun e he => ?_)
  · exact hI.nodes s _ hs (hmerge.ok hr)
  · exact (hmerge.error he).mono nofun

theorem upholds_keyed (m : Mark) (pairs : List (NodeId × NodeId)) :
    Upholds I (Fails g) (keyed m pairs) := by
  refine .foldlM (fun found p => ?_) _ _
  refine (upholds_valueOf hI p.1).bind fun key => ?_
  refine .guarded (upholds_node hI p.1) (fun n => upholds_fail _ _ _ _) fun _ => ?_
  exact (upholds_valueOf hI p.2).bind fun _ => .pure _

theorem gives_flattened (id : NodeId) :
    Gives I (Fails g) (fun _ => (nodeAt g id).content.kind = .mapping) (do
      let n ← node id
      match n.content with
      | .mapping pairs => keyed n.mark pairs
      | other => fail none none (.wrongKind .mapping other.kind) n.mark) := by
  refine Gives.bind (gives_node hI id) fun n hn => ?_
  split
  · next pairs hc =>
    exact (upholds_keyed hI _ _).mono fun _ _ => by rw [← hn.kind, hc]; rfl
  · exact Gives.throw (.marked _ _ _ _)

theorem gives_entries (id : NodeId) :
    Gives I (Fails g) (fun _ => (nodeAt g id).content.kind = .mapping) (entries id) := by
  have hrest := gives_flattened hI id
  unfold entries
  intro s hs
  refine .after run_node ?_
  dsimp only
  split
  · next pairs hc =>
    exact (meets_flatten hI hs (by rw [hc]; rfl)).bind fun _ s' hs' => hrest s' hs'
  · exact hrest s hs

/-- A sequence belongs into its container as a list of as many values as it has items. -/
theorem gives_contents (id : NodeId) : Gives I (Fails g) (fun found => ∀ ids,
    (nodeAt g id).content = .sequence ids → ∃ vs, found = .list vs ∧ vs.length = ids.length)
    (contents id) := by
  have hlist {vs : List Value} (hvs : SameLength g id vs) (ids : List NodeId)
      (hids : (nodeAt g id).content = .sequence ids) :
      ∃ vs', Items.list vs = .list vs' ∧ vs'.length = ids.length := ⟨vs, rfl, hvs ids hids⟩
  have hno {items : Items} (hk : (nodeAt g id).content.kind = .mapping) (ids : List NodeId)
      (hids : (nodeAt g id).content = .sequence ids) :
      ∃ vs, items = .list vs ∧ vs.length = ids.length := by
    rw [hids] at hk
    cases hk
  unfold contents
  refine Gives.bind (gives_node hI id) fun n _ => ?_
  split
  · exact Gives.bind (gives_singleEntries hI _ id) fun vs hvs => Gives.pure (hlist hvs)
  · exact Gives.bind (gives_singleEntries hI _ id) fun vs hvs => Gives.pure (hlist hvs)
  · exact Gives.bind (gives_entries hI id) fun es hk => Gives.pure (hno hk)
  · exact Gives.bind (gives_entries hI id) fun es hk => Gives.pure (hno hk)
  · exact Gives.bind (gives_items hI id) fun vs hvs => Gives.pure (hlist hvs)

end

theorem upholds_fill {Q : Ref → Prop} (hI : KeptFilling g Q I) : ∀ n, Upholds I (Fails g) (fill n)
  | 0 => .pure _
  | n + 1 => by
    intro s hs
    obtain ⟨hwaiting, hcleared⟩ := hI.waiting s hs
    have hround : Upholds I (Fails g) (forIn s.waiting.reverse PUnit.unit fun p _ => do
        let found ← contents p.1
        modify fun s => { s with heap := s.heap.set! p.2 found }
        return .yield PUnit.unit) := by
      refine .forIn fun p hp => (gives_contents hI.toKept p.1).upholds.bind fun found => ?_
      refine .bind (.modify fun s hs => ?_) fun _ => .pure _
      exact hI.filled s p.2 found hs (hwaiting p (List.mem_reverse.1 hp))
    have hrest : Upholds I (Fails g) (do
        let _ ← forIn s.waiting.reverse PUnit.unit fun p _ => do
          let found ← contents p.1
          modify fun s => { s with heap := s.heap.set! p.2 found }
          return .yield PUnit.unit
        if !s.waiting.reverse.isEmpty then fill n) := by
      refine .bind hround fun _ => ?_
      split
      · exact upholds_fill hI n
      · exact .pure _
    unfold fill
    exact .after run_get (.after (run_modify _) (hrest _ hcleared))

end Construction

theorem Document.error_of_ofGraph {g : Graph} {e : Error} (h : ofGraph g = .error e) :
    Error.From none (Unusable.InValue g.nodes) e := by
  have hI := Construction.keptFilling_of g.nodes
  have hbuild : Upholds (Construction.Of g.nodes) (Construction.Fails g.nodes) (do
      let root ← Construction.valueOf g.root
      Construction.fill (g.nodes.size + 1)
      return root) :=
    (Construction.upholds_valueOf hI.toKept _).bind fun _ =>
      (Construction.upholds_fill hI _).bind fun _ => .pure _
  rcases bind_error h with h | ⟨r, -, h⟩
  · refine hbuild.error ?_ h
    exact Resolved.refl g.nodes
  · cases h

end ProfilerBootstrap.Yaml

import ProfilerBootstrap.Proofs.Manifest.Embedded
import ProfilerBootstrap.Proofs.Manifest.Invalid
import ProfilerBootstrap.Proofs.Manifest.Kept
import ProfilerBootstrap.Proofs.Yaml.Document
import ProfilerBootstrap.Proofs.Yaml.Root

namespace ProfilerBootstrap.Manifest

open Yaml (Value Document Renumbering Graph NodeId nodeAt)

theorem Checked.listFrom_map_check {α β : Type} (check : Value → Checked α) (f : α → β) (n : Nat)
    (vs : List Value) :
    listFrom (fun v => (check v).map f) n vs = (listFrom check n vs).map (List.map f) := by
  induction vs generalizing n with
  | nil => rfl
  | cons v vs ih =>
    rw [listFrom, listFrom, ih]
    change ap (map _ (under _ (map f (check v)))) _ = map _ (ap (map _ (under _ (check v))) _)
    cases check v <;> cases listFrom check (n + 1) vs <;> rfl

theorem checkList_map_check {α β : Type} (d : Document) (check : Value → Checked α) (f : α → β)
    (v : Value) :
    checkList d (fun v => (check v).map f) v = (checkList d check v).map (List.map f) := by
  unfold checkList
  split
  · exact Checked.listFrom_map_check check f 0 _
  · rfl

theorem check_integrations (d : Document) :
    check .integration d = (checkList d (checkIntegration d) d.root).map fun as =>
      ⟨d.heap, as.map .integration⟩ := by
  change (checkList d (fun v => (checkIntegration d v).map Record.integration) d.root).map _ = _
  rw [checkList_map_check]
  cases checkList d (checkIntegration d) d.root <;> rfl

theorem exists_check_of_load {fs : FileSystem} {m : Model} {path : String} {x : Records}
    (h : (load fs m path).value = .ok x) :
    load fs m path = ⟨.ok x, []⟩ ∧ ∃ d, check m d = .sound x := by
  cases hbytes : fs.bytesAt path with
  | error e =>
    unfold load at h
    rw [hbytes] at h
    cases e <;> exact nomatch h
  | ok bytes =>
    cases hread : Document.read bytes.toList with
    | error e =>
      unfold load ofBytes at h
      rw [hbytes] at h
      simp only [hread] at h
      cases e <;> exact nomatch h
    | ok d =>
      rw [load_eq_check hbytes hread] at h ⊢
      cases hcheck : check m d with
      | sound y =>
        rw [hcheck] at h
        obtain rfl := Except.ok.inj h
        exact ⟨rfl, d, hcheck⟩
      | faulty issues =>
        rw [hcheck] at h
        exact nomatch h

section
variable {d : Document} {vs : List Value}

theorem checkList_of_list {α : Type} {check : Value → Checked α} {v : Value}
    (h : d.items? v = some (.list vs)) : checkList d check v = Checked.listFrom check 0 vs := by
  have hlist : listItems? d v = some vs := by
    unfold listItems?
    split
    · exact nomatch h
    · rw [h]
  rw [checkList, hlist]

theorem listFrom_integrations_eq_sound {as : List Integration} (n : Nat) :
    Checked.listFrom (checkIntegration d) n vs = .sound as ↔
      List.Forall₂ (fun v a => Integration.Reads d v a) vs as := by
  rw [Checked.listFrom_eq_sound, ← List.forall₂_eq_eq_eq, List.forall₂_map_left_iff,
    List.forall₂_map_right_iff]
  simp only [checkIntegration_eq_sound]

theorem faulty_listFrom_integrations (n : Nat) :
    (Checked.listFrom (checkIntegration d) n vs).Faulty ↔ ∃ v ∈ vs, Invalid d .integration v := by
  simp only [Checked.faulty_listFrom, faulty_checkIntegration]

end

/-- A file with a manifest that has a value of a document as its one entry. Its containers may have
other numbers than in the document. -/
structure HoldsOnly (fs : FileSystem) (path : String) (ρ : Renumbering) (d : Document) (v : Value)
    (d' : Document) (v' : Value) : Prop where
  read : ∃ bytes, fs.bytesAt path = .ok bytes ∧ Document.read bytes.toList = .ok d'
  root : d'.items? d'.root = some (.list [v'])
  value : ρ.value v' = v
  embeds : d'.Embeds ρ v' d

section
variable {fs : FileSystem} {path : String} {ρ : Renumbering} {d d' : Document} {v v' : Value}
  (h : HoldsOnly fs path ρ d v d' v')

include h

theorem HoldsOnly.load_eq : load fs .integration path = match checkIntegration d' v' with
    | .sound a => ⟨.ok ⟨d'.heap, [.integration a]⟩, []⟩
    | .faulty issues =>
      disable (.file path (.shape .integration (issues.map fun i =>
        { i with place := .index 0 :: i.place }))) := by
  obtain ⟨bytes, hbytes, hread⟩ := h.read
  rw [load_eq_check hbytes hread, check_integrations, checkList_of_list h.root]
  simp only [Checked.listFrom]
  cases checkIntegration d' v' <;> rfl

theorem HoldsOnly.agree : Checked.Agree (fun a' a => a = a'.renumber ρ) (checkIntegration d' v')
    (checkIntegration d v) :=
  h.value ▸ agree_integration_of_embeds h.embeds

theorem HoldsOnly.load_of_reads {a : Integration} (ha : a.Reads d v) :
    ∃ a', load fs .integration path = ⟨.ok ⟨d'.heap, [.integration a']⟩, []⟩ ∧
      a'.renumber ρ = a := by
  have hagree := h.agree
  rw [checkIntegration_eq_sound.2 ha] at hagree
  rw [h.load_eq]
  cases hcheck : checkIntegration d' v' with
  | sound a' =>
    rw [hcheck] at hagree
    exact ⟨a', rfl, Eq.symm hagree⟩
  | faulty issues =>
    rw [hcheck] at hagree
    exact hagree.elim

end

def TargetReference.versionParts (t : TargetReference) : List Nat :=
  [t.minimumMajor, t.minimumMinor, t.minimumPatch, t.maximumMajor, t.maximumMinor, t.maximumPatch]

theorem versionPart_le {v? : Option Value} {bound n : Nat} (hbound : bound ≤ 65535)
    (h : WithDefault IsVersionPart bound v? n) : n ≤ 65535 := by
  unfold WithDefault at h
  split at h
  · exact h.2
  · exact h ▸ hbound

theorem TargetReference.Reads.le {d : Document} {v : Value} {t : TargetReference} (h : t.Reads d v) :
    ∀ n ∈ t.versionParts, n ≤ 65535 := by
  have hzero : 0 ≤ 65535 := Nat.zero_le _
  simp only [versionParts, List.forall_mem_cons, List.not_mem_nil, false_implies, implies_true,
    and_true]
  exact ⟨versionPart_le hzero h.minimumMajor, versionPart_le hzero h.minimumMinor,
    versionPart_le hzero h.minimumPatch, versionPart_le le_rfl h.maximumMajor,
    versionPart_le le_rfl h.maximumMinor, versionPart_le le_rfl h.maximumPatch⟩

theorem exists_reads_of_optionally {α : Type} {R : Value → α → Prop} {v? : Option Value} {a : α}
    (h : Optionally R v? (some a)) : ∃ v, v? = some v ∧ R v a := by
  unfold Optionally at h
  split at h
  · cases h
  · cases h
  · obtain ⟨b, hb, hab⟩ := h
    obtain rfl := Option.some.inj hab
    exact ⟨_, rfl, hb⟩

theorem MethodReplacement.Reads.le {d : Document} {v : Value} {r : MethodReplacement}
    (h : r.Reads d v) : ∀ t, r.target = some t → ∀ n ∈ t.versionParts, n ≤ 65535 := by
  intro t ht
  obtain ⟨w, -, hw⟩ := exists_reads_of_optionally (ht ▸ h.target)
  exact hw.le

theorem Integration.Reads.le {d : Document} {v : Value} {a : Integration} (h : a.Reads d v) :
    ∀ r ∈ a.replacements, ∀ t, r.target = some t → ∀ n ∈ t.versionParts, n ≤ 65535 := by
  have hreplacements := h.replacements
  unfold WithDefault at hreplacements
  split at hreplacements
  · obtain ⟨vs, -, hall⟩ := hreplacements
    intro r hr
    obtain ⟨j, hj, rfl⟩ := List.getElem_of_mem hr
    exact (hall.get (hall.length_eq ▸ hj) hj).le
  · rw [hreplacements]
    exact nofun

/-- The record of an entry. It reads so, with all parts of versions within the bounds, and it is
what any manifest gives that has this entry only. -/
structure Integration.IsEntry (d : Document) (v : Value) (a : Integration) : Prop where
  reads : a.Reads d v
  versions : ∀ r ∈ a.replacements, ∀ t, r.target = some t → ∀ n ∈ t.versionParts, n ≤ 65535
  alone : ∀ {fs path ρ d' v'}, HoldsOnly fs path ρ d v d' v' →
    ∃ a', load fs .integration path = ⟨.ok ⟨d'.heap, [.integration a']⟩, []⟩ ∧ a'.renumber ρ = a

theorem Integration.Reads.isEntry {d : Document} {v : Value} {a : Integration} (h : a.Reads d v) :
    a.IsEntry d v :=
  ⟨h, h.le, fun halone => halone.load_of_reads h⟩

/-- A manifest that is a sequence is refused, or has a value that is a list with a value for each
entry. It is then refused just if one of these is invalid, and gives the records of all of them, in
order, if none is. -/
theorem load_sequence {fs : FileSystem} {path : String} {bytes : ByteArray} {g : Graph}
    {ids : List NodeId} (hbytes : fs.bytesAt path = .ok bytes)
    (hgraph : Graph.ofEvents (Yaml.eventsOf bytes.toList) = .ok (some g))
    (hroot : (nodeAt g.nodes g.root).content = .sequence ids) :
    (∃ e failure, Document.ofGraph g = .error e ∧
      (load fs .integration path).value = .error failure) ∨
    ∃ d vs, Document.ofGraph g = .ok d ∧ d.items? d.root = some (.list vs) ∧
      vs.length = ids.length ∧
      ((∃ v ∈ vs, Invalid d .integration v) ∧ (∃ issues,
        load fs .integration path = disable (.file path (.shape .integration issues))) ∨
      (∀ v ∈ vs, ¬Invalid d .integration v) ∧ ∃ as : List Integration,
        load fs .integration path = ⟨.ok ⟨d.heap, as.map .integration⟩, []⟩ ∧
        as.length = ids.length ∧ List.Forall₂ (Integration.IsEntry d) vs as) := by
  have hread : Document.read bytes.toList = Document.ofGraph g := by
    change Graph.ofEvents (Yaml.eventsOf bytes.toList) >>= _ = _
    rw [hgraph]
    rfl
  cases hd : Document.ofGraph g with
  | error e =>
    left
    rw [hd] at hread
    unfold load ofBytes
    rw [hbytes]
    simp only [hread]
    cases e <;> exact ⟨_, _, rfl, rfl⟩
  | ok d =>
    right
    rw [hd] at hread
    obtain ⟨vs, hvs, hlength⟩ := Document.root_of_ofGraph hd hroot
    refine ⟨d, vs, rfl, hvs, hlength, ?_⟩
    rw [← faulty_listFrom_integrations 0, load_eq_check hbytes hread, check_integrations,
      checkList_of_list hvs]
    cases hcheck : Checked.listFrom (checkIntegration d) 0 vs with
    | faulty issues => exact .inl ⟨⟨issues, rfl⟩, issues, rfl⟩
    | sound as =>
      have hreads := (listFrom_integrations_eq_sound 0).1 hcheck
      have hsound : ¬∃ v ∈ vs, Invalid d .integration v := by
        rw [← faulty_listFrom_integrations 0, hcheck]
        exact Checked.not_faulty_sound as
      exact .inr ⟨fun v hv h => hsound ⟨v, hv, h⟩, as, rfl,
        hreads.length_eq.symm.trans hlength, hreads.imp fun v a h => h.isEntry⟩

def double (es es' : Entries) : Document := ⟨#[.list [.ref 1, .ref 2], .map es, .map es'], .ref 0⟩

def isDouble (es es' : Entries) : Except Yaml.Error Document → Bool
  | .ok ⟨⟨[.list [.ref 1, .ref 2], .map fs, .map fs']⟩, .ref 0⟩ =>
    areSamePlain fs es && areSamePlain fs' es'
  | _ => false

theorem eq_of_isDouble {es es' : Entries} {r : Except Yaml.Error Document}
    (h : isDouble es es' r = true) : r = .ok (double es es') := by
  unfold isDouble at h
  split at h
  · rw [Bool.and_eq_true] at h
    rw [eq_of_areSamePlain h.1, eq_of_areSamePlain h.2]
    rfl
  · exact nomatch h

theorem holds_single {s t : Points} {w : Value}
    (h : (single [(.str s, .str t)]).Holds (.ref 1) w) : w = .ref 1 ∨ w = .str s ∨ w = .str t := by
  have hentry {e : Value × Value} {es : Entries} {u : Value}
      (hu : u = .ref 1 ∨ u = .str s ∨ u = .str t)
      (hes : (single [(.str s, .str t)]).items? u = some (.map es)) (he : e ∈ es) :
      e = (.str s, .str t) := by
    obtain rfl | rfl | rfl := hu
    · obtain rfl : [(.str s, .str t)] = es := Yaml.Items.map.inj (Option.some.inj hes)
      exact List.mem_singleton.1 he
    · exact nomatch hes
    · exact nomatch hes
  induction h with
  | self => exact .inl rfl
  | first _ ih => simp at ih
  | second _ ih => simp at ih
  | item _ hu _ ih => obtain rfl | rfl | rfl := ih <;> exact nomatch hu
  | member _ hu _ ih => obtain rfl | rfl | rfl := ih <;> exact nomatch hu
  | key _ hu he ih => exact .inr (.inl (congrArg Prod.fst (hentry ih hu he)))
  | value _ hu he ih => exact .inr (.inr (congrArg Prod.snd (hentry ih hu he)))

/-- The second of two entries is what it is alone. -/
theorem load_sequence_second :
    let fs (text : String) : FileSystem := ((FileSystem.fresh [['r']]).writeFile "m.yml"
      text.toUTF8).toOption.getD (.fresh [])
    ∃ x a b, load (fs "- name: X\n- name: Y\n") .integration "m.yml" = ⟨.ok x, []⟩ ∧
      x.items = [.integration a, .integration b] ∧ ∃ y b',
      load (fs "- name: Y\n") .integration "m.yml" = ⟨.ok y, []⟩ ∧ y.items = [.integration b'] ∧
      b'.renumber ⟨(· + 1), id⟩ = b := by
  intro fs
  let es (name : String) : Entries := [(.str (points "name"), .str (points name))]
  have hboth : (fs "- name: X\n- name: Y\n").bytesAt "m.yml" =
      .ok "- name: X\n- name: Y\n".toUTF8 := eq_ok_of_toOption (by decide +kernel)
  have halone : (fs "- name: Y\n").bytesAt "m.yml" = .ok "- name: Y\n".toUTF8 :=
    eq_ok_of_toOption (by decide +kernel)
  have hread : Document.read "- name: X\n- name: Y\n".toUTF8.toList =
      .ok (double (es "X") (es "Y")) := eq_of_isDouble (by decide +kernel)
  have hreadAlone : Document.read "- name: Y\n".toUTF8.toList = .ok (single (es "Y")) :=
    eq_of_isSingle (by decide +kernel)
  have hcontent :
      (Graph.ofEvents (Yaml.eventsOf "- name: X\n- name: Y\n".toUTF8.toList)).toOption.map
        (Option.map fun g => (nodeAt g.nodes g.root).content) = some (some (.sequence [1, 4])) := by
    decide +kernel
  clear_value fs
  obtain ⟨g?, hgraph, hg?⟩ := Option.map_eq_some_iff.1 hcontent
  obtain ⟨g, rfl, hroot⟩ := Option.map_eq_some_iff.1 hg?
  have hofGraph : Document.ofGraph g = .ok (double (es "X") (es "Y")) := by
    change Graph.ofEvents (Yaml.eventsOf _) >>= _ = _ at hread
    rwa [eq_ok_of_toOption hgraph] at hread
  have hentry : HoldsOnly (fs "- name: Y\n") "m.yml" ⟨(· + 1), id⟩ (double (es "X") (es "Y"))
      (.ref 2) (single (es "Y")) (.ref 1) := by
    refine ⟨⟨_, halone, hreadAlone⟩, rfl, rfl, fun r hr => ?_⟩
    obtain hr | hr | hr := holds_single hr
    · obtain rfl := Value.ref.inj hr
      rfl
    · exact nomatch hr
    · exact nomatch hr
  obtain ⟨e, -, he, -⟩ | ⟨d, vs, hd, hvs, -, h⟩ :=
    load_sequence hboth (eq_ok_of_toOption hgraph) hroot
  · exact nomatch hofGraph.symm.trans he
  · obtain rfl := Except.ok.inj (hofGraph.symm.trans hd)
    obtain rfl : [.ref 1, .ref 2] = vs := Yaml.Items.list.inj (Option.some.inj hvs)
    obtain ⟨-, issues, hload⟩ | ⟨-, as, hload, -, hall⟩ := h
    · have haccepted : load (fs "- name: X\n- name: Y\n") .integration "m.yml" = ⟨.ok
          ⟨_, [.integration ⟨points "X", [], []⟩, .integration ⟨points "Y", [], []⟩]⟩, []⟩ :=
        (load_eq_ok_iff hboth hread).2 rfl
      exact nomatch congrArg Logged.value (haccepted.symm.trans hload)
    · obtain _ | ⟨-, hrest⟩ := hall
      obtain _ | ⟨hb, hnone⟩ := hrest
      cases hnone
      obtain ⟨b', hload', hb'⟩ := hb.alone hentry
      exact ⟨_, _, _, hload, rfl, _, b', hload', rfl, hb'⟩

end ProfilerBootstrap.Manifest

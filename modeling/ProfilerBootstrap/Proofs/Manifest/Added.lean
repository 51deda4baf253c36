import ProfilerBootstrap.Proofs.Manifest.Place

namespace ProfilerBootstrap

namespace Yaml

/-- Other numbers for the containers of a document, and for the nodes that values not a number are
from. -/
structure Renumbering where
  ref : Ref → Ref
  node : NodeId → NodeId

namespace Renumbering

variable (ρ : Renumbering)

def value : Value → Value
  | .nan source => .nan (source.map ρ.node)
  | .pair a b => .pair (value a) (value b)
  | .ref r => .ref (ρ.ref r)
  | v => v

def entry (e : Value × Value) : Value × Value := (ρ.value e.1, ρ.value e.2)

def items : Items → Items
  | .list vs => .list (vs.map ρ.value)
  | .map es => .map (es.map ρ.entry)
  | .set vs => .set (vs.map ρ.value)

end Renumbering

/-- A document that has one more entry than another, in one mapping. Its containers may have other
numbers, and there may be more of them, for the new value. -/
structure Document.Adds (ρ : Renumbering) (d d' : Document) (r : Ref)
    (before after : List (Value × Value)) (k v : Value) : Prop where
  root : d'.root = ρ.value d.root
  old : d.heap[r]? = some (.map (before ++ after))
  new : d'.heap[ρ.ref r]? = some (.map (before.map ρ.entry ++ (k, v) :: after.map ρ.entry))
  others : ∀ s, s ≠ r → d'.heap[ρ.ref s]? = d.heap[s]?.map ρ.items

end Yaml

namespace Manifest

open Yaml (Value Items Document Renumbering Ref)

section
variable {α : Type} (ρ : Renumbering) (v : Value)

theorem checkText_value : checkText (ρ.value v) = checkText v := by cases v <;> rfl

theorem checkVersionPart_value : checkVersionPart (ρ.value v) = checkVersionPart v := by
  cases v <;> rfl

theorem checkAction_value : checkAction (ρ.value v) = checkAction v := by
  unfold checkAction
  rw [checkText_value]

theorem checkOptional_value {check check' : Value → Checked α}
    (h : check' (ρ.value v) = check v) :
    checkOptional check' (ρ.value v) = checkOptional check v := by
  cases v <;> first | rfl | exact congrArg (Checked.map some) h

end

section
variable (ρ : Renumbering) (name : String) (e : Value × Value) (es : Entries)

@[simp]
theorem isNamed_entry : Entries.isNamed name (ρ.entry e) = Entries.isNamed name e := by
  obtain ⟨k, v⟩ := e
  cases k <;> rfl

@[simp]
theorem isBroken_entry : Entries.isBroken (ρ.entry e) = Entries.isBroken e := by
  obtain ⟨k, v⟩ := e
  cases k <;> rfl

theorem value?_entries :
    Entries.value? (es.map ρ.entry) name = (Entries.value? es name).map ρ.value := by
  unfold Entries.value?
  have hnamed : Entries.isNamed name ∘ ρ.entry = Entries.isNamed name :=
    funext fun e => isNamed_entry ρ name e
  rw [List.find?_map, hnamed, Option.map_map, Option.map_map]
  rfl

theorem unknown_entries (fields : List String) :
    Entries.unknown fields (es.map ρ.entry) = (Entries.unknown fields es).map ρ.entry := by
  unfold Entries.unknown
  rw [List.filter_map]
  congr 1
  refine List.filter_congr fun e _ => ?_
  simp

theorem any_isBroken_entries :
    List.any (es.map ρ.entry) Entries.isBroken = es.any Entries.isBroken := by
  rw [List.any_map]
  congr 1
  funext e
  exact isBroken_entry ρ e

end

theorem Entries.value?_insert {name : String} {e : Value × Value} (h : isNamed name e = false)
    (es₁ es₂ : Entries) : value? (es₁ ++ e :: es₂) name = value? (es₁ ++ es₂) name := by
  unfold value?
  rw [List.find?_append, List.find?_append, List.find?_cons_of_neg (by simp [h])]

theorem Entries.unknown_append (fields : List String) (es₁ es₂ : Entries) :
    unknown fields (es₁ ++ es₂) = unknown fields es₁ ++ unknown fields es₂ := List.filter_append ..

theorem Entries.unknown_insert {fields : List String} {e : Value × Value}
    (h : ∀ name ∈ fields, isNamed name e = false) (es₁ es₂ : Entries) :
    unknown fields (es₁ ++ e :: es₂) = unknown fields es₁ ++ e :: unknown fields es₂ := by
  rw [unknown_append]
  congr 1
  refine List.filter_cons_of_pos ?_
  simpa using h

theorem Reference.name_mem_fields (n : Reference) : n.name ∈ Model.replacement.fields := by
  cases n <;> decide

section
variable {α β γ : Type} {ρ : Renumbering} {d d' : Document} {u : Value}

theorem listItems?_of_items? (h : d'.items? (ρ.value u) = (d.items? u).map ρ.items) :
    listItems? d' (ρ.value u) = (listItems? d u).map (List.map ρ.value) := by
  cases u with
  | ref s =>
    simp only [Renumbering.value] at h
    simp only [listItems?, Renumbering.value, h]
    cases d.items? (.ref s) with
    | none => rfl
    | some items => cases items <;> rfl
  | _ => rfl

variable (h : listItems? d' (ρ.value u) = (listItems? d u).map (List.map ρ.value))

include h

theorem checkList_of_listItems? {check check' : Value → Checked α}
    (hcheck : ∀ v, check' (ρ.value v) = check v) :
    checkList d' check' (ρ.value u) = checkList d check u := by
  unfold checkList
  rw [h]
  cases listItems? d u with
  | none => rfl
  | some vs => exact Checked.listFrom_map hcheck 0 vs

theorem agree_checkList_of_listItems? {check : Value → Checked α} {check' : Value → Checked β}
    {F : α → γ} {G : β → γ} (hcheck : ∀ n w, item? d u n = some w →
      Checked.Agree (fun a b => G b = F a) (check w) (check' (ρ.value w))) :
    Checked.Agree (fun as bs => bs.map G = as.map F) (checkList d check u)
      (checkList d' check' (ρ.value u)) := by
  unfold checkList
  rw [h]
  cases hl : listItems? d u with
  | none => exact rfl
  | some vs =>
    refine Checked.agree_listFrom (fun w hw => ?_) 0
    obtain ⟨n, hn⟩ := List.mem_iff_getElem?.1 hw
    refine hcheck n w ?_
    rw [item?, hl]
    exact hn

end

/-- A key is no field of any record that is read from a mapping. -/
def UnknownAt (d : Document) (r : Ref) (k : Value) : Prop :=
  ∀ p, valueAt d p = some (.ref r) → ∀ name ∈ p.model.fields, k ≠ .str (points name)

theorem UnknownAt.isNamed {d : Document} {r : Ref} {k u v : Value} (h : UnknownAt d r k) {p : Place}
    (hp : valueAt d p = some u) (hu : u = .ref r) :
    ∀ name ∈ p.model.fields, Entries.isNamed name (k, v) = false := by
  intro name hname
  have hne := h p (hu ▸ hp) name hname
  cases k with
  | str text => exact decide_eq_false fun htext => hne (congrArg Value.str htext)
  | _ => rfl

end Manifest

namespace Yaml.Document.Adds

open Manifest

variable {ρ : Renumbering} {d d' : Document} {r : Ref} {before after : List (Value × Value)}
  {k v : Value} (h : d.Adds ρ d' r before after k v) {u : Value} {name : String}

include h

theorem items?_of_ne (hu : u ≠ .ref r) : d'.items? (ρ.value u) = (d.items? u).map ρ.items := by
  cases u with
  | ref s => exact h.others s fun hs => hu (congrArg Value.ref hs)
  | _ => rfl

/-- The mapping is no list, so lists are as before. -/
theorem listItems?_value (u : Value) :
    listItems? d' (ρ.value u) = (listItems? d u).map (List.map ρ.value) := by
  by_cases hu : u = .ref r
  · subst hu
    simp only [listItems?, Renumbering.value, Document.items?, h.old, h.new]
    rfl
  · exact listItems?_of_items? (h.items?_of_ne hu)

theorem item?_value (u : Value) (i : Nat) : item? d' (ρ.value u) i = (item? d u i).map ρ.value := by
  unfold item?
  rw [h.listItems?_value]
  cases listItems? d u with
  | none => rfl
  | some vs => exact List.getElem?_map

theorem field?_value (hk : u = .ref r → Entries.isNamed name (k, v) = false) :
    field? d' (ρ.value u) name = (field? d u name).map ρ.value := by
  unfold field?
  by_cases hu : u = .ref r
  · subst hu
    simp only [Renumbering.value, Document.items?, h.old, h.new]
    rw [Entries.value?_insert (hk rfl), ← List.map_append]
    exact value?_entries ρ name _
  · rw [h.items?_of_ne hu]
    cases d.items? u with
    | none => rfl
    | some items =>
      cases items with
      | map es => exact value?_entries ρ name es
      | _ => rfl

theorem integrationAt_value (i : Nat) :
    integrationAt d' i = (integrationAt d i).map ρ.value := by
  unfold integrationAt
  rw [h.root]
  exact h.item?_value d.root i

section
variable (hk : UnknownAt d r k)

include hk

theorem replacementAt_value (i j : Nat) :
    replacementAt d' i j = (replacementAt d i j).map ρ.value := by
  unfold replacementAt
  rw [h.integrationAt_value]
  cases hu : integrationAt d i with
  | none => rfl
  | some u =>
    simp only [Option.map_some, Option.bind_some]
    have hplace : valueAt d (.integration i) = some u := hu
    have hname : "method_replacements" ∈ Model.integration.fields := by decide
    rw [h.field?_value fun hr => hk.isNamed hplace hr _ hname]
    cases field? d u "method_replacements" with
    | none => rfl
    | some l => exact h.item?_value l j

theorem valueAt_value (p : Place) : valueAt d' p = (valueAt d p).map ρ.value := by
  cases p with
  | integration i => exact h.integrationAt_value i
  | replacement i j => exact h.replacementAt_value hk i j
  | reference n i j =>
    simp only [valueAt]
    rw [h.replacementAt_value hk]
    cases hu : replacementAt d i j with
    | none => rfl
    | some u =>
      have hplace : valueAt d (.replacement i j) = some u := hu
      exact h.field?_value fun hr => hk.isNamed hplace hr _ n.name_mem_fields

end

end Yaml.Document.Adds

end ProfilerBootstrap

import ProfilerBootstrap.Proofs.Manifest.Alike

namespace ProfilerBootstrap

namespace Yaml

/-- What lies in a value, itself included. -/
inductive Document.Holds (d : Document) (v : Value) : Value → Prop
  | self : Holds d v v
  | first {a b : Value} (h : Holds d v (.pair a b)) : Holds d v a
  | second {a b : Value} (h : Holds d v (.pair a b)) : Holds d v b
  | item {u w : Value} {vs : List Value} (h : Holds d v u) (hu : d.items? u = some (.list vs))
    (hw : w ∈ vs) : Holds d v w
  | member {u w : Value} {vs : List Value} (h : Holds d v u) (hu : d.items? u = some (.set vs))
    (hw : w ∈ vs) : Holds d v w
  | key {u : Value} {es : List (Value × Value)} {e : Value × Value} (h : Holds d v u)
    (hu : d.items? u = some (.map es)) (he : e ∈ es) : Holds d v e.1
  | value {u : Value} {es : List (Value × Value)} {e : Value × Value} (h : Holds d v u)
    (hu : d.items? u = some (.map es)) (he : e ∈ es) : Holds d v e.2

/-- Another document has the containers of a value, under other numbers. It may have one container
where the first has several with the same items. -/
def Document.Embeds (ρ : Renumbering) (d : Document) (v : Value) (d' : Document) : Prop :=
  ∀ r, d.Holds v (.ref r) → d'.heap[ρ.ref r]? = d.heap[r]?.map ρ.items

end Yaml

namespace Manifest

open Yaml (Value Items Document Renumbering)

section
variable (ρ : Renumbering)

def Integration.renumber (a : Integration) : Integration := a.mapExtra (Extra.renumber ρ)

end

theorem MethodReplacement.mapExtra_id (a : MethodReplacement) : a.mapExtra id = a := by
  obtain ⟨caller, target, wrapper, extra⟩ := a
  cases caller <;> cases target <;> cases wrapper <;> rfl

theorem Integration.mapExtra_id (a : Integration) : a.mapExtra id = a := by
  have hid : (fun r : MethodReplacement => r.mapExtra id) = id :=
    funext MethodReplacement.mapExtra_id
  rw [mapExtra, hid, List.map_id]
  rfl

section
variable {d : Document} {u v w : Value}

theorem holds_of_listItems? {vs : List Value} (h : d.Holds v u) (hu : listItems? d u = some vs)
    (hw : w ∈ vs) : d.Holds v w := by
  unfold listItems? at hu
  split at hu
  · cases hu
    rcases List.mem_cons.1 hw with rfl | hw
    · exact h.first
    · obtain rfl := List.mem_singleton.1 hw
      exact h.second
  · split at hu
    · cases hu
      exact h.item ‹_› hw
    · cases hu
      exact h.member ‹_› hw
    · cases hu

theorem holds_of_item? {i : Nat} (h : d.Holds v u) (hu : item? d u i = some w) : d.Holds v w := by
  obtain ⟨vs, hvs, hi⟩ := Option.bind_eq_some_iff.1 hu
  exact holds_of_listItems? h hvs (List.mem_of_getElem? hi)

theorem holds_of_field? {name : String} (h : d.Holds v u) (hu : field? d u name = some w) :
    d.Holds v w := by
  unfold field? at hu
  split at hu
  · obtain ⟨e, he, rfl⟩ := Option.map_eq_some_iff.1 hu
    exact h.value ‹_› (List.mem_of_find?_eq_some he)
  · cases hu

end

section
variable {ρ : Renumbering} {d d' : Document} {u v : Value} (h : d.Embeds ρ v d')

include h

theorem items?_of_embeds (hu : d.Holds v u) : d'.items? (ρ.value u) = (d.items? u).map ρ.items := by
  cases u with
  | ref r => exact h r hu
  | _ => rfl

theorem recordsAlike_of_embeds (hu : d.Holds v u) (fields : List String) :
    RecordsAlike ρ d d' fields (fun e e' => id e' = e.renumber ρ) u :=
  .of_items? (items?_of_embeds h hu) fun _ => rfl

theorem agree_replacement_of_embeds (hu : d.Holds v u) :
    Checked.Agree (fun a b => b.mapExtra id = a.mapExtra (Extra.renumber ρ)) (checkReplacement d u)
      (checkReplacement d' (ρ.value u)) := by
  refine agree_checkReplacement (recordsAlike_of_embeds h hu _) (fun w hw => ?_) (fun w hw => ?_)
    (fun w hw => ?_)
  · exact agree_checkCaller (recordsAlike_of_embeds h (holds_of_field? hu hw) _)
  · have hheld := holds_of_field? hu hw
    refine agree_checkTarget (recordsAlike_of_embeds h hheld _) fun l hl => ?_
    exact checkList_of_listItems?
      (listItems?_of_items? (items?_of_embeds h (holds_of_field? hheld hl))) (checkText_value ρ)
  · exact agree_checkWrapper (recordsAlike_of_embeds h (holds_of_field? hu hw) _)

theorem agree_integration_of_embeds :
    Checked.Agree (fun a b => b = a.renumber ρ) (checkIntegration d v)
      (checkIntegration d' (ρ.value v)) := by
  have hagree : Checked.Agree (fun a b => b.mapExtra id = a.mapExtra (Extra.renumber ρ))
      (checkIntegration d v) (checkIntegration d' (ρ.value v)) := by
    refine agree_checkIntegration (recordsAlike_of_embeds h .self _) fun l hl => ?_
    have hheld := holds_of_field? .self hl
    exact agree_checkList_of_listItems? (listItems?_of_items? (items?_of_embeds h hheld))
      fun j w hw => agree_replacement_of_embeds h (holds_of_item? hheld hw)
  exact hagree.mono fun a b hab => b.mapExtra_id.symm.trans hab

end

end Manifest

end ProfilerBootstrap

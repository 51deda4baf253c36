import ProfilerBootstrap.Proofs.Manifest.Reads

namespace ProfilerBootstrap.Manifest

open Yaml (Value Document)

/-- The references that a replacement has. -/
inductive Reference
  | caller
  | target
  | wrapper
  deriving DecidableEq, Repr

/-- The place of a record: the number of an integration, with the number of one of its replacements,
and with one of the references of that. -/
inductive Place
  | integration (i : Nat)
  | replacement (i j : Nat)
  | reference (k : Reference) (i j : Nat)
  deriving DecidableEq, Repr

def Reference.name : Reference → String
  | caller => "caller"
  | target => "target"
  | wrapper => "wrapper"

def Reference.model : Reference → Model
  | caller => .caller
  | target => .target
  | wrapper => .wrapper

def Place.model : Place → Model
  | integration _ => .integration
  | replacement .. => .replacement
  | reference k .. => k.model

def integrationAt (d : Document) (i : Nat) : Option Value := item? d d.root i

def replacementAt (d : Document) (i j : Nat) : Option Value :=
  (integrationAt d i).bind fun v => (field? d v "method_replacements").bind (item? d · j)

/-- The value that a record is read from. -/
def valueAt (d : Document) : Place → Option Value
  | .integration i => integrationAt d i
  | .replacement i j => replacementAt d i j
  | .reference k i j => (replacementAt d i j).bind (field? d · k.name)

def Record.integration? : Record → Option Integration
  | integration a => some a
  | _ => none

def MethodReplacement.extraOf (a : MethodReplacement) : Reference → Option Extra
  | .caller => a.caller.map (·.extra)
  | .target => a.target.map (·.extra)
  | .wrapper => a.wrapper.map (·.extra)

namespace Records

def integrationAt (x : Records) (i : Nat) : Option Integration := x.items[i]?.bind (·.integration?)

def replacementAt (x : Records) (i j : Nat) : Option MethodReplacement :=
  (x.integrationAt i).bind fun a => a.replacements[j]?

def extraAt (x : Records) : Place → Option Extra
  | .integration i => (x.integrationAt i).map (·.extra)
  | .replacement i j => (x.replacementAt i j).map (·.extra)
  | .reference k i j => (x.replacementAt i j).bind (·.extraOf k)

end Records

section
variable {α β : Type} {d : Document} {fields : List String} {x : Records}

theorem rel_of_listOf {R : Value → α → Prop} {v : Value} {as : List α} (h : ListOf R d v as)
    (i : Nat) : Option.Rel R (item? d v i) as[i]? := by
  obtain ⟨vs, hvs, hall⟩ := h
  rw [item?, hvs, Option.bind_some]
  clear hvs
  induction hall generalizing i with
  | nil => exact .none
  | cons hab _ ih =>
    cases i with
    | zero => exact .some hab
    | succ i => exact ih i

theorem keeps_of_optionally {R : Value → α → Prop} {v? : Option Value} {a : Option α}
    (extra : α → Extra) (hkeeps : ∀ v b, R v b → Keeps d fields v (extra b))
    (h : Optionally R v? a) :
    match a.map extra with
    | some e => ∃ v, v? = some v ∧ Keeps d fields v e
    | none => v? = none ∨ v? = some .null := by
  unfold Optionally at h
  split at h
  · subst h
    exact .inl rfl
  · subst h
    exact .inr rfl
  · obtain ⟨b, hb, rfl⟩ := h
    exact ⟨_, rfl, hkeeps _ b hb⟩

theorem eq_of_rel {R : α → β → Prop} {x : Option α} {y : Option β}
    (h : Option.Rel R x y) : (x = none ∧ y = none) ∨ ∃ a b, x = some a ∧ y = some b ∧ R a b := by
  cases h with
  | none => exact .inl ⟨rfl, rfl⟩
  | some hab => exact .inr ⟨_, _, rfl, rfl, hab⟩

variable (h : check .integration d = .sound x)

include h

theorem rel_integrationAt (i : Nat) :
    Option.Rel (fun v a => Integration.Reads d v a) (integrationAt d i) (x.integrationAt i) := by
  obtain ⟨items, hitems, rfl⟩ := Checked.map_eq_sound.1 h
  have hlist := (checkList_eq_sound (fun _ _ => Iff.rfl)).1 hitems
  simp only [integrationAt, Records.integrationAt]
  obtain ⟨hv, ha⟩ | ⟨v, a, hv, ha, hcheck⟩ := eq_of_rel (rel_of_listOf hlist i)
  · rw [hv, ha]
    exact .none
  · obtain ⟨b, hb, rfl⟩ := Checked.map_eq_sound.1 hcheck
    rw [hv, ha]
    exact .some (checkIntegration_eq_sound.1 hb)

theorem rel_replacementAt (i j : Nat) :
    Option.Rel (fun v a => MethodReplacement.Reads d v a) (replacementAt d i j)
      (x.replacementAt i j) := by
  simp only [replacementAt, Records.replacementAt]
  obtain ⟨hv, ha⟩ | ⟨v, a, hv, ha, hreads⟩ := eq_of_rel (rel_integrationAt h i)
  · rw [hv, ha]
    exact .none
  · have hrs := hreads.replacements
    rw [hv, ha, Option.bind_some, Option.bind_some]
    cases hl : field? d v "method_replacements" with
    | none =>
      rw [hl] at hrs
      rw [hrs]
      exact .none
    | some l =>
      rw [hl] at hrs
      exact rel_of_listOf hrs j

/-- Every record keeps the unknown keys of the mapping at its place, and where no record is, there
is no mapping, but nothing or null. -/
theorem keeps_of_check (p : Place) :
    match x.extraAt p with
    | some e => ∃ v, valueAt d p = some v ∧ Keeps d p.model.fields v e
    | none => valueAt d p = none ∨ valueAt d p = some .null := by
  cases p with
  | integration i =>
    simp only [Records.extraAt, valueAt]
    obtain ⟨hv, ha⟩ | ⟨v, a, hv, ha, hreads⟩ := eq_of_rel (rel_integrationAt h i)
    · rw [ha]
      exact .inl hv
    · rw [ha]
      exact ⟨v, hv, hreads.extra⟩
  | replacement i j =>
    simp only [Records.extraAt, valueAt]
    obtain ⟨hv, ha⟩ | ⟨v, a, hv, ha, hreads⟩ := eq_of_rel (rel_replacementAt h i j)
    · rw [ha]
      exact .inl hv
    · rw [ha]
      exact ⟨v, hv, hreads.extra⟩
  | reference n i j =>
    simp only [Records.extraAt, valueAt]
    obtain ⟨hv, ha⟩ | ⟨v, a, hv, ha, hreads⟩ := eq_of_rel (rel_replacementAt h i j)
    · rw [hv, ha]
      exact .inl rfl
    · rw [hv, ha, Option.bind_some, Option.bind_some]
      cases n with
      | caller => exact keeps_of_optionally _ (fun _ _ hr => hr.extra) hreads.caller
      | target => exact keeps_of_optionally _ (fun _ _ hr => hr.extra) hreads.target
      | wrapper => exact keeps_of_optionally _ (fun _ _ hr => hr.extra) hreads.wrapper

end

end ProfilerBootstrap.Manifest

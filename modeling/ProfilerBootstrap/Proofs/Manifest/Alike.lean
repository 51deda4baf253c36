import ProfilerBootstrap.Proofs.Manifest.Added

namespace ProfilerBootstrap.Manifest

open Yaml (Value Items Document Renumbering)

namespace Extra

def renumber (ρ : Renumbering) (e : Extra) : Extra := e.map fun x => (x.1, ρ.value x.2)

def entries (e : Extra) : Entries := e.map fun x => (.str x.1, x.2)

theorem entries_injective {e e' : Extra} (h : e.entries = e'.entries) : e = e' := by
  refine (List.map_inj_right fun x y hxy => ?_).1 h
  obtain ⟨htext, hv⟩ := Prod.mk.inj hxy
  exact Prod.ext (Value.str.inj htext) hv

theorem entries_renumber (ρ : Renumbering) (e : Extra) :
    (renumber ρ e).entries = e.entries.map ρ.entry := by
  simp [renumber, entries, Renumbering.entry, Renumbering.value]

theorem entries_insert (e₁ e₂ : Extra) (x : Points × Value) :
    entries (e₁ ++ x :: e₂) = e₁.entries ++ (.str x.1, x.2) :: e₂.entries := List.map_append ..

end Extra

theorem Entries.extra_eq_sound {es : Entries} {e : Extra} :
    Entries.extra es = .sound e ↔ es = e.entries := by
  induction es generalizing e with
  | nil => cases e <;> simp [Entries.extra, Extra.entries]
  | cons x es ih =>
    obtain ⟨k, v⟩ := x
    cases k with
    | str text =>
      rw [Entries.extra, Checked.functor_map_eq_sound]
      constructor
      · rintro ⟨rest, hrest, rfl⟩
        rw [ih.1 hrest]
        rfl
      · intro h
        cases e with
        | nil => simp [Extra.entries] at h
        | cons y rest =>
          obtain ⟨hy, hrest⟩ := List.cons.inj h
          obtain ⟨htext, hv⟩ := Prod.mk.inj hy
          exact ⟨rest, ih.2 hrest, by rw [Value.str.inj htext, hv]⟩
    | _ =>
      refine iff_of_false (Checked.ap_faulty_ne_sound (x := Entries.extra es)) ?_
      cases e <;> simp [Extra.entries]

section
variable (ρ : Renumbering)

/-- Entries in front have the same issues after they are numbered anew, and are kept under their new
numbers. -/
theorem Entries.agree_extra_append {es es' : Entries} {S : Extra → Extra → Prop}
    (h : Checked.Agree S (Entries.extra es) (Entries.extra es')) (es₁ : Entries) :
    Checked.Agree (fun e e' => ∃ e₁ f f', e = e₁ ++ f ∧ e' = e₁.renumber ρ ++ f' ∧ S f f')
      (Entries.extra (es₁ ++ es)) (Entries.extra (es₁.map ρ.entry ++ es')) := by
  induction es₁ with
  | nil => exact h.mono fun f f' hf => ⟨[], f, f', rfl, rfl, hf⟩
  | cons x es₁ ih =>
    obtain ⟨k, v⟩ := x
    cases k with
    | str text =>
      refine ih.map fun e e' he => ?_
      obtain ⟨e₁, f, f', rfl, rfl, hf⟩ := he
      exact ⟨(text, v) :: e₁, f, f', rfl, rfl, hf⟩
    | _ => exact .seq rfl ih

theorem Entries.agree_extra_renumber (es : Entries) :
    Checked.Agree (fun e e' => e' = e.renumber ρ) (Entries.extra es)
      (Entries.extra (es.map ρ.entry)) := by
  have hnil : Checked.Agree (fun f f' => f = [] ∧ f' = []) (Entries.extra []) (Entries.extra []) :=
    ⟨rfl, rfl⟩
  have h := Entries.agree_extra_append ρ hnil es
  rw [List.append_nil, List.append_nil] at h
  refine h.mono fun e e' he => ?_
  obtain ⟨e₁, f, f', rfl, rfl, rfl, rfl⟩ := he
  rw [List.append_nil, List.append_nil]

end

/-- Two mappings have the same values of some fields, up to numbers. -/
def SameFields (ρ : Renumbering) (fields : List String) (es es' : Entries) : Prop :=
  ∀ name ∈ fields, Entries.value? es' name = (Entries.value? es name).map ρ.value

section
variable {α β γ : Type} {ρ : Renumbering} {fields : List String} {es es' : Entries}
  (h : SameFields ρ fields es es') {name : String}

include h

theorem SameFields.field_eq (hname : name ∈ fields) {check check' : Value → Checked α}
    (hcheck : ∀ v, Entries.value? es name = some v → check' (ρ.value v) = check v)
    (absent : Checked α) : es'.field name absent check' = es.field name absent check := by
  rw [Entries.field_eq, Entries.field_eq, h name hname]
  cases hv : Entries.value? es name with
  | none => rfl
  | some v => exact congrArg (Checked.under _) (hcheck v hv)

theorem SameFields.optional_eq (hname : name ∈ fields) {check check' : Value → Checked α}
    (hcheck : ∀ v, Entries.value? es name = some v → check' (ρ.value v) = check v) :
    es'.optional name check' = es.optional name check :=
  h.field_eq hname (fun v hv => checkOptional_value ρ v (hcheck v hv)) _

theorem SameFields.required_text (name : String) (hname : name ∈ fields) :
    es'.required name checkText = es.required name checkText :=
  h.field_eq hname (fun v _ => checkText_value ρ v) _

theorem SameFields.optional_text (name : String) (hname : name ∈ fields) :
    es'.optional name checkText = es.optional name checkText :=
  h.optional_eq hname fun v _ => checkText_value ρ v

theorem SameFields.agree_field (hname : name ∈ fields) {R : α → β → Prop}
    {check : Value → Checked α} {check' : Value → Checked β} {absent : Checked α}
    {absent' : Checked β}
    (habsent : Checked.Agree R absent absent')
    (hcheck : ∀ v, Entries.value? es name = some v →
      Checked.Agree R (check v) (check' (ρ.value v))) :
    Checked.Agree R (es.field name absent check) (es'.field name absent' check') := by
  rw [Entries.field_eq, Entries.field_eq, h name hname]
  refine .under ?_ _
  cases hv : Entries.value? es name with
  | none => exact habsent
  | some v => exact hcheck v hv

theorem SameFields.agree_optional (hname : name ∈ fields) {check : Value → Checked α}
    {check' : Value → Checked β} {F : α → γ} {G : β → γ}
    (hcheck : ∀ v, Entries.value? es name = some v →
      Checked.Agree (fun a b => G b = F a) (check v) (check' (ρ.value v))) :
    Checked.Agree (fun a b => b.map G = a.map F) (es.optional name check)
      (es'.optional name check') := by
  refine h.agree_field hname rfl fun v hv => ?_
  have hagree := (hcheck v hv).map (S := fun a b => b.map G = a.map F) (f := some) (g := some)
    fun _ _ hab => congrArg some hab
  cases v <;> first | exact rfl | exact hagree

end

section
variable (f : Extra → Extra)

def CallerReference.mapExtra (a : CallerReference) : CallerReference :=
  { a with extra := f a.extra }

def TargetReference.mapExtra (a : TargetReference) : TargetReference :=
  { a with extra := f a.extra }

def WrapperReference.mapExtra (a : WrapperReference) : WrapperReference :=
  { a with extra := f a.extra }

def MethodReplacement.mapExtra (a : MethodReplacement) : MethodReplacement :=
  ⟨a.caller.map (·.mapExtra f), a.target.map (·.mapExtra f), a.wrapper.map (·.mapExtra f),
    f a.extra⟩

def Integration.mapExtra (a : Integration) : Integration :=
  ⟨a.name, a.replacements.map (·.mapExtra f), f a.extra⟩

end

/-- Two values are alike as records with some fields: they are mappings with the same values of the
fields, up to numbers, and with related unknown keys, or they are no mappings. -/
inductive RecordsAlike (ρ : Renumbering) (d d' : Document) (fields : List String)
    (R : Extra → Extra → Prop) (u : Value) : Prop
  | mapping {es es' : Entries} (old : d.items? u = some (.map es))
    (new : d'.items? (ρ.value u) = some (.map es')) (same : SameFields ρ fields es es')
    (broken : (Entries.unknown fields es').any Entries.isBroken =
      (Entries.unknown fields es).any Entries.isBroken)
    (extra : Checked.Agree R (Entries.extra (Entries.unknown fields es))
      (Entries.extra (Entries.unknown fields es')))
  | other (old : ∀ es, d.items? u ≠ some (.map es))
    (new : ∀ es, d'.items? (ρ.value u) ≠ some (.map es))

section
variable {α β γ : Type} {ρ : Renumbering} {d d' : Document} {u : Value}

theorem RecordsAlike.of_items? {fields : List String} {R : Extra → Extra → Prop}
    (h : d'.items? (ρ.value u) = (d.items? u).map ρ.items) (hR : ∀ e, R e (e.renumber ρ)) :
    RecordsAlike ρ d d' fields R u := by
  cases hu : d.items? u with
  | none =>
    rw [hu] at h
    exact .other (fun es => by simp [hu]) (fun es => by simp [h])
  | some items =>
    rw [hu] at h
    cases items with
    | map es =>
      refine .mapping hu h (fun name _ => value?_entries ρ name es) ?_ ?_
      · rw [unknown_entries, any_isBroken_entries]
      · rw [unknown_entries]
        exact (Entries.agree_extra_renumber ρ _).mono fun e e' he => he ▸ hR e
    | _ => exact .other (fun es => by simp [hu]) (fun es => by simp [h, Renumbering.items])

theorem RecordsAlike.agree_checkRecord {fields : List String} {R : Extra → Extra → Prop}
    (h : RecordsAlike ρ d d' fields R u) {m : Model} {check : Entries → Checked (Extra → α)}
    {check' : Entries → Checked (Extra → β)} {F : α → γ} {G : β → γ}
    (hcheck : ∀ es es' : Entries, d.items? u = some (.map es) → SameFields ρ fields es es' →
      Checked.Agree (fun f g => ∀ e e', R e e' → G (g e') = F (f e)) (check es) (check' es')) :
    Checked.Agree (fun a b => G b = F a) (checkRecord d m fields check u)
      (checkRecord d' m fields check' (ρ.value u)) := by
  unfold checkRecord
  cases h with
  | mapping old new same broken extra =>
    simp only [old, new, broken]
    split
    · exact rfl
    · exact .seq (hcheck _ _ old same) extra
  | other old new =>
    split
    · exact absurd ‹_› (old _)
    · exact rfl

variable {F G : Extra → Extra}

theorem agree_checkCaller
    (h : RecordsAlike ρ d d' Model.caller.fields (fun e e' => G e' = F e) u) :
    Checked.Agree (fun a b => b.mapExtra G = a.mapExtra F) (checkCaller d u)
      (checkCaller d' (ρ.value u)) := by
  refine h.agree_checkRecord fun es es' _ (hs : SameFields ρ Model.caller.fields es es') => ?_
  rw [hs.optional_text "assembly" (by decide), hs.optional_text "type" (by decide),
    hs.optional_text "method" (by decide)]
  refine Checked.agree_self (.seq (.seq (.map (fun _ _ _ e e' he => ?_) _)))
  simp only [CallerReference.mapExtra, he]

theorem agree_checkWrapper
    (h : RecordsAlike ρ d d' Model.wrapper.fields (fun e e' => G e' = F e) u) :
    Checked.Agree (fun a b => b.mapExtra G = a.mapExtra F) (checkWrapper d u)
      (checkWrapper d' (ρ.value u)) := by
  refine h.agree_checkRecord fun es es' _ (hs : SameFields ρ Model.wrapper.fields es es') => ?_
  have haction : es'.field "action" (.sound .none) checkAction =
      es.field "action" (.sound .none) checkAction :=
    hs.field_eq (by decide) (fun v _ => checkAction_value ρ v) _
  rw [hs.required_text "assembly" (by decide), hs.required_text "type" (by decide),
    hs.optional_text "method" (by decide), hs.optional_text "signature" (by decide), haction]
  refine Checked.agree_self (.seq (.seq (.seq (.seq (.map (fun _ _ _ _ _ e e' he => ?_) _)))))
  simp only [WrapperReference.mapExtra, he]

theorem agree_checkTarget
    (h : RecordsAlike ρ d d' Model.target.fields (fun e e' => G e' = F e) u)
    (htypes : ∀ w, field? d u "signature_types" = some w →
      checkList d' checkText (ρ.value w) = checkList d checkText w) :
    Checked.Agree (fun a b => b.mapExtra G = a.mapExtra F) (checkTarget d u)
      (checkTarget d' (ρ.value u)) := by
  refine h.agree_checkRecord fun es es' hes (hs : SameFields ρ Model.target.fields es es') => ?_
  have hversion (name : String) (bound : Nat) (hname : name ∈ Model.target.fields) :
      versionPart es' name bound = versionPart es name bound :=
    hs.field_eq hname (fun v _ => checkVersionPart_value ρ v) _
  have htypes : es'.optional "signature_types" (checkList d' checkText) =
      es.optional "signature_types" (checkList d checkText) :=
    hs.optional_eq (by decide) fun w hw => htypes w ((field?_eq hes _).trans hw)
  rw [hs.required_text "assembly" (by decide), hs.required_text "type" (by decide),
    hs.required_text "method" (by decide), htypes, hversion "minimum_major" 0 (by decide),
    hversion "minimum_minor" 0 (by decide), hversion "minimum_patch" 0 (by decide),
    hversion "maximum_major" _ (by decide), hversion "maximum_minor" _ (by decide),
    hversion "maximum_patch" _ (by decide)]
  refine Checked.agree_self (.seq (.seq (.seq (.seq (.seq (.seq (.seq (.seq (.seq (.map
    (fun _ _ _ _ _ _ _ _ _ _ e e' he => ?_) _))))))))))
  simp only [TargetReference.mapExtra, he]

theorem agree_checkReplacement
    (h : RecordsAlike ρ d d' Model.replacement.fields (fun e e' => G e' = F e) u)
    (hcaller : ∀ w, field? d u "caller" = some w →
      Checked.Agree (fun a b => b.mapExtra G = a.mapExtra F) (checkCaller d w)
        (checkCaller d' (ρ.value w)))
    (htarget : ∀ w, field? d u "target" = some w →
      Checked.Agree (fun a b => b.mapExtra G = a.mapExtra F) (checkTarget d w)
        (checkTarget d' (ρ.value w)))
    (hwrapper : ∀ w, field? d u "wrapper" = some w →
      Checked.Agree (fun a b => b.mapExtra G = a.mapExtra F) (checkWrapper d w)
        (checkWrapper d' (ρ.value w))) :
    Checked.Agree (fun a b => b.mapExtra G = a.mapExtra F) (checkReplacement d u)
      (checkReplacement d' (ρ.value u)) := by
  refine h.agree_checkRecord fun es es' hes
    (hs : SameFields ρ Model.replacement.fields es es') => ?_
  have hc := hs.agree_optional (show "caller" ∈ _ by decide) fun w hw =>
    hcaller w ((field?_eq hes _).trans hw)
  have ht := hs.agree_optional (show "target" ∈ _ by decide) fun w hw =>
    htarget w ((field?_eq hes _).trans hw)
  have hw := hs.agree_optional (show "wrapper" ∈ _ by decide) fun w hw =>
    hwrapper w ((field?_eq hes _).trans hw)
  refine .seq (.seq (hc.map fun a b hab t t' ht w w' hw e e' he => ?_) ht) hw
  rw [MethodReplacement.mapExtra, MethodReplacement.mapExtra, hab, ht, hw, he]

theorem agree_checkIntegration
    (h : RecordsAlike ρ d d' Model.integration.fields (fun e e' => G e' = F e) u)
    (hitems : ∀ l, field? d u "method_replacements" = some l →
      Checked.Agree (fun rs rs' => rs'.map (·.mapExtra G) = rs.map (·.mapExtra F))
        (checkList d (checkReplacement d) l) (checkList d' (checkReplacement d') (ρ.value l))) :
    Checked.Agree (fun a b => b.mapExtra G = a.mapExtra F) (checkIntegration d u)
      (checkIntegration d' (ρ.value u)) := by
  refine h.agree_checkRecord fun es es' hes
    (hs : SameFields ρ Model.integration.fields es es') => ?_
  rw [hs.required_text "name" (by decide)]
  have hreplacements : Checked.Agree
      (fun rs rs' => rs'.map (·.mapExtra G) = rs.map (·.mapExtra F))
      (es.field "method_replacements" (.sound []) (checkList d (checkReplacement d)))
      (es'.field "method_replacements" (.sound []) (checkList d' (checkReplacement d'))) :=
    hs.agree_field (by decide) (by exact rfl) fun l hl => hitems l ((field?_eq hes _).trans hl)
  refine .seq (Checked.agree_self (.map (fun a rs rs' hrs e e' he => ?_) _)) hreplacements
  rw [Integration.mapExtra, Integration.mapExtra, hrs, he]

end

end ProfilerBootstrap.Manifest

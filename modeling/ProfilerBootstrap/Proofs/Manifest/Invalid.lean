import ProfilerBootstrap.Proofs.Manifest.Place

namespace ProfilerBootstrap.Manifest

open Yaml (Value Items Document)

def Model.texts : Model → List String
  | integration => ["name"]
  | replacement => []
  | caller => ["assembly", "type", "method"]
  | target => ["assembly", "type", "method"]
  | wrapper => ["assembly", "type", "method", "signature"]

/-- The fields of a record that have to be there, all of them texts. -/
def Model.required : Model → List String
  | integration => ["name"]
  | replacement => []
  | caller => []
  | target => ["assembly", "type", "method"]
  | wrapper => ["assembly", "type"]

def versionFields : List String :=
  ["minimum_major", "minimum_minor", "minimum_patch", "maximum_major", "maximum_minor",
    "maximum_patch"]

/-- A value that is no record of a kind. -/
inductive Invalid (d : Document) : Model → Value → Prop
  | other {m : Model} {v : Value} (h : ∀ es, d.items? v ≠ some (.map es)) : Invalid d m v
  /-- Unknown keys have to be texts without surrogates. -/
  | key {m : Model} {v : Value} {es : Entries} {e : Value × Value}
    (hes : d.items? v = some (.map es)) (he : e ∈ Entries.unknown m.fields es)
    (h : ∀ text, e.1 = .str text → text.any isSurrogate = true) : Invalid d m v
  | missing {m : Model} {v : Value} {name : String} (hname : name ∈ m.required)
    (h : field? d v name = none) : Invalid d m v
  | text {m : Model} {v w : Value} {name : String} (hname : name ∈ m.texts)
    (hw : field? d v name = some w) (hnull : w = .null → name ∈ m.required)
    (h : ∀ text, ¬IsText w text) : Invalid d m v
  | version {v w : Value} {name : String} (hname : name ∈ versionFields)
    (hw : field? d v name = some w) (h : ∀ n, ¬IsVersionPart w n) : Invalid d .target v
  | signature {v w : Value} (hw : field? d v "signature_types" = some w) (hnull : w ≠ .null)
    (h : listItems? d w = none) : Invalid d .target v
  | signatureType {v w u : Value} {i : Nat} (hw : field? d v "signature_types" = some w)
    (hu : item? d w i = some u) (h : ∀ text, ¬IsText u text) : Invalid d .target v
  | action {v w : Value} (hw : field? d v "action" = some w) (h : ∀ a, ¬IsAction w a) :
    Invalid d .wrapper v
  | reference {v w : Value} (k : Reference) (hw : field? d v k.name = some w) (hnull : w ≠ .null)
    (h : Invalid d k.model w) : Invalid d .replacement v
  | replacements {v w : Value} (hw : field? d v "method_replacements" = some w)
    (h : listItems? d w = none) : Invalid d .integration v
  | replacement {v w u : Value} {j : Nat} (hw : field? d v "method_replacements" = some w)
    (hu : item? d w j = some u) (h : Invalid d .replacement u) : Invalid d .integration v

section
variable {α : Type} {d : Document} {v : Value} {es : Entries} {name : String}
  {check : Value → Checked α}

theorem faulty_checkText : (checkText v).Faulty ↔ ∀ text, ¬IsText v text := by
  simp only [Checked.faulty_iff, ne_eq, checkText_eq_sound]

theorem faulty_checkVersionPart : (checkVersionPart v).Faulty ↔ ∀ n, ¬IsVersionPart v n := by
  simp only [Checked.faulty_iff, ne_eq, checkVersionPart_eq_sound]

theorem faulty_checkAction : (checkAction v).Faulty ↔ ∀ a, ¬IsAction v a := by
  simp only [Checked.faulty_iff, ne_eq, checkAction_eq_sound]

theorem faulty_checkList : (checkList d check v).Faulty ↔
    listItems? d v = none ∨ ∃ i u, item? d v i = some u ∧ (check u).Faulty := by
  unfold checkList item?
  cases listItems? d v with
  | none => simp
  | some vs =>
    simp only [Checked.faulty_listFrom, reduceCtorEq, false_or, Option.bind_some]
    constructor
    · rintro ⟨u, hu, h⟩
      obtain ⟨i, hi⟩ := List.mem_iff_getElem?.1 hu
      exact ⟨i, u, hi, h⟩
    · rintro ⟨i, u, hu, h⟩
      exact ⟨u, List.mem_of_getElem? hu, h⟩

theorem faulty_extra : (Entries.extra es).Faulty ↔ ∃ e ∈ es, ∀ text, e.1 ≠ .str text := by
  induction es with
  | nil => simp [Entries.extra]
  | cons x es ih =>
    obtain ⟨k, w⟩ := x
    cases k with
    | str text => simp [Entries.extra, ih]
    | _ =>
      refine iff_of_true ?_ ⟨_, List.mem_cons_self, nofun⟩
      exact Checked.faulty_iff.2 fun _ => Checked.ap_faulty_ne_sound

theorem faulty_checkRecord {m : Model} {fields : List String}
    {check : Entries → Checked (Extra → α)} : (checkRecord d m fields check v).Faulty ↔
      (∀ es, d.items? v ≠ some (.map es)) ∨ ∃ es : Entries, d.items? v = some (.map es) ∧
        ((∃ e ∈ Entries.unknown fields es, ∀ text, e.1 = .str text → text.any isSurrogate = true) ∨
          (check es).Faulty) := by
  have hbroken (e : Value × Value) : (Entries.isBroken e = true ∨ ∀ text, e.1 ≠ .str text) ↔
      ∀ text, e.1 = .str text → text.any isSurrogate = true := by
    obtain ⟨k, w⟩ := e
    cases k <;> simp [Entries.isBroken]
  have hkeys (es : Entries) : ((∃ e ∈ es, Entries.isBroken e = true) ∨ (Entries.extra es).Faulty) ↔
      ∃ e ∈ es, ∀ text, e.1 = .str text → text.any isSurrogate = true := by
    simp only [faulty_extra, ← hbroken, and_or_left, exists_or]
  unfold checkRecord
  split
  · rename_i es hes
    simp only [hes, Option.some.injEq, Items.map.injEq, ne_eq, forall_eq', false_or,
      exists_eq_left', ← hkeys]
    split
    · rename_i h
      simp [List.any_eq_true.1 h]
    · rename_i h
      have hclean : ¬∃ e ∈ Entries.unknown fields es, Entries.isBroken e = true :=
        fun hbroken => h (List.any_eq_true.2 hbroken)
      rw [Checked.faulty_seq, or_iff_right hclean, or_comm]
  · rename_i hother
    simp only [Checked.faulty_fault, true_iff]
    exact .inl fun es hes => hother es hes

section
variable (hes : d.items? v = some (.map es))

include hes

theorem faulty_required : (es.required name check).Faulty ↔
    field? d v name = none ∨ ∃ w, field? d v name = some w ∧ (check w).Faulty := by
  rw [Entries.required, Entries.field_eq, Checked.faulty_under, field?_eq hes]
  cases es.value? name <;> simp

theorem faulty_field {default : α} : (es.field name (.sound default) check).Faulty ↔
    ∃ w, field? d v name = some w ∧ (check w).Faulty := by
  rw [Entries.field_eq, Checked.faulty_under, field?_eq hes]
  cases es.value? name <;> simp

theorem faulty_optional : (es.optional name check).Faulty ↔
    ∃ w, field? d v name = some w ∧ w ≠ .null ∧ (check w).Faulty := by
  rw [Entries.optional, Entries.field_eq, Checked.faulty_under, field?_eq hes]
  cases es.value? name with
  | none => simp
  | some w => cases w <;> simp [checkOptional]

end

end

section
variable {α : Type} {d : Document} {v w : Value} {es : Entries} {name : String} {m : Model}

/-- Issues of a record are those of its unknown keys and of its fields. -/
theorem faulty_checkRecord_iff {check : Entries → Checked (Extra → α)}
    (hfields : ∀ es : Entries, d.items? v = some (.map es) → (check es).Faulty → Invalid d m v)
    (hinvalid : ∀ es : Entries, d.items? v = some (.map es) → Invalid d m v →
      (∃ e ∈ Entries.unknown m.fields es, ∀ text, e.1 = .str text → text.any isSurrogate = true) ∨
        (check es).Faulty) :
    (checkRecord d m m.fields check v).Faulty ↔ Invalid d m v := by
  rw [faulty_checkRecord]
  constructor
  · rintro (h | ⟨es, hes, ⟨e, he, h⟩ | h⟩)
    · exact .other h
    · exact .key hes he h
    · exact hfields es hes h
  · intro h
    by_cases hmap : ∃ es, d.items? v = some (.map es)
    · obtain ⟨es, hes⟩ := hmap
      exact .inr ⟨es, hes, hinvalid es hes h⟩
    · exact .inl fun es hes => hmap ⟨es, hes⟩

section
variable (hes : d.items? v = some (.map es))

include hes

theorem Invalid.of_required (htext : name ∈ m.texts) (hname : name ∈ m.required)
    (h : (es.required name checkText).Faulty) : Invalid d m v := by
  rcases (faulty_required hes).1 h with h | ⟨w, hw, h⟩
  · exact .missing hname h
  · exact .text htext hw (fun _ => hname) (faulty_checkText.1 h)

theorem Invalid.of_optional (htext : name ∈ m.texts) (h : (es.optional name checkText).Faulty) :
    Invalid d m v := by
  obtain ⟨w, hw, hnull, h⟩ := (faulty_optional hes).1 h
  exact .text htext hw (fun h => absurd h hnull) (faulty_checkText.1 h)

theorem faulty_optional_text (hw : field? d v name = some w) (hnull : w = .null → False)
    (h : ∀ text, ¬IsText w text) : (es.optional name checkText).Faulty :=
  (faulty_optional hes).2 ⟨w, hw, hnull, faulty_checkText.2 h⟩

theorem faulty_required_text (hw : field? d v name = some w) (h : ∀ text, ¬IsText w text) :
    (es.required name checkText).Faulty :=
  (faulty_required hes).2 (.inr ⟨w, hw, faulty_checkText.2 h⟩)

end

theorem faulty_required_missing (hes : d.items? v = some (.map es)) (h : field? d v name = none) :
    (es.required name checkText).Faulty :=
  (faulty_required hes).2 (.inl h)

theorem faulty_checkCaller : (checkCaller d v).Faulty ↔ Invalid d .caller v := by
  refine faulty_checkRecord_iff (fun es hes h => ?_) (fun es hes h => ?_)
  · simp only [Checked.faulty_seq, Checked.faulty_functor_map] at h
    rcases h with (h | h) | h
    all_goals exact .of_optional hes (by decide) h
  · cases h with
    | other h => exact absurd hes (h es)
    | key hes' he h =>
      cases hes.symm.trans hes'
      exact .inl ⟨_, he, h⟩
    | missing hname h => exact absurd hname List.not_mem_nil
    | text hname hw hnull h =>
      have hfaulty := faulty_optional_text hes hw (fun h => absurd (hnull h) List.not_mem_nil) h
      simp only [Model.texts, List.mem_cons, List.not_mem_nil, or_false] at hname
      right
      rcases hname with rfl | rfl | rfl <;> simp [hfaulty]

theorem faulty_checkWrapper : (checkWrapper d v).Faulty ↔ Invalid d .wrapper v := by
  refine faulty_checkRecord_iff (fun es hes h => ?_) (fun es hes h => ?_)
  · simp only [Checked.faulty_seq, Checked.faulty_functor_map] at h
    rcases h with (((h | h) | h) | h) | h
    · exact .of_required hes (by decide) (by decide) h
    · exact .of_required hes (by decide) (by decide) h
    · exact .of_optional hes (by decide) h
    · exact .of_optional hes (by decide) h
    · obtain ⟨w, hw, h⟩ := (faulty_field hes).1 h
      exact .action hw (faulty_checkAction.1 h)
  · cases h with
    | other h => exact absurd hes (h es)
    | key hes' he h =>
      cases hes.symm.trans hes'
      exact .inl ⟨_, he, h⟩
    | missing hname h =>
      have hfaulty := faulty_required_missing hes h
      simp only [Model.required, List.mem_cons, List.not_mem_nil, or_false] at hname
      right
      rcases hname with rfl | rfl <;> simp [hfaulty]
    | text hname hw hnull h =>
      have hrequired := faulty_required_text hes hw h
      simp only [Model.texts, List.mem_cons, List.not_mem_nil, or_false] at hname
      right
      rcases hname with rfl | rfl | rfl | rfl
      · simp [hrequired]
      · simp [hrequired]
      · simp [faulty_optional_text hes hw (fun h => by simpa [Model.required] using hnull h) h]
      · simp [faulty_optional_text hes hw (fun h => by simpa [Model.required] using hnull h) h]
    | action hw h =>
      right
      simp [(faulty_field hes).2 ⟨_, hw, faulty_checkAction.2 h⟩]

/-- Issues of a list of texts are its being no list, or an item that is no text. -/
theorem faulty_texts : (checkList d checkText v).Faulty ↔
    listItems? d v = none ∨ ∃ i u, item? d v i = some u ∧ ∀ text, ¬IsText u text := by
  simp only [faulty_checkList, faulty_checkText]

theorem ne_null_of_item? {u : Value} {i : Nat} (h : item? d v i = some u) : v ≠ .null := by
  rintro rfl
  exact nomatch h

theorem faulty_versionPart {bound : Nat} (hes : d.items? v = some (.map es)) :
    (versionPart es name bound).Faulty ↔
      ∃ w, field? d v name = some w ∧ ∀ n, ¬IsVersionPart w n := by
  simp only [versionPart, faulty_field hes, faulty_checkVersionPart]

theorem faulty_checkTarget : (checkTarget d v).Faulty ↔ Invalid d .target v := by
  refine faulty_checkRecord_iff (fun es hes h => ?_) (fun es hes h => ?_)
  · have hversion {name : String} {bound : Nat} (hname : name ∈ versionFields)
        (h : (versionPart es name bound).Faulty) : Invalid d .target v := by
      obtain ⟨w, hw, h⟩ := (faulty_versionPart hes).1 h
      exact .version hname hw h
    simp only [Checked.faulty_seq, Checked.faulty_functor_map] at h
    rcases h with (((((((((h | h) | h) | h) | h) | h) | h) | h) | h) | h)
    · exact .of_required hes (by decide) (by decide) h
    · exact .of_required hes (by decide) (by decide) h
    · exact .of_required hes (by decide) (by decide) h
    · obtain ⟨w, hw, hnull, h⟩ := (faulty_optional hes).1 h
      rcases faulty_texts.1 h with h | ⟨i, u, hu, h⟩
      · exact .signature hw hnull h
      · exact .signatureType hw hu h
    all_goals exact hversion (by decide) h
  · cases h with
    | other h => exact absurd hes (h es)
    | key hes' he h =>
      cases hes.symm.trans hes'
      exact .inl ⟨_, he, h⟩
    | missing hname h =>
      have hfaulty := faulty_required_missing hes h
      simp only [Model.required, List.mem_cons, List.not_mem_nil, or_false] at hname
      right
      rcases hname with rfl | rfl | rfl <;> simp [hfaulty]
    | text hname hw hnull h =>
      have hfaulty := faulty_required_text hes hw h
      simp only [Model.texts, List.mem_cons, List.not_mem_nil, or_false] at hname
      right
      rcases hname with rfl | rfl | rfl <;> simp [hfaulty]
    | signature hw hnull h =>
      right
      simp [(faulty_optional hes).2 ⟨_, hw, hnull, faulty_texts.2 (.inl h)⟩]
    | signatureType hw hu h =>
      have hnull := ne_null_of_item? hu
      right
      simp [(faulty_optional hes).2 ⟨_, hw, hnull, faulty_texts.2 (.inr ⟨_, _, hu, h⟩)⟩]
    | @version _ w name hname hw h =>
      have hfaulty (bound : Nat) : (versionPart es name bound).Faulty :=
        (faulty_versionPart hes).2 ⟨w, hw, h⟩
      simp only [versionFields, List.mem_cons, List.not_mem_nil, or_false] at hname
      right
      rcases hname with rfl | rfl | rfl | rfl | rfl | rfl <;> simp [hfaulty]

theorem faulty_checkReplacement : (checkReplacement d v).Faulty ↔ Invalid d .replacement v := by
  refine faulty_checkRecord_iff (fun es hes h => ?_) (fun es hes h => ?_)
  · simp only [Checked.faulty_seq, Checked.faulty_functor_map] at h
    rcases h with (h | h) | h
    · obtain ⟨w, hw, hnull, h⟩ := (faulty_optional hes).1 h
      exact .reference .caller hw hnull (faulty_checkCaller.1 h)
    · obtain ⟨w, hw, hnull, h⟩ := (faulty_optional hes).1 h
      exact .reference .target hw hnull (faulty_checkTarget.1 h)
    · obtain ⟨w, hw, hnull, h⟩ := (faulty_optional hes).1 h
      exact .reference .wrapper hw hnull (faulty_checkWrapper.1 h)
  · cases h with
    | other h => exact absurd hes (h es)
    | key hes' he h =>
      cases hes.symm.trans hes'
      exact .inl ⟨_, he, h⟩
    | missing hname h => exact absurd hname List.not_mem_nil
    | text hname hw hnull h => exact absurd hname List.not_mem_nil
    | reference k hw hnull h =>
      simp only [Checked.faulty_seq, Checked.faulty_functor_map]
      cases k with
      | caller => exact .inr (.inl (.inl ((faulty_optional hes).2
          ⟨_, hw, hnull, faulty_checkCaller.2 h⟩)))
      | target => exact .inr (.inl (.inr ((faulty_optional hes).2
          ⟨_, hw, hnull, faulty_checkTarget.2 h⟩)))
      | wrapper => exact .inr (.inr ((faulty_optional hes).2
          ⟨_, hw, hnull, faulty_checkWrapper.2 h⟩))

theorem faulty_checkIntegration : (checkIntegration d v).Faulty ↔ Invalid d .integration v := by
  have hlist (w : Value) : (checkList d (checkReplacement d) w).Faulty ↔
      listItems? d w = none ∨ ∃ j u, item? d w j = some u ∧ Invalid d .replacement u := by
    simp only [faulty_checkList, faulty_checkReplacement]
  refine faulty_checkRecord_iff (fun es hes h => ?_) (fun es hes h => ?_)
  · simp only [Checked.faulty_seq, Checked.faulty_functor_map] at h
    rcases h with h | h
    · exact .of_required hes (by decide) (by decide) h
    · obtain ⟨w, hw, h⟩ := (faulty_field hes).1 h
      rcases (hlist w).1 h with h | ⟨j, u, hu, h⟩
      · exact .replacements hw h
      · exact .replacement hw hu h
  · cases h with
    | other h => exact absurd hes (h es)
    | key hes' he h =>
      cases hes.symm.trans hes'
      exact .inl ⟨_, he, h⟩
    | missing hname h =>
      obtain rfl := List.mem_singleton.1 hname
      exact .inr (by simp [faulty_required_missing hes h])
    | text hname hw hnull h =>
      obtain rfl := List.mem_singleton.1 hname
      exact .inr (by simp [faulty_required_text hes hw h])
    | replacements hw h =>
      right
      simp [(faulty_field hes).2 ⟨_, hw, (hlist _).2 (.inl h)⟩]
    | replacement hw hu h =>
      right
      simp [(faulty_field hes).2 ⟨_, hw, (hlist _).2 (.inr ⟨_, _, hu, h⟩)⟩]

end

end ProfilerBootstrap.Manifest

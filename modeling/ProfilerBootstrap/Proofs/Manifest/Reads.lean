import Mathlib.Data.List.Forall2
import ProfilerBootstrap.Proofs.Manifest.Checked

namespace ProfilerBootstrap.Manifest

open Yaml (Value Items Document)

/-- The keys that a record knows. -/
def Model.fields : Model → List String
  | integration => ["name", "method_replacements"]
  | replacement => ["caller", "target", "wrapper"]
  | caller => ["assembly", "type", "method"]
  | target =>
    ["assembly", "type", "method", "signature_types", "minimum_major", "minimum_minor",
      "minimum_patch", "maximum_major", "maximum_minor", "maximum_patch"]
  | wrapper => ["assembly", "type", "method", "signature", "action"]

def Entries.value? (es : Entries) (name : String) : Option Value :=
  (es.find? (Entries.isNamed name)).map (·.2)

def field? (d : Document) (v : Value) (name : String) : Option Value :=
  match d.items? v with
  | some (.map es) => Entries.value? es name
  | _ => none

def item? (d : Document) (v : Value) (i : Nat) : Option Value := (listItems? d v).bind (·[i]?)

/-- The keys of a mapping that are no fields are texts, and with their values they are what a record
keeps. -/
def Keeps (d : Document) (fields : List String) (v : Value) (e : Extra) : Prop :=
  ∃ es, d.items? v = some (.map es) ∧ (Entries.unknown fields es).any Entries.isBroken = false ∧
    Entries.extra (Entries.unknown fields es) = .sound e

section
variable {α : Type} {d : Document} {fields : List String} {v : Value}

theorem Entries.field_eq (es : Entries) (name : String) (absent : Checked α)
    (check : Value → Checked α) :
    es.field name absent check = Checked.under (.name name) (match Entries.value? es name with
      | some v => check v
      | none => absent) := by
  unfold Entries.field Entries.value?
  cases es.find? (Entries.isNamed name) <;> rfl

theorem checkRecord_eq_sound {m : Model} {check : Entries → Checked (Extra → α)} {a : α} :
    checkRecord d m fields check v = .sound a ↔
      ∃ es h e, d.items? v = some (.map es) ∧
        (Entries.unknown fields es).any Entries.isBroken = false ∧ check es = .sound h ∧
        Entries.extra (Entries.unknown fields es) = .sound e ∧ h e = a := by
  unfold checkRecord
  constructor
  · intro hsound
    split at hsound
    · rename_i es hes
      simp only at hsound
      split at hsound
      · simp [Checked.fault] at hsound
      · rename_i hbroken
        obtain ⟨h, e, hh, he, hx⟩ := Checked.seq_eq_sound.1 hsound
        exact ⟨es, h, e, hes, Bool.eq_false_iff.2 hbroken, hh, he, hx⟩
    · simp [Checked.fault] at hsound
  · rintro ⟨es, h, e, hes, hbroken, hh, he, hx⟩
    simp only [hes, hbroken, Bool.false_eq_true, if_false]
    exact Checked.seq_eq_sound.2 ⟨h, e, hh, he, hx⟩

end

/-- The text that a value stands for: its own, or the one that its bytes encode. -/
inductive IsText : Value → Points → Prop
  | str (text : Points) : IsText (.str text) text
  | bytes {bs : List UInt8} {cs : List Char} (h : Decoding.decode .utf8 bs = .ok cs) :
    IsText (.bytes bs) (cs.map Char.toNat)

/-- The part of a version that a value stands for: the whole number that it is taken for, if this
lies within the bounds. -/
def IsVersionPart (v : Value) (n : Nat) : Prop := Integer.ofValue v = .ok n ∧ n ≤ 65535

def IsAction (v : Value) (a : WrapperAction) : Prop := IsText v (points a.name)

theorem checkText_eq_sound {v : Value} {text : Points} :
    checkText v = .sound text ↔ IsText v text := by
  constructor
  · intro h
    unfold checkText at h
    split at h
    · cases h
      exact .str _
    · split at h
      · cases h
        exact .bytes ‹_›
      · cases h
    · cases h
  · intro h
    cases h with
    | str => rfl
    | bytes h => simp only [checkText, h]

theorem checkVersionPart_eq_sound {v : Value} {n : Nat} :
    checkVersionPart v = .sound n ↔ IsVersionPart v n := by
  unfold checkVersionPart IsVersionPart maxVersionPart
  cases h : Integer.ofValue v with
  | error f => simp [Checked.fault]
  | ok m =>
    simp only [Except.ok.injEq]
    split
    · simp only [Checked.fault, reduceCtorEq, false_iff]
      omega
    · split
      · simp only [Checked.fault, reduceCtorEq, false_iff]
        omega
      · simp only [Checked.sound.injEq]
        omega

theorem checkAction_eq_sound {v : Value} {a : WrapperAction} :
    checkAction v = .sound a ↔ IsAction v a := by
  have hnames : ∀ a : WrapperAction, (points a.name).any isSurrogate = false ∧
      WrapperAction.all.find? (points ·.name = points a.name) = some a := by
    intro a
    cases a <;> decide
  unfold checkAction IsAction
  rw [← checkText_eq_sound]
  cases htext : checkText v with
  | faulty is => simp [Checked.fault]
  | sound text =>
    simp only [Checked.sound.injEq]
    constructor
    · intro h
      split at h
      · cases h
      · split at h
        · cases h
          have hname := List.find?_some ‹_›
          simpa [eq_comm] using hname
        · cases h
    · rintro rfl
      simp [hnames a]

section
variable {α : Type} (R : Value → α → Prop)

def Required : Option Value → α → Prop
  | some v, a => R v a
  | none, _ => False

/-- A field that is nothing where it is missing or null. -/
def Optionally : Option Value → Option α → Prop
  | none, a => a = none
  | some .null, a => a = none
  | some v, a => ∃ b, R v b ∧ a = some b

def WithDefault (default : α) : Option Value → α → Prop
  | some v, a => R v a
  | none, a => a = default

def ListOf (d : Document) (v : Value) (as : List α) : Prop :=
  ∃ vs, listItems? d v = some vs ∧ List.Forall₂ R vs as

end

theorem field?_eq {d : Document} {v : Value} {es : Entries} (hes : d.items? v = some (.map es))
    (name : String) : field? d v name = es.value? name := by
  rw [field?, hes]

section
variable {α : Type} {R : Value → α → Prop} {check : Value → Checked α}
  (hcheck : ∀ v a, check v = .sound a ↔ R v a)

include hcheck

theorem checkList_eq_sound {d : Document} {v : Value} {as : List α} :
    checkList d check v = .sound as ↔ ListOf R d v as := by
  have hitems (vs : List Value) : vs.map check = as.map .sound ↔ List.Forall₂ R vs as := by
    rw [← List.forall₂_eq_eq_eq, List.forall₂_map_left_iff, List.forall₂_map_right_iff]
    exact ⟨fun h => h.imp fun v a => (hcheck v a).1, fun h => h.imp fun v a => (hcheck v a).2⟩
  unfold checkList ListOf
  cases listItems? d v with
  | none => simp [Checked.fault]
  | some vs => simp [Checked.listFrom_eq_sound, hitems]

section
variable {d : Document} {v : Value} {es : Entries} (hes : d.items? v = some (.map es))
  {name : String}

include hes

theorem required_eq_sound {a : α} :
    es.required name check = .sound a ↔ Required R (field? d v name) a := by
  rw [Entries.required, Entries.field_eq, Checked.under_eq_sound, field?_eq hes]
  cases es.value? name with
  | none => simp [Checked.fault, Required]
  | some v => exact hcheck v a

theorem field_eq_sound {a default : α} :
    es.field name (.sound default) check = .sound a ↔
      WithDefault R default (field? d v name) a := by
  rw [Entries.field_eq, Checked.under_eq_sound, field?_eq hes]
  cases es.value? name with
  | none => simp [WithDefault, eq_comm]
  | some v => exact hcheck v a

theorem optional_eq_sound {a : Option α} :
    es.optional name check = .sound a ↔ Optionally R (field? d v name) a := by
  have hvalue (v : Value) (hv : v ≠ .null) :
      (check v).map some = .sound a ↔ ∃ b, R v b ∧ a = some b := by
    simp [hcheck, eq_comm]
  rw [Entries.optional, Entries.field_eq, Checked.under_eq_sound, field?_eq hes]
  cases es.value? name with
  | none => simp [Optionally, eq_comm]
  | some v =>
    cases v with
    | null => simp [checkOptional, Optionally, eq_comm]
    | _ => exact hvalue _ nofun

end

end

variable {d : Document} {v : Value}

structure CallerReference.Reads (d : Document) (v : Value) (a : CallerReference) : Prop where
  assembly : Optionally IsText (field? d v "assembly") a.assembly
  type : Optionally IsText (field? d v "type") a.type
  method : Optionally IsText (field? d v "method") a.method
  extra : Keeps d Model.caller.fields v a.extra

structure TargetReference.Reads (d : Document) (v : Value) (a : TargetReference) : Prop where
  assembly : Required IsText (field? d v "assembly") a.assembly
  type : Required IsText (field? d v "type") a.type
  method : Required IsText (field? d v "method") a.method
  signatureTypes : Optionally (ListOf IsText d) (field? d v "signature_types") a.signatureTypes
  minimumMajor : WithDefault IsVersionPart 0 (field? d v "minimum_major") a.minimumMajor
  minimumMinor : WithDefault IsVersionPart 0 (field? d v "minimum_minor") a.minimumMinor
  minimumPatch : WithDefault IsVersionPart 0 (field? d v "minimum_patch") a.minimumPatch
  maximumMajor : WithDefault IsVersionPart 65535 (field? d v "maximum_major") a.maximumMajor
  maximumMinor : WithDefault IsVersionPart 65535 (field? d v "maximum_minor") a.maximumMinor
  maximumPatch : WithDefault IsVersionPart 65535 (field? d v "maximum_patch") a.maximumPatch
  extra : Keeps d Model.target.fields v a.extra

structure WrapperReference.Reads (d : Document) (v : Value) (a : WrapperReference) : Prop where
  assembly : Required IsText (field? d v "assembly") a.assembly
  type : Required IsText (field? d v "type") a.type
  method : Optionally IsText (field? d v "method") a.method
  signature : Optionally IsText (field? d v "signature") a.signature
  action : WithDefault IsAction .none (field? d v "action") a.action
  extra : Keeps d Model.wrapper.fields v a.extra

structure MethodReplacement.Reads (d : Document) (v : Value) (a : MethodReplacement) : Prop where
  caller : Optionally (fun w b => CallerReference.Reads d w b) (field? d v "caller") a.caller
  target : Optionally (fun w b => TargetReference.Reads d w b) (field? d v "target") a.target
  wrapper : Optionally (fun w b => WrapperReference.Reads d w b) (field? d v "wrapper") a.wrapper
  extra : Keeps d Model.replacement.fields v a.extra

structure Integration.Reads (d : Document) (v : Value) (a : Integration) : Prop where
  name : Required IsText (field? d v "name") a.name
  replacements : WithDefault (ListOf (MethodReplacement.Reads d) d) []
    (field? d v "method_replacements") a.replacements
  extra : Keeps d Model.integration.fields v a.extra

section
variable {es : Entries} (hes : d.items? v = some (.map es)) {name : String}

include hes

theorem optional_text_eq_sound {text : Option Points} :
    es.optional name checkText = .sound text ↔ Optionally IsText (field? d v name) text :=
  optional_eq_sound (fun _ _ => checkText_eq_sound) hes

theorem required_text_eq_sound {text : Points} :
    es.required name checkText = .sound text ↔ Required IsText (field? d v name) text :=
  required_eq_sound (fun _ _ => checkText_eq_sound) hes

theorem versionPart_eq_sound {bound n : Nat} : versionPart es name bound = .sound n ↔
    WithDefault IsVersionPart bound (field? d v name) n :=
  field_eq_sound (fun _ _ => checkVersionPart_eq_sound) hes

end

theorem checkCaller_eq_sound {a : CallerReference} : checkCaller d v = .sound a ↔ a.Reads d v := by
  unfold checkCaller
  rw [checkRecord_eq_sound]
  constructor
  · rintro ⟨es, f, e, hes, hbroken, hf, he, rfl⟩
    obtain ⟨f₁, method, hf₁, hmethod, rfl⟩ := Checked.seq_eq_sound.1 hf
    obtain ⟨f₂, type, hf₂, htype, rfl⟩ := Checked.seq_eq_sound.1 hf₁
    obtain ⟨assembly, hassembly, rfl⟩ := Checked.functor_map_eq_sound.1 hf₂
    exact {
      assembly := (optional_text_eq_sound hes).1 hassembly
      type := (optional_text_eq_sound hes).1 htype
      method := (optional_text_eq_sound hes).1 hmethod
      extra := ⟨es, hes, hbroken, he⟩ }
  · intro h
    obtain ⟨es, hes, hbroken, he⟩ := h.extra
    refine ⟨es, fun e => { a with extra := e }, a.extra, hes, hbroken, ?_, he, rfl⟩
    rw [(optional_text_eq_sound hes).2 h.assembly, (optional_text_eq_sound hes).2 h.type,
      (optional_text_eq_sound hes).2 h.method]
    rfl

theorem checkWrapper_eq_sound {a : WrapperReference} :
    checkWrapper d v = .sound a ↔ a.Reads d v := by
  unfold checkWrapper
  rw [checkRecord_eq_sound]
  constructor
  · rintro ⟨es, f, e, hes, hbroken, hf, he, rfl⟩
    obtain ⟨f₁, action, hf₁, haction, rfl⟩ := Checked.seq_eq_sound.1 hf
    obtain ⟨f₂, signature, hf₂, hsignature, rfl⟩ := Checked.seq_eq_sound.1 hf₁
    obtain ⟨f₃, method, hf₃, hmethod, rfl⟩ := Checked.seq_eq_sound.1 hf₂
    obtain ⟨f₄, type, hf₄, htype, rfl⟩ := Checked.seq_eq_sound.1 hf₃
    obtain ⟨assembly, hassembly, rfl⟩ := Checked.functor_map_eq_sound.1 hf₄
    exact {
      assembly := (required_text_eq_sound hes).1 hassembly
      type := (required_text_eq_sound hes).1 htype
      method := (optional_text_eq_sound hes).1 hmethod
      signature := (optional_text_eq_sound hes).1 hsignature
      action := (field_eq_sound (fun _ _ => checkAction_eq_sound) hes).1 haction
      extra := ⟨es, hes, hbroken, he⟩ }
  · intro h
    obtain ⟨es, hes, hbroken, he⟩ := h.extra
    refine ⟨es, fun e => { a with extra := e }, a.extra, hes, hbroken, ?_, he, rfl⟩
    rw [(required_text_eq_sound hes).2 h.assembly, (required_text_eq_sound hes).2 h.type,
      (optional_text_eq_sound hes).2 h.method, (optional_text_eq_sound hes).2 h.signature,
      (field_eq_sound (fun _ _ => checkAction_eq_sound) hes).2 h.action]
    rfl

theorem checkTarget_eq_sound {a : TargetReference} : checkTarget d v = .sound a ↔ a.Reads d v := by
  have htypes (w : Value) (texts : List Points) :
      checkList d checkText w = .sound texts ↔ ListOf IsText d w texts :=
    checkList_eq_sound fun _ _ => checkText_eq_sound
  unfold checkTarget
  rw [checkRecord_eq_sound]
  constructor
  · rintro ⟨es, f, e, hes, hbroken, hf, he, rfl⟩
    obtain ⟨f₁, maximumPatch, hf₁, hmaximumPatch, rfl⟩ := Checked.seq_eq_sound.1 hf
    obtain ⟨f₂, maximumMinor, hf₂, hmaximumMinor, rfl⟩ := Checked.seq_eq_sound.1 hf₁
    obtain ⟨f₃, maximumMajor, hf₃, hmaximumMajor, rfl⟩ := Checked.seq_eq_sound.1 hf₂
    obtain ⟨f₄, minimumPatch, hf₄, hminimumPatch, rfl⟩ := Checked.seq_eq_sound.1 hf₃
    obtain ⟨f₅, minimumMinor, hf₅, hminimumMinor, rfl⟩ := Checked.seq_eq_sound.1 hf₄
    obtain ⟨f₆, minimumMajor, hf₆, hminimumMajor, rfl⟩ := Checked.seq_eq_sound.1 hf₅
    obtain ⟨f₇, signatureTypes, hf₇, hsignatureTypes, rfl⟩ := Checked.seq_eq_sound.1 hf₆
    obtain ⟨f₈, method, hf₈, hmethod, rfl⟩ := Checked.seq_eq_sound.1 hf₇
    obtain ⟨f₉, type, hf₉, htype, rfl⟩ := Checked.seq_eq_sound.1 hf₈
    obtain ⟨assembly, hassembly, rfl⟩ := Checked.functor_map_eq_sound.1 hf₉
    exact {
      assembly := (required_text_eq_sound hes).1 hassembly
      type := (required_text_eq_sound hes).1 htype
      method := (required_text_eq_sound hes).1 hmethod
      signatureTypes := (optional_eq_sound htypes hes).1 hsignatureTypes
      minimumMajor := (versionPart_eq_sound hes).1 hminimumMajor
      minimumMinor := (versionPart_eq_sound hes).1 hminimumMinor
      minimumPatch := (versionPart_eq_sound hes).1 hminimumPatch
      maximumMajor := (versionPart_eq_sound hes).1 hmaximumMajor
      maximumMinor := (versionPart_eq_sound hes).1 hmaximumMinor
      maximumPatch := (versionPart_eq_sound hes).1 hmaximumPatch
      extra := ⟨es, hes, hbroken, he⟩ }
  · intro h
    obtain ⟨es, hes, hbroken, he⟩ := h.extra
    refine ⟨es, fun e => { a with extra := e }, a.extra, hes, hbroken, ?_, he, rfl⟩
    rw [(required_text_eq_sound hes).2 h.assembly, (required_text_eq_sound hes).2 h.type,
      (required_text_eq_sound hes).2 h.method, (optional_eq_sound htypes hes).2 h.signatureTypes,
      (versionPart_eq_sound hes).2 h.minimumMajor, (versionPart_eq_sound hes).2 h.minimumMinor,
      (versionPart_eq_sound hes).2 h.minimumPatch, show maxVersionPart = 65535 from rfl,
      (versionPart_eq_sound hes).2 h.maximumMajor, (versionPart_eq_sound hes).2 h.maximumMinor,
      (versionPart_eq_sound hes).2 h.maximumPatch]
    rfl

theorem checkReplacement_eq_sound {a : MethodReplacement} :
    checkReplacement d v = .sound a ↔ a.Reads d v := by
  unfold checkReplacement
  rw [checkRecord_eq_sound]
  constructor
  · rintro ⟨es, f, e, hes, hbroken, hf, he, rfl⟩
    obtain ⟨f₁, wrapper, hf₁, hwrapper, rfl⟩ := Checked.seq_eq_sound.1 hf
    obtain ⟨f₂, target, hf₂, htarget, rfl⟩ := Checked.seq_eq_sound.1 hf₁
    obtain ⟨caller, hcaller, rfl⟩ := Checked.functor_map_eq_sound.1 hf₂
    exact {
      caller := (optional_eq_sound (fun _ _ => checkCaller_eq_sound) hes).1 hcaller
      target := (optional_eq_sound (fun _ _ => checkTarget_eq_sound) hes).1 htarget
      wrapper := (optional_eq_sound (fun _ _ => checkWrapper_eq_sound) hes).1 hwrapper
      extra := ⟨es, hes, hbroken, he⟩ }
  · intro h
    obtain ⟨es, hes, hbroken, he⟩ := h.extra
    refine ⟨es, fun e => { a with extra := e }, a.extra, hes, hbroken, ?_, he, rfl⟩
    rw [(optional_eq_sound (fun _ _ => checkCaller_eq_sound) hes).2 h.caller,
      (optional_eq_sound (fun _ _ => checkTarget_eq_sound) hes).2 h.target,
      (optional_eq_sound (fun _ _ => checkWrapper_eq_sound) hes).2 h.wrapper]
    rfl

theorem checkIntegration_eq_sound {a : Integration} :
    checkIntegration d v = .sound a ↔ a.Reads d v := by
  have hlist (w : Value) (rs : List MethodReplacement) :
      checkList d (checkReplacement d) w = .sound rs ↔ ListOf (MethodReplacement.Reads d) d w rs :=
    checkList_eq_sound fun _ _ => checkReplacement_eq_sound
  unfold checkIntegration
  rw [checkRecord_eq_sound]
  constructor
  · rintro ⟨es, f, e, hes, hbroken, hf, he, rfl⟩
    obtain ⟨f₁, rs, hf₁, hrs, rfl⟩ := Checked.seq_eq_sound.1 hf
    obtain ⟨name, hname, rfl⟩ := Checked.functor_map_eq_sound.1 hf₁
    exact {
      name := (required_text_eq_sound hes).1 hname
      replacements := (field_eq_sound hlist hes).1 hrs
      extra := ⟨es, hes, hbroken, he⟩ }
  · intro h
    obtain ⟨es, hes, hbroken, he⟩ := h.extra
    refine ⟨es, fun e => { a with extra := e }, a.extra, hes, hbroken, ?_, he, rfl⟩
    rw [(required_text_eq_sound hes).2 h.name, (field_eq_sound hlist hes).2 h.replacements]
    rfl

end ProfilerBootstrap.Manifest

import ProfilerBootstrap.Manifest.Load
import ProfilerBootstrap.Proofs.Manifest.Unknown
import ProfilerBootstrap.Proofs.Sequence

namespace ProfilerBootstrap.Manifest

open Yaml (Value Items Document Renumbering Ref)

/-- A key that a record can keep: a text without surrogates. -/
def keptKey? : Value → Option Points
  | .str text => if text.any isSurrogate then none else some text
  | _ => none

theorem keptKey?_eq_some {k : Value} {text : Points} :
    keptKey? k = some text ↔ k = .str text ∧ text.any isSurrogate = false := by
  cases k with
  | str t =>
    simp only [keptKey?, Value.str.injEq]
    constructor
    · intro h
      split at h
      · simp at h
      · rename_i hclean
        obtain rfl := Option.some.inj h
        exact ⟨rfl, Bool.eq_false_iff.2 hclean⟩
    · rintro ⟨rfl, hclean⟩
      rw [if_neg (Bool.eq_false_iff.1 hclean)]
  | _ => simp [keptKey?]

namespace Keeps

variable {d : Document} {fields : List String} {v : Value} {e : Extra} {es : Entries}
  (h : Keeps d fields v e) (hes : d.items? v = some (.map es))

include h hes

theorem entries : Entries.unknown fields es = e.entries := by
  obtain ⟨es', hes', -, he⟩ := h
  obtain rfl : es' = es := Items.map.inj (Option.some.inj (hes'.symm.trans hes))
  exact Entries.extra_eq_sound.1 he

theorem keptKey {x : Value × Value} (hx : x ∈ Entries.unknown fields es) :
    ∃ text, keptKey? x.1 = some text := by
  have hentries := h.entries hes
  obtain ⟨es', hes', hbroken, -⟩ := h
  obtain rfl : es' = es := Items.map.inj (Option.some.inj (hes'.symm.trans hes))
  have hclean := List.any_eq_false.1 hbroken x hx
  rw [hentries] at hx
  obtain ⟨y, -, rfl⟩ := List.mem_map.1 hx
  exact ⟨y.1, keptKey?_eq_some.2 ⟨rfl, Bool.eq_false_iff.2 hclean⟩⟩

end Keeps

theorem heap_of_check {m : Model} {d : Document} {x : Records} (hx : check m d = .sound x) :
    x.heap = d.heap := by
  obtain ⟨items, -, rfl⟩ := Checked.map_eq_sound.1 hx
  rfl

theorem keeps_of_valueAt {d : Document} {x : Records} (hx : check .integration d = .sound x)
    {p : Place} {u : Value} {es : Entries} (hu : valueAt d p = some u)
    (hes : d.items? u = some (.map es)) :
    ∃ e, x.extraAt p = some e ∧ Keeps d p.model.fields u e := by
  have hkeeps := keeps_of_check hx p
  cases he : x.extraAt p with
  | some e =>
    simp only [he] at hkeeps
    obtain ⟨w, hw, hkeeps⟩ := hkeeps
    obtain rfl := Option.some.inj (hu.symm.trans hw)
    exact ⟨e, rfl, hkeeps⟩
  | none =>
    simp only [he, hu, reduceCtorEq, Option.some.injEq, false_or] at hkeeps
    rw [hkeeps] at hes
    exact nomatch hes

/-- What two records keep, up to numbers, where the mapping of the second has one more entry. -/
def Gains (ρ : Renumbering) (fields : List String) (before after : Entries) (text : Points)
    (v : Value) (e e' : Option Extra) : Prop :=
  ∃ e₁ e₂, Entries.unknown fields before = e₁.entries ∧ Entries.unknown fields after = e₂.entries ∧
    (∀ x ∈ e₁ ++ e₂, x.1 ≠ text) ∧ e = some (e₁ ++ e₂) ∧
    e' = some (e₁.renumber ρ ++ (text, v) :: e₂.renumber ρ)

section
variable {ρ : Renumbering} {d d' : Document} {r : Ref} {before after : List (Value × Value)}
  {k v : Value} (h : d.Adds ρ d' r before after k v) (hk : UnknownAt d r k) {x x' : Records}
  (hx' : check .integration d' = .sound x') {p : Place}

include h hk hx'

/-- No record is read from a mapping whose new key it could not keep. -/
theorem keptKey_of_adds (hp : valueAt d p = some (.ref r)) : ∃ text, keptKey? k = some text := by
  have hvalue := h.valueAt_value hk p
  rw [hp, Option.map_some] at hvalue
  obtain ⟨e', he', hkeeps'⟩ := keeps_of_valueAt hx' hvalue h.new
  refine hkeeps'.keptKey h.new (x := (k, v)) ?_
  rw [Entries.unknown_insert (hk.isNamed hp rfl)]
  simp

variable (hx : check .integration d = .sound x)

include hx

theorem extraAt_of_ne (hp : valueAt d p ≠ some (.ref r)) :
    x'.extraAt p = (x.extraAt p).map (Extra.renumber ρ) := by
  have hold := keeps_of_check hx p
  have hvalue := h.valueAt_value hk p
  cases he : x.extraAt p with
  | some e =>
    simp only [he] at hold
    obtain ⟨u, hu, hkeeps⟩ := hold
    obtain ⟨es, hes, -⟩ := id hkeeps
    rw [hu, Option.map_some] at hvalue
    have hes' : d'.items? (ρ.value u) = some (.map (es.map ρ.entry)) := by
      rw [h.items?_of_ne fun hr => hp (hr ▸ hu), hes]
      rfl
    obtain ⟨e', he', hkeeps'⟩ := keeps_of_valueAt hx' hvalue hes'
    have hentries := hkeeps'.entries hes'
    rw [unknown_entries, hkeeps.entries hes, ← Extra.entries_renumber] at hentries
    rw [he', Option.map_some, Extra.entries_injective hentries]
  | none =>
    cases he' : x'.extraAt p with
    | none => rfl
    | some e' =>
      have hnew := keeps_of_check hx' p
      simp only [he] at hold
      simp only [he', hvalue] at hnew
      obtain ⟨u', hu', es', hes', -⟩ := hnew
      obtain hnone | hnull := hold
      · simp [hnone] at hu'
      · rw [hnull] at hu'
        obtain rfl := Option.some.inj hu'
        exact nomatch hes'

theorem gains_of_adds {text : Points} (hkept : keptKey? k = some text)
    (hnew : ∀ e ∈ before ++ after, (ρ.value e.1).same k = false)
    (hp : valueAt d p = some (.ref r)) :
    Gains ρ p.model.fields before after text v (x.extraAt p) (x'.extraAt p) := by
  obtain ⟨e, he, hkeeps⟩ := keeps_of_valueAt hx hp h.old
  have hvalue := h.valueAt_value hk p
  rw [hp, Option.map_some] at hvalue
  obtain ⟨e', he', hkeeps'⟩ := keeps_of_valueAt hx' hvalue h.new
  have hold := hkeeps.entries h.old
  have hnew' := hkeeps'.entries h.new
  obtain ⟨e₁, e₂, rfl, he₁, he₂⟩ : ∃ e₁ e₂ : Extra, e = e₁ ++ e₂ ∧
      e₁.entries = Entries.unknown p.model.fields before ∧
      e₂.entries = Entries.unknown p.model.fields after :=
    List.append_eq_map_iff.1 ((Entries.unknown_append ..).symm.trans hold)
  obtain ⟨rfl, -⟩ := keptKey?_eq_some.1 hkept
  refine ⟨e₁, e₂, he₁.symm, he₂.symm, fun y hy htext => ?_, he, ?_⟩
  · have hmem : (Value.str y.1, y.2) ∈ Entries.unknown p.model.fields (before ++ after) := by
      rw [hold]
      exact List.mem_map_of_mem hy
    have hsame := hnew _ (List.mem_filter.1 hmem).1
    simp [Renumbering.value, Value.same, Value.whole?, htext] at hsame
  · rw [Entries.unknown_insert (hk.isNamed hp rfl), unknown_entries, unknown_entries, ← he₁, ← he₂]
      at hnew'
    rw [he']
    congr 1
    apply Extra.entries_injective
    rw [← hnew', Extra.entries_insert, Extra.entries_renumber, Extra.entries_renumber]

end

section
variable {fs : FileSystem} {m : Model} {path : String} {bytes : ByteArray} {d : Document}
  (hbytes : fs.bytesAt path = .ok bytes) (hread : Document.read bytes.toList = .ok d)

include hbytes hread

theorem load_eq_check : load fs m path = match check m d with
    | .sound x => ⟨.ok x, []⟩
    | .faulty issues => disable (.file path (.shape m issues)) := by
  unfold load ofBytes
  rw [hbytes]
  simp only [hread]
  cases check m d <;> rfl

theorem load_eq_ok_iff {x : Records} : load fs m path = ⟨.ok x, []⟩ ↔ check m d = .sound x := by
  rw [load_eq_check hbytes hread]
  cases check m d with
  | sound y => simp
  | faulty issues =>
    refine iff_of_false (fun h => ?_) (by simp)
    have hvalue := congrArg Logged.value h
    exact nomatch hvalue

end

/-- One more key in a mapping, which none of the records that are read from it knows. If it is a
text without surrogates, the manifest is still accepted, its records are the same in what they know,
and those that are read from the mapping keep the new entry, in its place among the unknown ones,
while the others keep what they did. If it is any other key, the manifest is refused, and this
disables the profiler. -/
theorem load_unknown_key {fs fs' : FileSystem} {path path' : String} {bytes bytes' : ByteArray}
    {d d' : Document} {ρ : Renumbering} {r : Ref} {before after : List (Value × Value)} {k v : Value}
    {x : Records} (hbytes : fs.bytesAt path = .ok bytes) (hbytes' : fs'.bytesAt path' = .ok bytes')
    (hread : Document.read bytes.toList = .ok d) (hread' : Document.read bytes'.toList = .ok d')
    (hadds : d.Adds ρ d' r before after k v) (hplace : ∃ p, valueAt d p = some (.ref r))
    (hunknown : UnknownAt d r k) (hnew : ∀ e ∈ before ++ after, (ρ.value e.1).same k = false)
    (hload : load fs .integration path = ⟨.ok x, []⟩) :
    match keptKey? k with
    | some text => ∃ x', load fs' .integration path' = ⟨.ok x', []⟩ ∧ x'.heap = d'.heap ∧
        x'.items.map Record.bare = x.items.map Record.bare ∧
        (∀ p, valueAt d p = some (.ref r) →
          Gains ρ p.model.fields before after text v (x.extraAt p) (x'.extraAt p)) ∧
        ∀ p, valueAt d p ≠ some (.ref r) → x'.extraAt p = (x.extraAt p).map (Extra.renumber ρ)
    | none => ∃ issues,
        load fs' .integration path' = disable (.file path' (.shape .integration issues)) := by
  have hx := (load_eq_ok_iff hbytes hread).1 hload
  cases hkept : keptKey? k with
  | some text =>
    obtain ⟨rfl, htext⟩ := keptKey?_eq_some.1 hkept
    obtain ⟨x', hx', hbare⟩ := (agree_check hadds htext hunknown).sound_left hx
    refine ⟨x', (load_eq_ok_iff hbytes' hread').2 hx', heap_of_check hx', hbare, fun p hp => ?_,
      fun p hp => ?_⟩
    · exact gains_of_adds hadds hunknown hx' hx hkept hnew hp
    · exact extraAt_of_ne hadds hunknown hx' hx hp
  | none =>
    rw [load_eq_check hbytes' hread']
    cases hx' : check .integration d' with
    | faulty issues => exact ⟨issues, rfl⟩
    | sound x' =>
      obtain ⟨p, hp⟩ := hplace
      obtain ⟨text, htext⟩ := keptKey_of_adds hadds hunknown hx' hp
      exact nomatch hkept.symm.trans htext

def single (es : Entries) : Document := ⟨#[.list [.ref 1], .map es], .ref 0⟩

def isSamePlain : Value → Value → Bool
  | .str s, .str t => s = t
  | .int m, .int n => m = n
  | _, _ => false

def areSamePlain : Entries → Entries → Bool
  | [], [] => true
  | e :: es, e' :: es' => isSamePlain e.1 e'.1 && isSamePlain e.2 e'.2 && areSamePlain es es'
  | _, _ => false

def isSingle (es : Entries) : Except Yaml.Error Document → Bool
  | .ok ⟨⟨[.list [.ref 1], .map es']⟩, .ref 0⟩ => areSamePlain es' es
  | _ => false

theorem eq_of_isSamePlain {v w : Value} (h : isSamePlain v w = true) : v = w := by
  cases v <;> cases w <;> simp_all [isSamePlain]

theorem eq_of_areSamePlain {es es' : Entries} (h : areSamePlain es es' = true) : es = es' := by
  induction es generalizing es' with
  | nil => cases es' <;> simp_all [areSamePlain]
  | cons e es ih =>
    cases es' with
    | nil => simp [areSamePlain] at h
    | cons e' es' =>
      simp only [areSamePlain, Bool.and_eq_true] at h
      obtain ⟨⟨hkey, hvalue⟩, hrest⟩ := h
      rw [ih hrest, Prod.ext (eq_of_isSamePlain hkey) (eq_of_isSamePlain hvalue)]

theorem eq_of_isSingle {es : Entries} {r : Except Yaml.Error Document} (h : isSingle es r = true) :
    r = .ok (single es) := by
  unfold isSingle at h
  split at h
  · rw [eq_of_areSamePlain h]
    rfl
  · exact nomatch h

theorem value_id (v : Value) : Renumbering.value ⟨id, id⟩ v = v := by
  induction v with
  | nan source => cases source <;> rfl
  | pair a b iha ihb => rw [Renumbering.value, iha, ihb]
  | _ => rfl

theorem adds_single (es : Entries) (k v : Value) :
    (single es).Adds ⟨id, id⟩ (single (es ++ [(k, v)])) 1 es [] k v where
  root := rfl
  old := congrArg (some ∘ Items.map) (List.append_nil es).symm
  new := by
    have hentry : Renumbering.entry ⟨id, id⟩ = id :=
      funext fun e => Prod.ext (value_id e.1) (value_id e.2)
    rw [hentry, List.map_id]
    rfl
  others s hs := by
    match s with
    | 0 => rfl
    | 1 => exact absurd rfl hs
    | n + 2 => rfl

/-- A text is kept by the one record of a manifest, and the number one is not. -/
theorem load_unknown_key_text_and_number :
    let fs (text : String) : FileSystem := ((FileSystem.fresh [['r']]).writeFile "m.yml"
      text.toUTF8).toOption.getD (.fresh [])
    (∃ x', load (fs "- name: X\n  a: 1\n") .integration "m.yml" = ⟨.ok x', []⟩ ∧
      x'.extraAt (.integration 0) = some [(points "a", .int 1)]) ∧
    ∃ issues, load (fs "- name: X\n  1: a\n") .integration "m.yml" =
      disable (.file "m.yml" (.shape .integration issues)) := by
  intro fs
  let es : Entries := [(.str (points "name"), .str (points "X"))]
  have hold : (fs "- name: X\n").bytesAt "m.yml" = .ok "- name: X\n".toUTF8 :=
    eq_ok_of_toOption (by decide +kernel)
  have htext : (fs "- name: X\n  a: 1\n").bytesAt "m.yml" = .ok "- name: X\n  a: 1\n".toUTF8 :=
    eq_ok_of_toOption (by decide +kernel)
  have hnumber : (fs "- name: X\n  1: a\n").bytesAt "m.yml" = .ok "- name: X\n  1: a\n".toUTF8 :=
    eq_ok_of_toOption (by decide +kernel)
  have hread : Document.read "- name: X\n".toUTF8.toList = .ok (single es) :=
    eq_of_isSingle (by decide +kernel)
  have hreadText : Document.read "- name: X\n  a: 1\n".toUTF8.toList =
      .ok (single (es ++ [(.str (points "a"), .int 1)])) := eq_of_isSingle (by decide +kernel)
  have hreadNumber : Document.read "- name: X\n  1: a\n".toUTF8.toList =
      .ok (single (es ++ [(.int 1, .str (points "a"))])) := eq_of_isSingle (by decide +kernel)
  clear_value fs
  have hload : load (fs "- name: X\n") .integration "m.yml" = ⟨.ok
      ⟨(single es).heap, [.integration ⟨points "X", [], []⟩]⟩, []⟩ :=
    (load_eq_ok_iff hold hread).2 rfl
  have hplace : valueAt (single es) (.integration 0) = some (.ref 1) := rfl
  have hfields : ∀ m : Model, ∀ name ∈ m.fields, points "a" ≠ points name := by
    intro m
    cases m <;> decide
  constructor
  · obtain ⟨x', hx', -, -, hgains, -⟩ := load_unknown_key hold htext hread hreadText
      (adds_single es (.str (points "a")) (.int 1)) ⟨_, hplace⟩
      (fun p _ name hname h => hfields _ name hname (Value.str.inj h)) (by decide) hload
    obtain ⟨e₁, e₂, he₁, he₂, -, -, he⟩ := hgains _ hplace
    obtain rfl : e₁ = [] := List.map_eq_nil_iff.1 he₁.symm
    obtain rfl : e₂ = [] := List.map_eq_nil_iff.1 he₂.symm
    exact ⟨x', hx', he⟩
  · exact load_unknown_key hold hnumber hread hreadNumber
      (adds_single es (.int 1) (.str (points "a"))) ⟨_, hplace⟩
      (fun _ _ _ _ h => nomatch h) (by decide) hload

end ProfilerBootstrap.Manifest

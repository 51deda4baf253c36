import ProfilerBootstrap.Proofs.Manifest.Alike

namespace ProfilerBootstrap.Manifest

open Yaml (Value Items Document Renumbering Ref)

def CallerReference.bare (a : CallerReference) : CallerReference := { a with extra := [] }

def TargetReference.bare (a : TargetReference) : TargetReference := { a with extra := [] }

def WrapperReference.bare (a : WrapperReference) : WrapperReference := { a with extra := [] }

def MethodReplacement.bare (a : MethodReplacement) : MethodReplacement :=
  ⟨a.caller.map (·.bare), a.target.map (·.bare), a.wrapper.map (·.bare), []⟩

def Integration.bare (a : Integration) : Integration := ⟨a.name, a.replacements.map (·.bare), []⟩

def Record.bare : Record → Record
  | integration a => .integration a.bare
  | replacement a => .replacement a.bare
  | caller a => .caller a.bare
  | target a => .target a.bare
  | wrapper a => .wrapper a.bare

section
variable {ρ : Renumbering} {d d' : Document} {r : Ref} {before after : List (Value × Value)}
  {text : Points} {u v : Value} (h : d.Adds ρ d' r before after (.str text) v)
  (htext : text.any isSurrogate = false)

include h htext

/-- What a record knows is found in its mapping as before, and what it does not know has the same
issues. -/
theorem recordsAlike_of_adds {fields : List String} {R : Extra → Extra → Prop}
    (hR : ∀ e e', R e e')
    (hk : u = .ref r → ∀ name ∈ fields, Entries.isNamed name (.str text, v) = false) :
    RecordsAlike ρ d d' fields R u := by
  by_cases hu : u = .ref r
  · subst hu
    refine .mapping h.old h.new (fun name hname => ?_) ?_ ?_
    · rw [Entries.value?_insert (hk rfl name hname), ← List.map_append]
      exact value?_entries ρ name _
    · have hnew : Entries.isBroken (.str text, v) = false := htext
      rw [Entries.unknown_insert (hk rfl), unknown_entries, unknown_entries,
        Entries.unknown_append, List.any_append, List.any_cons, hnew, Bool.false_or,
        any_isBroken_entries, any_isBroken_entries, List.any_append]
    · rw [Entries.unknown_insert (hk rfl), unknown_entries, unknown_entries,
        Entries.unknown_append]
      -- one more text as a key has no issue, and hides none
      have hafter : Checked.Agree (fun _ _ => True) (Entries.extra (Entries.unknown fields after))
          (Entries.extra ((.str text, v) :: (Entries.unknown fields after).map ρ.entry)) :=
        (Entries.agree_extra_renumber ρ _).map_right fun _ _ _ => trivial
      exact (Entries.agree_extra_append ρ hafter _).mono fun e e' _ => hR e e'
  · exact .of_items? (h.items?_of_ne hu) fun _ => hR _ _

variable (hk : UnknownAt d r (.str text)) {i j : Nat}

include hk

theorem agree_replacementAt (hu : valueAt d (.replacement i j) = some u) :
    Checked.Agree (fun a b => b.bare = a.bare) (checkReplacement d u)
      (checkReplacement d' (ρ.value u)) := by
  have halike {p : Place} {u : Value} (hu : valueAt d p = some u) :
      RecordsAlike ρ d d' p.model.fields
        (fun e e' => (fun _ => []) e' = (fun _ => ([] : Extra)) e) u :=
    recordsAlike_of_adds h htext (fun _ _ => rfl) (hk.isNamed hu)
  have hplace (k : Reference) (w : Value) (hw : field? d u k.name = some w) :
      valueAt d (.reference k i j) = some w := by
    rw [valueAt, show replacementAt d i j = some u from hu]
    exact hw
  refine agree_checkReplacement (halike hu) (fun w hw => ?_) (fun w hw => ?_) (fun w hw => ?_)
  · exact agree_checkCaller (halike (hplace .caller w hw))
  · exact agree_checkTarget (halike (hplace .target w hw)) fun l _ =>
      checkList_of_listItems? (h.listItems?_value l) (checkText_value ρ)
  · exact agree_checkWrapper (halike (hplace .wrapper w hw))

theorem agree_integrationAt (hu : valueAt d (.integration i) = some u) :
    Checked.Agree (fun a b => b.bare = a.bare) (checkIntegration d u)
      (checkIntegration d' (ρ.value u)) := by
  refine agree_checkIntegration (recordsAlike_of_adds h htext (fun _ _ => rfl) (hk.isNamed hu))
    fun l hl => agree_checkList_of_listItems? (h.listItems?_value l) fun j w hw => ?_
  refine agree_replacementAt h htext hk (i := i) (j := j) ?_
  rw [valueAt, replacementAt, show integrationAt d i = some u from hu, Option.bind_some, hl]
  exact hw

/-- A manifest has the same records as before but for unknown keys, or the same issues. -/
theorem agree_check :
    Checked.Agree (fun x y => y.items.map Record.bare = x.items.map Record.bare)
      (check .integration d) (check .integration d') := by
  unfold check
  rw [h.root]
  refine (agree_checkList_of_listItems? (h.listItems?_value d.root) fun n w hw => ?_).map
    fun as bs hab => hab
  exact (agree_integrationAt h htext hk hw).map fun a b hab => congrArg Record.integration hab

end

end ProfilerBootstrap.Manifest

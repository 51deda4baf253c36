import ProfilerBootstrap.CommandLine.Run
import ProfilerBootstrap.Proofs.Console.Markup
import ProfilerBootstrap.Proofs.Console.Shown
import ProfilerBootstrap.Proofs.Manifest.Accepted
import ProfilerBootstrap.Proofs.Number
import ProfilerBootstrap.Proofs.Text.Case

namespace ProfilerBootstrap.CommandLine

open Console
open Manifest (Integration Records)

section
variable {p q : Points} {ps : List Points}

theorem mem_insertDistinct : q ∈ insertDistinct p ps ↔ q = p ∨ q ∈ ps := by
  induction ps with
  | nil => simp [insertDistinct]
  | cons r ps ih =>
    unfold insertDistinct
    split
    · simp_all
    · split
      · simp
      · simp [ih, or_left_comm]

theorem pairwise_insertDistinct (h : ps.Pairwise (· < ·)) :
    (insertDistinct p ps).Pairwise (· < ·) := by
  induction ps with
  | nil => simp [insertDistinct]
  | cons r ps ih =>
    obtain ⟨hfirst, hrest⟩ := List.pairwise_cons.1 h
    unfold insertDistinct
    split
    · exact h
    · split
      · rename_i hlt
        refine List.pairwise_cons.2 ⟨fun q hq => ?_, h⟩
        rcases List.mem_cons.1 hq with rfl | hq
        · exact hlt
        · exact List.lt_trans hlt (hfirst q hq)
      · rename_i hne hnlt
        have hlt : r < p := Decidable.byContradiction fun hngt =>
          hne (List.le_antisymm (List.not_lt.1 hngt) (List.not_lt.1 hnlt))
        refine List.pairwise_cons.2 ⟨fun q hq => ?_, ih hrest⟩
        rcases mem_insertDistinct.1 hq with rfl | hq
        · exact hlt
        · exact hfirst q hq

end

theorem pairwise_assemblies (i : Integration) : (assemblies i).Pairwise (· < ·) := by
  unfold assemblies
  induction i.replacements.filterMap fun r => r.target.map (·.assembly) with
  | nil => exact .nil
  | cons p ps ih => exact pairwise_insertDistinct ih

theorem mem_assemblies {i : Integration} {p : Points} :
    p ∈ assemblies i ↔ ∃ r ∈ i.replacements, ∃ t, r.target = some t ∧ t.assembly = p := by
  have hmem (ps : List Points) : p ∈ ps.foldr insertDistinct [] ↔ p ∈ ps := by
    induction ps with
    | nil => rfl
    | cons q ps ih => rw [List.foldr_cons, mem_insertDistinct, ih, List.mem_cons]
  simp [assemblies, hmem]

def assembliesMarkup (i : Integration) : List Char :=
  (String.intercalate ", " ((assemblies i).map ofPoints)).toList

def nameCell (i : Integration) : List Char :=
  Markup.visible ((Markup.stretches (Markup.closed (ofPoints i.name).toList)).flatMap
    Markup.shownText)

/-- A row as it is shown, if its markup does not fail. -/
def shownRow (events : Markup.EventReader) (i : Integration) : List Shown :=
  [.plain (nameCell i), .plain (toString i.replacements.length).toList,
    ⟨Markup.shown (assembliesMarkup i), Markup.broken events (assembliesMarkup i)⟩]

theorem render_name (events : Markup.EventReader) (i : Integration) :
    Markup.render events (escaped (ofPoints i.name)) = .ok (.plain (nameCell i)) :=
  Markup.render_escape events _

theorem render_number (events : Markup.EventReader) (n : Nat) :
    Markup.render events (toString n).toList = .ok (.plain (toString n).toList) := by
  have hne {c d : Char} (hc : c ∈ (toString n).toList) (hd : d.isDigit = false) : c ≠ d := by
    rintro rfl
    exact Bool.false_ne_true (hd.symm.trans (Text.isDigit_of_mem_toString hc))
  refine Markup.render_of_no_bracket events (fun c hc => ⟨hne hc rfl, hne hc rfl, ?_⟩)
    fun hc => hne hc rfl rfl
  have hlow : 48 ≤ c.toNat := by
    have hdigit := Text.isDigit_of_mem_toString hc
    simp only [Char.isDigit, Bool.and_eq_true, decide_eq_true_eq] at hdigit
    exact hdigit.1
  simp only [Markup.isStripped, List.contains_eq_mem, decide_eq_false_iff_not, List.mem_cons,
    List.not_mem_nil, or_false]
  omega

theorem mapM_render_integrationRow (events : Markup.EventReader) (i : Integration) :
    (integrationRow i).mapM (Markup.render events) =
      (Markup.error? events (assembliesMarkup i)).elim (.ok (shownRow events i)) .error := by
  have hassemblies := Markup.render_eq events (assembliesMarkup i)
  change List.mapM (Markup.render events) [escaped (ofPoints i.name),
    (toString i.replacements.length).toList, assembliesMarkup i] = _
  rw [List.mapM_cons, List.mapM_cons, List.mapM_cons, render_name, render_number, hassemblies]
  cases Markup.error? events (assembliesMarkup i) <;> rfl

def shownTable (events : Markup.EventReader) (is : List Integration) : Table :=
  (integrationsDraft is).table (is.map (shownRow events))

/-- The table where there is no room for the text of a cell. -/
def blankTable (is : List Integration) : Table :=
  (integrationsDraft is).table (is.map fun _ => List.replicate 3 (.plain []))

/-- The cells that the lines of the table and the blanks beside its texts take. -/
def integrationsMargin : Nat := 6

theorem read_integrationsDraft (screen : Screen) (is : List Integration) :
    (integrationsDraft is).read screen =
      if screen.width ≤ integrationsMargin then .ok (blankTable is)
      else match is.findSome? fun i => Markup.error? screen.events (assembliesMarkup i) with
        | some e => .error e
        | none =>
          if (shownTable screen.events is).drawsBroken screen.width then .error .noDigits
          else .ok (shownTable screen.events is) := by
  have hmargin : screen.width - ((integrationsDraft is).columns.length + 1) ≤ Table.padding ↔
      screen.width ≤ integrationsMargin := by
    change screen.width - 4 ≤ 2 ↔ screen.width ≤ 6
    omega
  have hrows := mapM_eq_findSome? (mapM_render_integrationRow screen.events) is
  unfold Draft.read
  simp only [hmargin]
  split
  · simp [blankTable, integrationsDraft, integrationRow, Function.comp_def]
  · have hmap : (integrationsDraft is).rows.mapM (List.mapM (Markup.render screen.events)) =
        is.mapM fun i => (integrationRow i).mapM (Markup.render screen.events) := List.mapM_map
    rw [hmap, hrows]
    cases is.findSome? fun i => Markup.error? screen.events (assembliesMarkup i) <;> rfl

section
variable {α β : Type}

theorem map_intercalate (f : α → β) (sep : List α) (ls : List (List α)) :
    (sep.intercalate ls).map f = (sep.map f).intercalate (ls.map (List.map f)) := by
  induction ls with
  | nil => rfl
  | cons l ls ih =>
    cases ls with
    | nil => simp
    | cons m ms =>
      simp only [List.intercalate_cons_cons, List.map_cons, List.map_append] at ih ⊢
      rw [ih]

theorem forall_mem_intercalate {P : α → Prop} {sep : List α} {ls : List (List α)}
    (hsep : ∀ a ∈ sep, P a) (hls : ∀ l ∈ ls, ∀ a ∈ l, P a) : ∀ a ∈ sep.intercalate ls, P a := by
  induction ls with
  | nil => simp
  | cons l ls ih =>
    obtain ⟨hl, hrest⟩ := List.forall_mem_cons.1 hls
    cases ls with
    | nil => simpa using hl
    | cons m ms =>
      rw [List.intercalate_cons_cons]
      simp only [List.forall_mem_append]
      exact ⟨⟨hl, hsep⟩, ih hrest⟩

end

theorem map_toNat_ofNat {p : Points} (h : ∀ n ∈ p, n.isValidChar) :
    (p.map Char.ofNat).map Char.toNat = p := by
  rw [List.map_map]
  exact (List.map_congr_left fun n hn => toNat_ofNat (h n hn)).trans (List.map_id p)

theorem assembliesMarkup_eq (i : Integration) :
    assembliesMarkup i = ", ".toList.intercalate ((assemblies i).map (List.map Char.ofNat)) := by
  simp [assembliesMarkup, ofPoints, Function.comp_def]

theorem nameCell_of_settled {i : Integration} (hvalid : ∀ n ∈ i.name, n.isValidChar)
    (hsettled : Markup.Settled (i.name.map Char.ofNat)) : (nameCell i).map Char.toNat = i.name := by
  -- whatever reads events, there is none in a name
  have hshown := render_name (fun _ => none) i
  rw [escaped, ofPoints, String.toList_ofList, hsettled.render_escape] at hshown
  have hname : i.name.map Char.ofNat = nameCell i := congrArg Shown.text (Except.ok.inj hshown)
  rw [← hname, map_toNat_ofNat hvalid]

section
variable {i : Integration}
  (h : ∀ p ∈ assemblies i, ∀ n ∈ p, n.isValidChar ∧ Markup.IsOrdinary (Char.ofNat n))

include h

theorem map_assembliesMarkup :
    (assembliesMarkup i).map Char.toNat = (points ", ").intercalate (assemblies i) := by
  have hpoints : (assemblies i).map (List.map Char.toNat ∘ List.map Char.ofNat) = assemblies i :=
    (List.map_congr_left fun p hp => map_toNat_ofNat fun n hn => (h p hp n hn).1).trans
      (List.map_id _)
  rw [assembliesMarkup_eq, map_intercalate, List.map_map, hpoints]
  rfl

theorem isOrdinary_assembliesMarkup : ∀ c ∈ assembliesMarkup i, Markup.IsOrdinary c := by
  have hseparator : ∀ c ∈ [',', ' '], Markup.IsOrdinary c :=
    List.forall_mem_cons.2 ⟨by decide, List.forall_mem_singleton.2 (by decide)⟩
  rw [assembliesMarkup_eq]
  refine forall_mem_intercalate hseparator fun cs hcs c hc => ?_
  obtain ⟨p, hp, rfl⟩ := List.mem_map.1 hcs
  obtain ⟨n, hn, rfl⟩ := List.mem_map.1 hc
  exact (h p hp n hn).2

/-- Assemblies of ordinary characters are shown as they are just if there is no tag in them. -/
theorem assembliesMarkup_literal_iff (events : Markup.EventReader) :
    (Markup.error? events (assembliesMarkup i) = none ∧
        (Markup.shown (assembliesMarkup i)).map Char.toNat =
          (points ", ").intercalate (assemblies i)) ↔
      ∀ t ∈ Markup.Token.ofText (assembliesMarkup i), t.isTag = false := by
  have hinjective : Function.Injective (List.map Char.toNat) :=
    List.map_injective_iff.2 fun _ _ => Char.toNat_inj.1
  rw [← map_assembliesMarkup h, hinjective.eq_iff,
    Markup.shown_eq_self_iff (isOrdinary_assembliesMarkup h)]

end

/-- What is shown of an integration. The name is text, and the assemblies are those of the targets,
each once and in ascending order; of them tags are obeyed. -/
structure Listed (events : Markup.EventReader) (i : Integration) : Prop where
  name : (∀ n ∈ i.name, n.isValidChar) → Markup.Settled (i.name.map Char.ofNat) →
    (nameCell i).map Char.toNat = i.name
  ascending : (assemblies i).Pairwise (· < ·)
  targets : ∀ p, p ∈ assemblies i ↔ ∃ r ∈ i.replacements, ∃ t, r.target = some t ∧ t.assembly = p
  literal_iff : (∀ p ∈ assemblies i, ∀ n ∈ p, n.isValidChar ∧ Markup.IsOrdinary (Char.ofNat n)) →
    ((Markup.error? events (assembliesMarkup i) = none ∧
        (Markup.shown (assembliesMarkup i)).map Char.toNat =
          (points ", ").intercalate (assemblies i)) ↔
      ∀ t ∈ Markup.Token.ofText (assembliesMarkup i), t.isTag = false)
  drawn : (∀ t ∈ Markup.Token.ofText (assembliesMarkup i), t.isTag = false) →
    Markup.error? events (assembliesMarkup i) = none ∧
      Markup.broken events (assembliesMarkup i) = []

theorem listed (events : Markup.EventReader) (i : Integration) : Listed events i where
  name := nameCell_of_settled
  ascending := pairwise_assemblies i
  targets _ := mem_assemblies
  literal_iff h := assembliesMarkup_literal_iff h events
  drawn h := ⟨Markup.error?_of_texts events (Markup.isText_of_no_tag h),
    Markup.broken_of_texts events (Markup.isText_of_no_tag h)⟩

section
variable {path : String} (h : path.toList.head? ≠ some '-')

include h

theorem ofText_of_path (page : Page) : Word.ofText page path = .ok .operand := by
  unfold Word.ofText
  exact if_pos h

/-- A path that does not look like a parameter is read as the value of one. -/
theorem ofTexts_integrations :
    Request.ofTexts ["integrations", "--path", path] = .ok ⟨none, .integrations (some path)⟩ := by
  have hseparator : path ≠ "--" := by
    rintro rfl
    exact h (by decide)
  have hcommand : Word.ofText .overview "integrations" = .ok .operand := ofText_of_path (by decide) _
  have hunknown : Word.ofText .overview "--path" = .ok .unknown :=
    eq_ok_of_toOption (by decide +kernel)
  have hparameter : Word.ofText (.command .integrations) "--path" = .ok (.parameter .path none) :=
    eq_ok_of_toOption (by decide +kernel)
  have houter : Reading.ofTexts .overview ["integrations", "--path", path] =
      .ok ⟨none, [], some ("integrations", ["--path", path])⟩ := by
    simp [Reading.ofTexts, Word.ofTexts, hcommand, hunknown, ofText_of_path h, hseparator,
      Reading.read, Reading.empty, bind, Except.bind, pure, Except.pure]
  have hinner : Reading.ofTexts (.command .integrations) ["--path", path] =
      .ok ⟨some path, [], none⟩ := by
    simp [Reading.ofTexts, Word.ofTexts, hparameter, ofText_of_path h, hseparator, Reading.read,
      Reading.empty, bind, Except.bind, pure, Except.pure, Parameter.takesValue,
      Parameter.valueName?]
  have hword : Command.ofWord? "integrations" = some .integrations := by decide
  unfold Request.ofTexts
  simp [houter, hinner, hword, bind, Except.bind, Request.unlessLeft, Request.taskOf]

end

theorem ne_empty_of_load {fs : FileSystem} {m : Manifest.Model} {path : String} {rs : Records}
    (h : (Manifest.load fs m path).value = .ok rs) : path ≠ "" := by
  rintro rfl
  have hbytes : fs.bytesAt "" = .error (.refused ⟨.missing, "", none⟩) := rfl
  unfold Manifest.load at h
  rw [hbytes] at h
  exact nomatch h

theorem drawsBroken_shownTable {events : Markup.EventReader} {is : List Integration}
    (h : ∀ i ∈ is, Markup.broken events (assembliesMarkup i) = []) (cells : Nat) :
    (shownTable events is).drawsBroken cells = false := by
  refine Table.drawsBroken_eq_false (fun row hrow => ?_) cells
  obtain ⟨i, hi, rfl⟩ := List.mem_map.1 hrow
  simp only [shownRow, List.forall_mem_cons]
  exact ⟨rfl, rfl, h i hi, nofun⟩

/-- Without tags there is a table for every screen. -/
theorem exists_read_of_no_tag (screen : Screen) {is : List Integration}
    (htags : ∀ i ∈ is, ∀ t ∈ Markup.Token.ofText (assembliesMarkup i), t.isTag = false) :
    ∃ t, (integrationsDraft is).read screen = .ok t := by
  have hdrawn (i : Integration) (hi : i ∈ is) := (listed screen.events i).drawn (htags i hi)
  have hnone := List.findSome?_eq_none_iff.2 fun i hi => (hdrawn i hi).1
  have hbroken := drawsBroken_shownTable (fun i hi => (hdrawn i hi).2) screen.width
  rw [read_integrationsDraft, hnone]
  simp only [hbroken]
  split <;> exact ⟨_, rfl⟩

/-- The command reads the manifest, and what is left to do is to print the table. -/
theorem run_eq_printTable {s : Session} {path : String} {rs : Records}
    (hpath : path.toList.head? ≠ some '-')
    (hload : (Manifest.load s.logger.fs .integration path).value = .ok rs) :
    ∃ is : List Integration, rs.items = is.map .integration ∧
      s.run ["integrations", "--path", path] =
        ((s.showWarnings.printTable (integrationsDraft is)).1,
          (s.showWarnings.printTable (integrationsDraft is)).2.map .finished) := by
  obtain ⟨hrecords, d, hcheck⟩ := Manifest.exists_check_of_load hload
  rw [Manifest.check_integrations] at hcheck
  obtain ⟨is, -, rfl⟩ := Manifest.Checked.map_eq_sound.1 hcheck
  have hloaded : s.showWarnings.loadManifest (some path) =
      ⟨.ok ⟨d.heap, is.map .integration⟩, []⟩ := by
    rw [Session.loadManifest, if_neg (ne_empty_of_load hload)]
    exact hrecords
  have hintegrations : integrationsOf ⟨d.heap, is.map .integration⟩ = is := by
    rw [integrationsOf, List.filterMap_map]
    exact List.filterMap_some
  have hshown : s.showWarnings.showIntegrations (some path) =
      s.showWarnings.printTable (integrationsDraft is) := by
    unfold Session.showIntegrations
    rw [hloaded]
    simp only [hintegrations]
    rfl
  refine ⟨is, rfl, ?_⟩
  unfold Session.run
  rw [ofTexts_integrations hpath]
  simp only [Session.prepare, Session.perform, hshown]

end ProfilerBootstrap.CommandLine

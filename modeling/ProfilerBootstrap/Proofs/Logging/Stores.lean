import ProfilerBootstrap.Proofs.Logging.Attached
import ProfilerBootstrap.Proofs.Logging.History
import ProfilerBootstrap.Proofs.Rolling.Frame

namespace ProfilerBootstrap

open FileSystem

namespace LogSite

/-- Under some names of a site, as far as paths can reach them, there are files of some kind or
nothing. No links are in the directory. -/
structure Stores (w : LogSite) (d : Location) (ok : ByteArray → Prop) (S : Name → Prop)
    (fs : FileSystem) : Prop where
  sound : fs.Sound
  lead : fs.Leads w.dir d
  noLink : ∀ n target, fs.find? (d ++ [n]) ≠ some (.link target)
  file : ∀ mark e, S mark → Fits w.slashes w.dirs (w.name mark) →
    fs.find? (d ++ [w.name mark]) = some e → ∃ id, e = .file id ∧ ok (fs.read id)

/-- The paths of a site are written as they are, or counted from the root. -/
def Spells (w : LogSite) (here : Location) (v : LogSite) : Prop := v = w ∨ v = w.absolute here

def Marks (count : Nat) (mark : Name) : Prop := mark = [] ∨ ∃ i < count, mark = number i

section
variable {w v v' : LogSite} {d : Location} {ok : ByteArray → Prop} {S S' : Name → Prop}
  {fs fs' : FileSystem} {mark mark' : Name} {here : Location} {count : Nat}

theorem Marks.slash_notMem (h : Marks count mark) : '/' ∉ mark := by
  obtain rfl | ⟨i, -, rfl⟩ := h
  · exact List.not_mem_nil
  · exact slash_notMem_number i

theorem Spells.name (h : w.Spells here v) (mark : Name) : v.name mark = w.name mark := by
  rcases h with rfl | rfl <;> rfl

theorem Spells.fits (h : w.Spells here v) (hfits : Fits v.slashes v.dirs (w.name mark)) :
    Fits w.slashes w.dirs (w.name mark) := by
  rcases h with rfl | rfl
  · exact hfits
  · exact fits_of_absolute hfits

namespace Stores

theorem mono (h : w.Stores d ok S fs) (hS : ∀ m, S' m → S m) : w.Stores d ok S' fs :=
  ⟨h.sound, h.lead, h.noLink, fun m e hm => h.file m e (hS m hm)⟩

theorem of_free (h : w.Stores d ok S fs) (hfree : fs.find? (d ++ [w.name mark]) = none) :
    w.Stores d ok (fun m => S m ∨ m = mark) fs where
  sound := h.sound
  lead := h.lead
  noLink := h.noLink
  file m e hm hfits he := by
    obtain hm | rfl := hm
    · exact h.file m e hm hfits he
    · simp [hfree] at he

theorem plain (h : w.Stores d ok S fs) (hS : S mark) (hfits : Fits w.slashes w.dirs (w.name mark)) :
    fs.NoDirOrLink (d ++ [w.name mark]) := fun e he =>
  (h.file mark e hS hfits he).imp fun _ hid => hid.1

theorem valid (h : w.Stores d ok S fs) (hw : w.Valid) (hv : w.Spells fs.here v) : v.Valid := by
  rcases hv with rfl | rfl
  · exact hw
  · exact hw.absolute h.sound.rooted.plain

theorem leads (h : w.Stores d ok S fs) (hv : w.Spells fs.here v) : fs.Leads v.dir d := by
  rcases hv with rfl | rfl
  · exact h.lead
  · exact (leads_absolute h.sound.rooted w d).2 h.lead

theorem reach (h : w.Stores d ok S fs) (hw : w.Valid) (hv : w.Spells fs.here v) (hslash : '/' ∉ mark)
    {q : Place} (hq : fs.reach false (v.path mark).text = .ok q) :
    Fits w.slashes w.dirs (w.name mark) ∧
      q = ⟨d ++ [w.name mark], fs.find? (d ++ [w.name mark])⟩ := by
  obtain ⟨hfits, rfl⟩ := eq_of_reach_snoc ((h.valid hw hv).normal hslash) (v.name_noUp mark)
    (h.leads hv) (by simp) hq
  rw [hv.name] at hfits ⊢
  exact ⟨hv.fits hfits, rfl⟩

theorem of_keeps (h : w.Stores d ok S fs) (hkeeps : FileSystem.Keeps fs fs')
    (hold : ∀ n e, fs'.find? (d ++ [n]) = some e → (∀ id, e ≠ .file id) → fs.find? (d ++ [n]) = some e)
    (hfile : ∀ m, S' m → Fits w.slashes w.dirs (w.name m) → ∀ e,
      fs'.find? (d ++ [w.name m]) = some e → ∃ id, e = .file id ∧ ok (fs'.read id)) :
    w.Stores d ok S' fs' where
  sound := hkeeps.sound
  lead := hkeeps.leads h.lead
  noLink n target hn := h.noLink n target (hold n _ hn (by simp))
  file m e hm hfits he := hfile m hm hfits e he

theorem unlink (h : w.Stores d ok S fs) (hw : w.Valid) (hv : w.Spells fs.here v) (hS : S mark)
    (hslash : '/' ∉ mark) (hunlink : fs.unlink (v.path mark).text = .ok fs') :
    w.Stores d ok S fs' ∧ fs'.here = fs.here ∧
      ∀ n, fs.find? (d ++ [n]) = none → fs'.find? (d ++ [n]) = none := by
  obtain ⟨q, hq, rfl⟩ := unlink_ok hunlink
  obtain ⟨hfits, rfl⟩ := h.reach hw hv hslash hq
  have hfind := find?_erase_of_ne_nil fs (l := d ++ [w.name mark]) (by simp)
  have hold : ∀ n e, (fs.erase (d ++ [w.name mark])).find? (d ++ [n]) = some e →
      fs.find? (d ++ [n]) = some e := by
    intro n e he
    rw [hfind] at he
    split at he
    · simp at he
    · exact he
  refine ⟨h.of_keeps (h.sound.keeps_erase (h.plain hS hfits)) (fun n e he _ => hold n e he)
    fun m hm hfit e he => h.file m e hm hfit (hold _ e he), rfl, fun n hn => ?_⟩
  rw [hfind]
  split
  · rfl
  · exact hn

theorem rename (h : w.Stores d ok S fs) (hw : w.Valid) (hv : w.Spells fs.here v)
    (hv' : w.Spells fs.here v') (hS : S mark) (hslash : '/' ∉ mark) (hslash' : '/' ∉ mark')
    (hren : fs.rename (v.path mark).text (v'.path mark').text = .ok fs') :
    w.Stores d ok (fun m => S m ∨ m = mark') fs' ∧ fs'.here = fs.here ∧
      (∀ n, n ≠ w.name mark' → fs.find? (d ++ [n]) = none → fs'.find? (d ++ [n]) = none) ∧
      (mark ≠ mark' → fs'.find? (d ++ [w.name mark]) = none) := by
  have hnormal := (h.valid hw hv).normal hslash
  obtain ⟨p, q, e, hp, hq, he, hmove⟩ :=
    rename_text_ok hnormal ((h.valid hw hv').normal hslash') hren
  obtain ⟨hfits, rfl⟩ := h.reach hw hv hslash hp
  obtain ⟨hfits', rfl⟩ := h.reach hw hv' hslash' hq
  obtain ⟨id, rfl, hid⟩ := h.file mark e hS hfits he
  obtain ⟨hsame, rfl⟩ | ⟨hmove, rfl⟩ := hmove
  · -- the file is moved to where it is
    obtain rfl : mark = mark' := name_inj.1 (by simpa using hsame)
    refine ⟨h.mono fun m hm => ?_, rfl, fun n _ hn => hn, fun hne => absurd rfl hne⟩
    obtain hm | rfl := hm
    · exact hm
    · exact hS
  · obtain ⟨hne, hmove⟩ := hmove
    have he : fs.find? (d ++ [w.name mark]) = some (.file id) := he
    have hplain' : fs.NoDirOrLink (d ++ [w.name mark']) := by
      intro e' he'
      cases e' with
      | file id' => exact ⟨id', rfl⟩
      | dir => exact absurd he' (noDir_of_moveRefused hmove)
      | link target => exact absurd he' (h.noLink _ target)
    have hplain : IsPlain (w.name mark') :=
      hfits'.isPlain (hw.normal hslash') (w.name_noUp mark')
    have hkeeps := h.sound.keeps_move he hplain' hne (h.sound.find?_of_leads h.lead) hplain
    have hfind := h.sound.find?_move (l := d ++ [w.name mark]) (m := d ++ [w.name mark'])
      (by simp [he]) (by simp) hne
    refine ⟨h.of_keeps hkeeps (fun n e' he' hfile => ?_) fun m hm hfit e' he' => ?_, rfl,
      fun n hn hfree => ?_, fun _ => ?_⟩
    · rw [hfind, he] at he'
      split at he'
      · exact absurd (Option.some.inj he').symm (hfile id)
      · split at he'
        · simp at he'
        · exact he'
    · rw [hfind, he] at he'
      split at he'
      · exact ⟨id, (Option.some.inj he').symm, hid⟩
      · split at he'
        · simp at he'
        · rename_i hnew _
          obtain hm | rfl := hm
          · exact h.file m e' hm hfit he'
          · exact absurd rfl hnew
    · rw [hfind, if_neg (by simpa using hn)]
      split
      · rfl
      · exact hfree
    · rw [hfind, if_neg hne, if_pos rfl]

/-- Wherever rolling a file is refused, what lies under the names of the site is what was there. -/
theorem roll {r : Roller} (h : w.Stores d ok S fs) (hw : w.Valid)
    (hnames : r.Names w.slashes w.dirs fun i => w.name (number i))
    (hS : ∀ i, i < r.count → S (number i)) (hslash : ∀ m, S m → '/' ∉ m) (hnil : ¬ S [])
    (hv : w.Spells fs.here v) (hmark : S mark) (hfree : fs.find? (d ++ [w.name []]) = none) :
    w.Stores d ok S (r.roll fs (v.path mark).text).1 ∧
      (r.roll fs (v.path mark).text).1.here = fs.here ∧
      (r.roll fs (v.path mark).text).1.find? (d ++ [w.name []]) = none := by
  -- every path on the way spells a name of the site, and none of them is that of the log file
  refine Roller.roll_induction
    (S := fun p => ∃ v m, w.Spells fs.here v ∧ S m ∧ p = v.path m)
    (R := fun fs' => w.Stores d ok S fs' ∧ fs'.here = fs.here ∧ fs'.find? (d ++ [w.name []]) = none)
    ?_ ?_ ?_ ⟨v, mark, hv, hmark, rfl⟩ ⟨h, rfl, hfree⟩
  · rintro p fs₁ fs₂ ⟨v₁, m, hv₁, hm, rfl⟩ hunlink ⟨h₁, hhere, hfree₁⟩
    rw [← hhere] at hv₁ ⊢
    obtain ⟨h₂, hhere₂, hfree₂⟩ := h₁.unlink hw hv₁ hm (hslash m hm) hunlink
    exact ⟨h₂, hhere₂, hfree₂ _ hfree₁⟩
  · rintro p q fs₁ fs₂ ⟨v₁, m, hv₁, hm, rfl⟩ ⟨v₂, m', hv₂, hm', rfl⟩ hrename ⟨h₁, hhere, hfree₁⟩
    rw [← hhere] at hv₁ hv₂ ⊢
    obtain ⟨h₂, hhere₂, hfree₂, -⟩ :=
      h₁.rename hw hv₁ hv₂ hm (hslash m hm) (hslash m' hm') hrename
    refine ⟨h₂.mono fun m hm => .inl hm, hhere₂, hfree₂ _ (fun hname => ?_) hfree₁⟩
    exact hnil (name_inj.1 hname ▸ hm')
  · intro i hi
    exact ⟨w, number i, .inl rfl, hS i hi, hnames.backup i⟩

theorem contentAt_of_free (h : w.Stores d ok S fs) (hw : w.Valid)
    (hfree : fs.find? (d ++ [w.name []]) = none) : fs.contentAt (w.path []).text = .empty := by
  have hnormal := hw.normal List.not_mem_nil
  by_cases hfits : Fits w.slashes w.dirs (w.name [])
  · have hcontent := contentAt_snoc hnormal (w.name_noUp []) hfits h.lead (noDirOrLink_of_free hfree)
    rwa [hfree] at hcontent
  · rw [contentAt, bytesAt]
    cases hr : fs.reach true (w.path []).text with
    | error e => rfl
    | ok q => exact absurd (of_reach_snoc hnormal (w.name_noUp []) hr).1 hfits

theorem contentAt_of_file (h : w.Stores d ok S fs) (hw : w.Valid)
    (hfits : Fits w.slashes w.dirs (w.name [])) {id : FileId}
    (hfile : fs.find? (d ++ [w.name []]) = some (.file id)) :
    fs.contentAt (w.path []).text = fs.read id := by
  have hcontent := contentAt_snoc (hw.normal List.not_mem_nil) (w.name_noUp []) hfits h.lead
    (noDirOrLink_of_file hfile)
  rwa [hfile] at hcontent

theorem contentAt_of_leadsToFile (h : w.Stores d ok S fs) (hw : w.Valid) (hS : S []) {id : FileId}
    (hlead : fs.LeadsToFile ((w.absolute fs.here).path []).text id) :
    fs.contentAt (w.path []).text = fs.read id ∧ ok (fs.read id) := by
  obtain ⟨l, hl⟩ := hlead
  obtain ⟨hfitsv, hplace⟩ := eq_of_reach_snoc ((h.valid hw (.inr rfl)).normal List.not_mem_nil)
    ((w.absolute fs.here).name_noUp []) (h.leads (.inr rfl))
    (fun _ hfits => h.plain hS (fits_of_absolute hfits)) hl
  have hfits : Fits w.slashes w.dirs (w.name []) := fits_of_absolute hfitsv
  have hfile : fs.find? (d ++ [w.name []]) = some (.file id) := (Place.mk.inj hplace).2.symm
  refine ⟨h.contentAt_of_file hw hfits hfile, ?_⟩
  obtain ⟨id', hid, hok⟩ := h.file [] _ hS hfits hfile
  obtain rfl := Entry.file.inj hid
  exact hok

theorem openAppend (h : w.Stores d ok S fs) (hw : w.Valid) (hS : S []) (hempty : ok .empty)
    {id : FileId} (hopen : fs.openAppend ((w.absolute fs.here).path []).text = .ok (fs', id)) :
    w.Stores d ok S fs' ∧ fs'.read id = fs.contentAt (w.path []).text := by
  obtain ⟨hfitsv, hcase⟩ := LogFile.openAppend_ok (h.valid hw (.inr rfl)) (h.leads (.inr rfl))
    (fun hfits => h.plain hS (fits_of_absolute hfits)) hopen
  have hfits : Fits w.slashes w.dirs (w.name []) := fits_of_absolute hfitsv
  obtain ⟨hnone, hcreate⟩ | ⟨hfile, rfl⟩ := hcase
  · have hnone : fs.find? (d ++ [w.name []]) = none := hnone
    obtain ⟨rfl, rfl⟩ : fs' = (fs.create (d ++ [w.name []])).1 ∧ id = fs.contents.size :=
      Prod.mk.inj hcreate
    have hfind := find?_create fs (l := d ++ [w.name []]) (by simp)
    have hkeeps := h.sound.keeps_create hnone (h.sound.find?_of_leads h.lead)
      (hfits.isPlain (hw.normal List.not_mem_nil) (w.name_noUp []))
    rw [h.contentAt_of_free hw hnone]
    refine ⟨h.of_keeps hkeeps (fun n e he hne => ?_) fun m hm hfit e he => ?_, read_create_self fs _⟩
    · rw [hfind] at he
      split at he
      · exact absurd (Option.some.inj he).symm (hne _)
      · exact he
    · rw [hfind] at he
      split at he
      · refine ⟨_, (Option.some.inj he).symm, ?_⟩
        rw [read_create_self]
        exact hempty
      · obtain ⟨id, rfl, hid⟩ := h.file m e hm hfit he
        refine ⟨id, rfl, ?_⟩
        rwa [read_create_eq]
  · exact ⟨h, (h.contentAt_of_file hw hfits hfile).symm⟩

theorem openAt (h : w.Stores d ok S fs) (hw : w.Valid) (hS : S []) (hempty : ok .empty)
    {result : Except LogFileError OpenFile}
    (hopen : LogFile.openAt fs ((w.absolute fs.here).path []) = (fs', result)) :
    w.Stores d ok S fs' ∧ ∀ o, result = .ok o →
      o.path = (w.absolute fs.here).path [] ∧ fs'.read o.id = fs.contentAt (w.path []).text := by
  cases result with
  | error e =>
    obtain rfl := LogFile.openAt_error (h.valid hw (.inr rfl)) (h.leads (.inr rfl)) hopen
    exact ⟨h, by simp⟩
  | ok o =>
    obtain ⟨hpath, happend⟩ := LogFile.openAt_ok (h.valid hw (.inr rfl)) (h.leads (.inr rfl)) hopen
    obtain ⟨h', hread⟩ := h.openAppend hw hS hempty happend
    refine ⟨h', ?_⟩
    rintro o' ⟨⟩
    exact ⟨hpath, hread⟩

theorem path_eq {name : String} {roller : Roller} (h : w.Stores d ok S fs) (hw : w.Holds name roller)
    (t : FileName.Time) : LogFile.path fs t name = .ok ((w.absolute fs.here).path []) := by
  rw [hw.path, hw.literal.path_eq h.sound.rooted]

/-- A rotation moves files on, wherever it is refused, and what it opens is a new file. -/
theorem rotate {l : LogFile} (h : w.Stores d ok (Marks l.roller.count) fs)
    (hw : w.Holds l.name l.roller) (hempty : ok .empty) {moment : Moment}
    {result : Except LogFileError OpenFile}
    (hrot : l.rotate fs moment ((w.absolute fs.here).path []) = (fs', result)) :
    w.Stores d ok (Marks l.roller.count) fs' ∧ ∀ o, result = .ok o → fs'.read o.id = .empty := by
  have hvalid := hw.literal.valid
  have hv := h.valid hvalid (.inr rfl)
  have hpath := h.path_eq hw moment.time
  -- between the two names that the file is rolled through, nothing is at its own
  have hmoved : ∀ k fs₁, fs.rename ((w.absolute fs.here).path []).text
      ((w.absolute fs.here).path (asideMark moment.made (LogFile.countMark k))).text = .ok fs₁ →
        ∀ fs₂, fs₂ = (l.roller.roll fs₁
          ((w.absolute fs.here).path (asideMark moment.made (LogFile.countMark k))).text).1 →
        w.Stores d ok (Marks l.roller.count) fs₂ ∧ fs₂.here = fs.here ∧
          fs₂.find? (d ++ [w.name []]) = none := by
    rintro k fs₁ hrename fs₂ rfl
    have hslash := LogFile.slash_notMem_asideMark moment.made k
    obtain ⟨h₁, hhere₁, -, hfree₁⟩ := h.rename hvalid (.inr rfl) (.inr rfl) (.inl rfl)
      List.not_mem_nil hslash hrename
    have hparts : w.Stores d ok
        (fun m => m = asideMark moment.made (LogFile.countMark k) ∨
          ∃ i < l.roller.count, m = number i) fs₁ :=
      h₁.mono fun m hm => hm.elim .inr fun hm => .inl (.inr hm)
    have hnil : ¬([] = asideMark moment.made (LogFile.countMark k) ∨
        ∃ i < l.roller.count, [] = number i) := by
      rintro (hm | ⟨i, -, hm⟩)
      · exact asideMark_ne_nil _ _ hm.symm
      · exact number_ne_nil i hm.symm
    have hroll := hparts.roll (v := w.absolute fs.here) (r := l.roller) hvalid hw.names
      (fun i hi => .inr ⟨i, hi, rfl⟩)
      (fun m hm => hm.elim (fun hm => hm ▸ hslash) fun hm => (Marks.slash_notMem (.inr hm))) hnil
      (.inr (by rw [hhere₁])) (.inl rfl) (hfree₁ (asideMark_ne_nil _ _).symm)
    obtain ⟨h₂, hhere₂, hfree₂⟩ := hroll
    refine ⟨(h₂.of_free hfree₂).mono fun m hm => ?_, hhere₂.trans hhere₁, hfree₂⟩
    exact hm.elim .inr fun hm => .inl (.inr hm)
  cases result with
  | error e =>
    refine ⟨?_, by simp⟩
    obtain rfl | ⟨k, fs₁, hrename, hroll⟩ :=
      LogFile.rotate_error hv (h.leads (.inr rfl)) hpath hrot
    · exact h
    · exact (hmoved k fs₁ hrename fs' hroll).1
  | ok o =>
    obtain ⟨-, k, fs₁, fs₂, hrename, hroll, hopen⟩ :=
      LogFile.rotate_cases hv (h.leads (.inr rfl)) hpath hrot
    obtain ⟨h₂, hhere₂, hfree₂⟩ := hmoved k fs₁ hrename fs₂ (by rw [hroll])
    rw [← hhere₂] at hopen
    obtain ⟨h', hread⟩ := h₂.openAppend hvalid (.inl rfl) hempty hopen
    refine ⟨h', ?_⟩
    rintro o' ⟨⟩
    exact hread.trans (h₂.contentAt_of_free hvalid hfree₂)

theorem append (h : w.Stores d ok S fs) {id : FileId} (hid : id < fs.contents.size)
    {bytes : ByteArray} (hok : ok (fs.read id ++ bytes)) : w.Stores d ok S (fs.append id bytes) where
  sound := h.sound.append id bytes
  lead := h.lead.mono rfl fun _ _ hl _ => hl
  noLink := h.noLink
  file m e hm hfits he := by
    obtain ⟨id', rfl, hok'⟩ := h.file m e hm hfits he
    refine ⟨id', rfl, ?_⟩
    by_cases hsame : id' = id
    · rw [hsame, read_append fs hid]
      exact hok
    · rwa [read_append_of_ne fs hsame]

theorem rotateIfFull {l : LogFile} (h : w.Stores d ok (Marks l.roller.count) fs)
    (hw : w.Holds l.name l.roller) (hempty : ok .empty) {f : OpenFile}
    (hpath : f.path = (w.absolute fs.here).path []) {line : String}
    {result : Except LogFileError OpenFile}
    (hfor : (if l.isFull fs f line then l.rotate fs (l.clock 1) f.path else (fs, .ok f)) =
      (fs', result)) :
    w.Stores d ok (Marks l.roller.count) fs' ∧ ∀ o, result = .ok o →
      fs'.read o.id =
        if l.maxSize < (fs.read f.id).size + line.length then .empty else fs.read f.id := by
  split at hfor
  · rename_i hfull
    rw [hpath] at hfor
    obtain ⟨h', hread⟩ := h.rotate hw hempty hfor
    refine ⟨h', fun o ho => ?_⟩
    rw [if_pos (by simpa [LogFile.isFull] using hfull), hread o ho]
  · rename_i hfull
    obtain ⟨rfl, rfl⟩ := Prod.mk.inj hfor
    refine ⟨h, ?_⟩
    rintro o ⟨⟩
    rw [if_neg (by simpa [LogFile.isFull] using hfull)]

theorem fileFor {l : LogFile} {p : Path} (h : w.Stores d ok (Marks l.roller.count) fs)
    (hw : w.Holds l.name l.roller) (hat : l.Attached (· = p) fs) (hempty : ok .empty) {line : String}
    {result : Except LogFileError OpenFile} (hfor : l.fileFor fs line = (fs', result)) :
    w.Stores d ok (Marks l.roller.count) fs' ∧ ∀ o, result = .ok o →
      fs'.read o.id = if l.maxSize < (fs.contentAt l.name).size + line.length then .empty
        else fs.contentAt l.name := by
  have hvalid := hw.literal.valid
  have hname := h.path_eq hw
  obtain rfl : (w.absolute fs.here).path [] = p := hat.path 0 _ (hname _)
  cases hfile : l.file with
  | some f =>
    obtain ⟨hpath, hlead⟩ := hat.file f hfile
    rw [hpath] at hlead
    simp only [LogFile.fileFor, hfile] at hfor
    have hcontent := (h.contentAt_of_leadsToFile hvalid (.inl rfl) hlead).1
    rw [← hw.path] at hcontent
    rw [hcontent]
    exact h.rotateIfFull hw hempty hpath hfor
  | none =>
    simp only [LogFile.fileFor, hfile, LogFile.open?, hname] at hfor
    cases hopen : LogFile.openAt fs ((w.absolute fs.here).path []) with
    | mk fs₁ opened =>
      have hhere := LogFile.kept_openAt (kept_here fs.here).toKeptByEntries rfl
        ((w.absolute fs.here).path [])
      rw [hopen] at hfor hhere
      obtain ⟨h₁, hread⟩ := h.openAt hvalid (.inl rfl) hempty hopen
      cases opened with
      | error e =>
        obtain ⟨rfl, rfl⟩ := Prod.mk.inj hfor
        exact ⟨h₁, by simp⟩
      | ok f =>
        obtain ⟨hpath, hcontent⟩ := hread f rfl
        rw [← hw.path] at hcontent
        rw [← hcontent]
        exact h₁.rotateIfFull hw hempty (by rw [hpath, hhere]) hfor

/-- A line that is written is at the end of the log file, after what that held, unless both are too
long together. Where the file could not be opened nothing but names has changed. -/
theorem write {l : LogFile} {p : Path} (h : w.Stores d ok (Marks l.roller.count) fs)
    (hw : w.Holds l.name l.roller) (hat : l.Attached (· = p) fs) (hempty : ok .empty) {line : String}
    (hline : ∀ bytes, ¬ l.maxSize < bytes.size + line.length ∨ bytes = .empty →
      ok (bytes ++ line.toUTF8)) :
    w.Stores d ok (Marks l.roller.count) (l.write fs line).1 ∧
      ((l.write fs line).2.file.isSome → (l.write fs line).1.contentAt l.name =
        (if l.maxSize < (fs.contentAt l.name).size + line.length then .empty
          else fs.contentAt l.name) ++ line.toUTF8) := by
  have hat' := (hat.write line).1
  revert hat'
  unfold LogFile.write
  cases hfor : l.fileFor fs line with
  | mk fs' result =>
    obtain ⟨h', hread⟩ := h.fileFor hw hat hempty hfor
    cases result with
    | error e => exact fun _ => ⟨h', by simp⟩
    | ok o =>
      intro hat'
      have hread := hread o rfl
      have hid : o.id < fs'.contents.size :=
        (hat.fileFor line hfor).2.1.id_lt h'.sound.stocked
      have hok : ok (fs'.read o.id ++ line.toUTF8) := by
        apply hline
        rw [hread]
        split
        · exact .inr rfl
        · rename_i hfits
          exact .inl hfits
      have happend := h'.append hid hok
      refine ⟨happend, fun _ => ?_⟩
      obtain rfl := hat'.path 0 _ (happend.path_eq hw _)
      obtain ⟨hpath, hlead⟩ := hat'.file o rfl
      rw [hpath] at hlead
      have hcontent := (happend.contentAt_of_leadsToFile hw.literal.valid (.inl rfl) hlead).1
      rwa [← hw.path, read_append fs' hid, hread] at hcontent

end Stores

end

end LogSite

end ProfilerBootstrap

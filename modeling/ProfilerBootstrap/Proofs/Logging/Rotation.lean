import ProfilerBootstrap.Proofs.Logging.Site

namespace ProfilerBootstrap

open FileSystem

theorem Path.climb_eq_self {names : List Name} (h : ['.', '.'] ∉ names) : climb names = names := by
  suffices ∀ up : List Name,
      names.foldl (fun up n => if n = ['.', '.'] then up.drop 1 else n :: up) up =
        names.reverse ++ up by
    rw [climb, this, List.append_nil, List.reverse_reverse]
  induction names with
  | nil => exact fun _ => rfl
  | cons n names ih =>
    intro up
    rw [List.mem_cons, not_or] at h
    rw [List.foldl_cons, if_neg (Ne.symm h.1), ih h.2]
    simp

namespace LogSite

/-- A site whose path has neither fields nor ways up. -/
structure Literal (w : LogSite) : Prop where
  valid : w.Valid
  noOpen : FileName.openBrace ∉ (w.path []).chars
  noClose : FileName.closeBrace ∉ (w.path []).chars
  noUp : ['.', '.'] ∉ w.dirs

def dir (w : LogSite) : Path := ⟨w.slashes, w.dirs⟩

theorem parent_path (w : LogSite) (mark : Name) : (w.path mark).parent = w.dir := by
  simp [Path.parent, path, dir]

section
variable {w : LogSite} {fs fs' : FileSystem} {d : Location} {mark : Name}

theorem Literal.absolute_eq (hw : w.Literal) (hr : fs.Rooted) :
    LogFile.absolute fs (w.path []).chars = (w.absolute fs.here).path [] := by
  have hup : ['.', '.'] ∉ (if w.slashes = 0 then fs.here else []) ++ (w.path []).names := by
    intro h
    rcases List.mem_append.1 h with h | h
    · split at h
      · exact (hr.plain _ h).noUp rfl
      · simp at h
    · rcases List.mem_append.1 h with h | h
      · exact hw.noUp h
      · exact w.name_noUp [] (List.mem_singleton.1 h).symm
  simp only [LogFile.absolute, Path.ofChars_chars (hw.valid.normal (by simp : '/' ∉ ([] : Name)))]
  rw [show (w.path []).slashes = w.slashes from rfl, Path.climb_eq_self hup]
  simp [path, absolute, name]

theorem Literal.path_eq (hw : w.Literal) (hr : fs.Rooted) (t : FileName.Time) :
    LogFile.path fs t (w.path []).text = .ok ((w.absolute fs.here).path []) := by
  rw [LogFile.path, Path.toList_text, FileName.expand_of_no_braces _ hw.noOpen hw.noClose]
  exact congrArg _ (hw.absolute_eq hr)

theorem walkFrom_absolute (hr : fs.Rooted) (w : LogSite) (follow : Bool) (k : Nat)
    (ns : List Name) :
    walkFrom fs follow k (fs.start (w.absolute fs.here).dir) ((w.absolute fs.here).dirs ++ ns) =
      walkFrom fs follow k (fs.start w.dir) (w.dirs ++ ns) := by
  have hroot : fs.start (w.absolute fs.here).dir = [] := by
    rw [start, if_neg]
    simp only [dir, absolute]
    omega
  rw [hroot]
  by_cases hzero : w.slashes = 0
  · rw [show fs.start w.dir = fs.here from if_pos hzero]
    simp only [absolute, if_pos hzero, List.append_assoc, hr.walkFrom_here]
  · rw [show fs.start w.dir = [] from if_neg hzero]
    simp only [absolute, if_neg hzero, List.nil_append]

theorem leads_absolute (hr : fs.Rooted) (w : LogSite) (d : Location) :
    fs.Leads (w.absolute fs.here).dir d ↔ fs.Leads w.dir d := by
  have h := walkFrom_absolute hr w true greatestLinks []
  rw [List.append_nil, List.append_nil] at h
  unfold Leads
  exact ⟨fun hd => h.symm.trans hd, fun hd => h.trans hd⟩

theorem hasNull_number (w : LogSite) (here : Location)
    (h : hasNull ((w.absolute here).path mark).text = false) (i : Nat) :
    hasNull (w.path (number i)).text = false := by
  rw [← Bool.not_eq_true] at h ⊢
  rw [hasNull_text] at h ⊢
  rintro ⟨n, hn, hnull⟩
  apply h
  rcases List.mem_append.1 hn with hn | hn
  · exact ⟨n, List.mem_append_left _ (List.mem_append_right _ hn), hnull⟩
  · obtain rfl := List.mem_singleton.1 hn
    refine ⟨w.name mark, List.mem_append_right _ (List.mem_singleton_self _), ?_⟩
    have hnumber : '\x00' ∉ number i := by
      intro h
      rcases List.mem_cons.1 h with h | h
      · simp at h
      · exact absurd (Text.isDigit_of_mem_toString h) (by decide)
    simp only [name, List.mem_append, hnumber, false_or] at hnull ⊢
    exact hnull.imp_right .inr

theorem fits_of_absolute {here : Location}
    (h : Fits (w.absolute here).slashes (w.absolute here).dirs (w.name mark)) :
    Fits w.slashes w.dirs (w.name mark) where
  noNull := by
    have hnull := h.noNull
    rw [← Bool.not_eq_true] at hnull ⊢
    rw [hasNull_text] at hnull ⊢
    rintro ⟨n, hn, hc⟩
    refine hnull ⟨n, ?_, hc⟩
    rcases List.mem_append.1 hn with hn | hn
    · exact List.mem_append_left _ (List.mem_append_right _ hn)
    · exact List.mem_append_right _ hn
  text := by
    refine Nat.lt_of_le_of_lt ?_ h.text
    rw [Path.chars_snoc, Path.chars_snoc, byteLength_append, byteLength_append]
    refine Nat.add_le_add_right ?_ _
    by_cases hzero : w.slashes = 0
    · simp only [Path.lead, absolute, hzero, if_pos, List.flatMap_append, byteLength_append,
        List.replicate_zero, byteLength]
      omega
    · have hmax : max 1 w.slashes = w.slashes := by omega
      simp [Path.lead, absolute, hzero, hmax]
  name := h.name

end

end LogSite

namespace LogFile

open LogSite

/-- What tells the names of several files apart that are set aside at one time. -/
def countMark (n : Nat) : Name := if n = 1 then [] else '.' :: (toString n).toList

theorem slash_notMem_countMark (n : Nat) : '/' ∉ countMark n := by
  unfold countMark
  split
  · simp
  · intro h
    rcases List.mem_cons.1 h with h | h
    · simp at h
    · exact absurd (Text.isDigit_of_mem_toString h) (by decide)

/-- Between the stem and the ending of its name, a file that is set aside has the time. -/
theorem aside_eq {w : LogSite} (hw : w.Valid) (made : Stamp) (count : Name) :
    (⟨w.slashes, w.dirs ++ [(w.name []).take ((w.name []).length - (extension (w.name [])).length) ++
      '.' :: made.text ++ count ++ extension (w.name [])]⟩ : Path) =
        w.path (asideMark made count) := by
  have hext : extension (w.name []) = ending := extension_append hw.letter (by decide)
  have hstem : (w.name []).take ((w.name []).length - ending.length) = w.stem := by
    simp [LogSite.name]
  rw [hext, hstem]
  simp [LogSite.path, LogSite.name, asideMark]

theorem setAside_zero (fs : FileSystem) {w : LogSite} (hw : w.Valid) (made : Stamp) (n : Nat) :
    setAside fs made 0 n (w.path []) = w.path (asideMark made (countMark n)) := by
  rw [setAside, ← aside_eq hw]
  simp [LogSite.path, countMark]

theorem setAside_succ (fs : FileSystem) {w : LogSite} (hw : w.Valid) (made : Stamp) (tries n : Nat) :
    setAside fs made (tries + 1) n (w.path []) =
      if fs.exists? (w.path (asideMark made (countMark n))).text then
        setAside fs made tries (n + 1) (w.path [])
      else w.path (asideMark made (countMark n)) := by
  rw [setAside, ← aside_eq hw]
  simp [LogSite.path, countMark]

theorem setAside_eq (fs : FileSystem) {w : LogSite} (hw : w.Valid) (made : Stamp) (tries n : Nat) :
    ∃ k, setAside fs made tries n (w.path []) = w.path (asideMark made (countMark k)) := by
  induction tries generalizing n with
  | zero => exact ⟨n, setAside_zero fs hw made n⟩
  | succ tries ih =>
    rw [setAside_succ fs hw]
    split
    · exact ih (n + 1)
    · exact ⟨n, rfl⟩

theorem makeRoom_same (fs : FileSystem) {w : LogSite} (hw : w.Valid) (made : Stamp) :
    ∃ k, makeRoom fs made (w.path []) (w.path []) =
      (fs.rename (w.path []).text (w.path (asideMark made (countMark k))).text).map
        fun fs => (fs, w.path (asideMark made (countMark k))) := by
  obtain ⟨k, hk⟩ := setAside_eq fs hw made fs.entries.length 1
  exact ⟨k, by rw [makeRoom, if_pos rfl, hk]⟩

theorem slash_notMem_asideMark (made : Stamp) (n : Nat) : '/' ∉ asideMark made (countMark n) := by
  intro h
  rcases List.mem_cons.1 h with h | h
  · simp at h
  · rcases List.mem_append.1 h with h | h
    · have := made.plain _ h
      simp at this
    · exact slash_notMem_countMark n h

section
variable {w : LogSite} {fs fs' : FileSystem} {d : Location} {o : OpenFile}

/-- The log file of a site is opened where it is, or made. -/
theorem openAppend_ok (hw : w.Valid) (hlead : fs.Leads w.dir d)
    (hplain : Fits w.slashes w.dirs (w.name []) → fs.NoDirOrLink (d ++ [w.name []])) {id : FileId}
    (h : fs.openAppend (w.path []).text = .ok (fs', id)) :
    Fits w.slashes w.dirs (w.name []) ∧
      (fs.find? (d ++ [w.name []]) = none ∧ (fs', id) = fs.create (d ++ [w.name []]) ∨
        fs.find? (d ++ [w.name []]) = some (.file id) ∧ fs' = fs) :=
  openAppend_snoc (hw.normal List.not_mem_nil) (w.name_noUp []) hlead hplain h

theorem openAt_ok (hw : w.Valid) (hlead : fs.Leads w.dir d)
    (h : openAt fs (w.path []) = (fs', .ok o)) :
    o.path = w.path [] ∧ fs.openAppend (w.path []).text = .ok (fs', o.id) := by
  have hparent : (w.path []).parent = w.dir := w.parent_path []
  have hsame := hlead.makeDirs_fst hw.dirs
  rw [openAt, hparent] at h
  cases hm : fs.makeDirs w.dir with
  | mk fs₁ e =>
    rw [hm] at hsame
    obtain rfl : fs₁ = fs := hsame
    rw [hm] at h
    cases e with
    | some e => simp at h
    | none =>
      dsimp only at h
      split at h
      · rename_i fs₂ id hopen
        obtain ⟨rfl, ho⟩ := Prod.mk.inj h
        obtain rfl := Except.ok.inj ho
        exact ⟨rfl, hopen⟩
      · simp at h

/-- A file in a directory that is there opens, or nothing has changed. -/
theorem openAt_error (hw : w.Valid) (hlead : fs.Leads w.dir d) {e : LogFileError}
    (h : openAt fs (w.path []) = (fs', .error e)) : fs' = fs := by
  have hsame := hlead.makeDirs_fst hw.dirs
  rw [openAt, w.parent_path []] at h
  split at h
  · rename_i fs₁ e hm
    rw [hm] at hsame
    exact (Prod.mk.inj h).1.symm.trans hsame
  · rename_i fs₁ hm
    rw [hm] at hsame
    split at h
    · simp at h
    · exact (Prod.mk.inj h).1.symm.trans hsame

/-- How far a rotation came that was refused: to where the file was set aside and rolled, or it has
changed nothing. -/
theorem rotate_error {l : LogFile} {m : Moment} (hw : w.Valid) (hlead : fs.Leads w.dir d)
    (hpath : path fs m.time l.name = .ok (w.path [])) {e : LogFileError}
    (h : l.rotate fs m (w.path []) = (fs', .error e)) :
    fs' = fs ∨ ∃ k fs₁,
      fs.rename (w.path []).text (w.path (asideMark m.made (countMark k))).text = .ok fs₁ ∧
      fs' = (l.roller.roll fs₁ (w.path (asideMark m.made (countMark k))).text).1 := by
  have hsame := hlead.makeDirs_fst hw.dirs
  simp only [rotate, hpath, w.parent_path []] at h
  split at h
  · rename_i fs₀ e hm
    rw [hm] at hsame
    exact .inl ((Prod.mk.inj h).1.symm.trans hsame)
  · rename_i fs₀ hm
    rw [hm] at hsame
    obtain rfl : fs₀ = fs := hsame
    obtain ⟨k, hroom⟩ := makeRoom_same fs₀ hw m.made
    rw [hroom] at h
    cases hren : fs₀.rename (w.path []).text (w.path (asideMark m.made (countMark k))).text with
    | error e' =>
      simp only [hren, Except.map] at h
      exact .inl (Prod.mk.inj h).1.symm
    | ok fs₁ =>
      simp only [hren, Except.map] at h
      refine .inr ⟨k, fs₁, hren, ?_⟩
      split at h
      · rename_i fs₂ e hroll
        rw [hroll]
        exact (Prod.mk.inj h).1.symm
      · rename_i fs₂ hroll
        rw [hroll]
        split at h
        · simp at h
        · exact (Prod.mk.inj h).1.symm

/-- The steps of a rotation when nothing is refused. -/
theorem rotate_cases {l : LogFile} {m : Moment} (hw : w.Valid) (hlead : fs.Leads w.dir d)
    (hpath : path fs m.time l.name = .ok (w.path [])) (h : l.rotate fs m (w.path []) = (fs', .ok o)) :
    o.path = w.path [] ∧ ∃ k fs₁ fs₂,
      fs.rename (w.path []).text (w.path (asideMark m.made (countMark k))).text = .ok fs₁ ∧
      l.roller.roll fs₁ (w.path (asideMark m.made (countMark k))).text = (fs₂, none) ∧
      fs₂.openAppend (w.path []).text = .ok (fs', o.id) := by
  have hparent : (w.path []).parent = w.dir := w.parent_path []
  -- the directory is there, so making it changes nothing
  have hsame := hlead.makeDirs_fst hw.dirs
  simp only [rotate, hpath, hparent] at h
  cases hm : fs.makeDirs w.dir with
  | mk fs₀ e =>
    rw [hm] at hsame
    obtain rfl : fs₀ = fs := hsame
    obtain ⟨k, hroom⟩ := makeRoom_same fs₀ hw m.made
    rw [hm] at h
    cases e with
    | some e => simp at h
    | none =>
      simp only [hroom] at h
      cases hren : fs₀.rename (w.path []).text (w.path (asideMark m.made (countMark k))).text with
      | error e => simp [hren, Except.map] at h
      | ok fs₁ =>
        simp only [hren, Except.map] at h
        cases hroll : l.roller.roll fs₁ (w.path (asideMark m.made (countMark k))).text with
        | mk fs₂ e =>
          cases e with
          | some e => simp [hroll] at h
          | none =>
            simp only [hroll] at h
            split at h
            · rename_i fs₃ id hopen
              obtain ⟨rfl, ho⟩ := Prod.mk.inj h
              obtain rfl := Except.ok.inj ho
              exact ⟨rfl, k, fs₁, fs₂, hren, hroll, hopen⟩
            · simp at h

end

end LogFile

end ProfilerBootstrap

import ProfilerBootstrap.Proofs.FileSystem.Reopen
import ProfilerBootstrap.Proofs.Logging.Attached
import ProfilerBootstrap.Proofs.Logging.Built
import ProfilerBootstrap.Proofs.Logging.Rotation

namespace ProfilerBootstrap

open FileSystem

namespace LogSite

variable {w : LogSite} {fs : FileSystem}

theorem hasNull_absolute (hr : fs.Rooted) {mark : Name} (h : hasNull (w.path mark).text = false) :
    hasNull ((w.absolute fs.here).path mark).text = false := by
  rw [← Bool.not_eq_true, hasNull_text] at h ⊢
  rintro ⟨n, hn, hnull⟩
  simp only [path, absolute, List.mem_append] at hn
  obtain (hn | hn) | hn := hn
  · split at hn
    · exact (hr.plain n hn).noNull hnull
    · simp at hn
  · exact h ⟨n, List.mem_append_left _ hn, hnull⟩
  · exact h ⟨n, List.mem_append_right _ hn, hnull⟩

/-- What a path of a site leads to, it leads to from the root, if it is not too long then. -/
theorem reach_absolute (hr : fs.Rooted) (hw : w.Valid) {mark : Name} (hslash : '/' ∉ mark)
    (hshort : byteLength ((w.absolute fs.here).path mark).chars < pathLimit) {follow : Bool}
    {q : Place} (h : fs.reach follow (w.path mark).text = .ok q) :
    fs.reach follow ((w.absolute fs.here).path mark).text = .ok q := by
  obtain ⟨hnull, hwalk⟩ := reach_eq_ok.1 h
  refine reach_eq_ok.2 ⟨hasNull_absolute hr hnull, ?_⟩
  rw [walk_text (hw.normal hslash),
    if_neg (Nat.not_le.2 (byteLength_of_reach (hw.normal hslash) h))] at hwalk
  rw [walk_text ((hw.absolute hr.plain).normal hslash), if_neg (Nat.not_le.2 hshort)]
  exact (walkFrom_absolute hr w follow greatestLinks [w.name mark]).trans hwalk

end LogSite

open LogSite

theorem LogFile.open?_of_openAppend {w : LogSite} {fs fs' : FileSystem} {id : FileId}
    {t : FileName.Time} (hw : w.Literal) (hr : fs.Rooted)
    (hshort : byteLength ((w.absolute fs.here).path []).chars < pathLimit)
    (h : fs.openAppend (w.path []).text = .ok (fs', id)) :
    open? fs' t (w.path []).text = (fs', .ok ⟨(w.absolute fs'.here).path [], id⟩) := by
  obtain ⟨hext, l, hreach⟩ := reach_of_openAppend h
  have hr' := hext.rooted hr
  rw [← hext.here] at hshort
  have hv := hw.valid.absolute hr'.plain
  have hnormal := hv.normal (List.not_mem_nil (a := '/'))
  have hparent : ((w.absolute fs'.here).path []).parent = (w.absolute fs'.here).dir :=
    parent_path _ []
  have hagain := reach_absolute hr' hw.valid List.not_mem_nil hshort hreach
  -- the file lies in a directory, so there is none to be made for it
  have hdir : fs'.isDir (w.absolute fs'.here).dir.text = true := by
    obtain ⟨-, d, hlead⟩ := of_reach_snoc hnormal ((w.absolute fs'.here).name_noUp []) hagain
    refine isDir_of_leads hv.dirs hlead ?_ ?_
    · have hnull := (reach_eq_ok.1 hagain).1
      rw [← hparent, ← Bool.not_eq_true]
      rw [← Bool.not_eq_true] at hnull
      exact fun hp => hnull (hasNull_parent hp)
    · refine Nat.lt_of_le_of_lt (byteLength_parent ?_) hshort
      intro hnil
      have hlen := (w.absolute fs'.here).ending_length_le []
      simp [hnil] at hlen
  have hopen : openAt fs' ((w.absolute fs'.here).path []) =
      (fs', .ok ⟨(w.absolute fs'.here).path [], id⟩) := by
    have hmake : fs'.makeDirs (w.absolute fs'.here).dir = (fs', none) :=
      makeDirs_of_isDir hv.dirs hdir
    unfold openAt
    rw [hparent, hmake]
    simp only [LeadsToFile.openAppend ⟨_, hagain⟩]
  rw [open?, hw.path_eq hr']
  exact hopen

theorem LogFile.short_of_open? {w : LogSite} {fs fs' : FileSystem} {o : OpenFile} {t : FileName.Time}
    (hw : w.Literal) (hr : fs.Rooted) (h : open? fs t (w.path []).text = (fs', .ok o)) :
    byteLength ((w.absolute fs.here).path []).chars < pathLimit := by
  rw [open?, hw.path_eq hr] at h
  obtain ⟨-, l, hl⟩ := leadsToFile_of_openAt h
  exact byteLength_of_reach ((hw.valid.absolute hr.plain).normal List.not_mem_nil) hl

/-- Where the file is there already, trying to open it once more changes nothing, whether it opens
or not. -/
theorem LogFile.fs_open? {w : LogSite} {fs : FileSystem} {id : FileId} {t : FileName.Time}
    (hw : w.Literal) (hr : fs.Rooted) (h : fs.LeadsToFile (w.path []).text id) :
    (open? fs t (w.path []).text).1 = fs := by
  obtain ⟨l, hreach⟩ := h
  have hv := hw.valid.absolute hr.plain
  have hnormal := hv.normal (List.not_mem_nil (a := '/'))
  have hmake : (fs.makeDirs ((w.absolute fs.here).path []).parent).1 = fs := by
    obtain ⟨-, d, hlead⟩ :=
      of_reach_snoc (hw.valid.normal List.not_mem_nil) (w.name_noUp []) hreach
    rw [parent_path]
    exact ((leads_absolute hr w d).2 hlead).makeDirs_fst hv.dirs
  rw [open?, hw.path_eq hr]
  simp only [openAt]
  cases hdone : fs.makeDirs ((w.absolute fs.here).path []).parent with
  | mk fs₁ e =>
    obtain rfl : fs = fs₁ := hmake.symm.trans (congrArg Prod.fst hdone)
    cases e with
    | some e => rfl
    | none =>
      simp only
      cases hopen : fs.openAppend ((w.absolute fs.here).path []).text with
      | error e => rfl
      | ok done =>
        obtain ⟨fs₂, id₂⟩ := done
        -- what opens is not too long, and so the path leads to the file
        obtain ⟨-, l₂, hl₂⟩ := reach_of_openAppend hopen
        have hagain :=
          reach_absolute hr hw.valid List.not_mem_nil (byteLength_of_reach hnormal hl₂) hreach
        rw [LeadsToFile.openAppend ⟨l, hagain⟩] at hopen
        exact (Prod.mk.inj (Except.ok.inj hopen)).1.symm

namespace LogConfig

variable {c : LogConfig} {l l' : Logger}

theorem install_of_configure {ids : List Nat} (h : l.configure c.handlers = (l', .ok ids)) :
    c.install l = (l', .ok (.ofConfig c ids)) := by
  simp [install, h]

theorem configure_of_open? {path : String} {maxSize : Int} {roller : Roller}
    (hone : c.sinks.filter (·.target = .file) = [.file path maxSize roller]) (hlevel : c.level ≠ .off)
    {o : OpenFile} (hopen : (LogFile.open? l.fs (l.openingTime c.sinks) path).2 = .ok o) :
    ∃ l' ids, l.configure c.handlers = (l', .ok ids) := by
  have hhandlers : (c.handlers.map (·.1)).filter (·.target = .file) = [.file path maxSize roller] := by
    rwa [map_fst_handlers hlevel]
  have herror := Logger.addAll_error_iff hhandlers l.removeAll
  rw [map_fst_handlers hlevel] at herror
  change ∀ e, (l.configure c.handlers).2 = _ ↔
    (LogFile.open? l.fs (l.openingTime c.sinks) path).2 = _ at herror
  cases hconf : l.configure c.handlers with
  | mk l' result =>
    cases result with
    | ok ids => exact ⟨l', ids, rfl⟩
    | error e =>
      have hno := (herror e).1 (by rw [hconf])
      simp [hopen] at hno

end LogConfig

end ProfilerBootstrap

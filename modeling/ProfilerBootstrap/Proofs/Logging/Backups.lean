import ProfilerBootstrap.Proofs.Logging.History

namespace ProfilerBootstrap

open FileSystem LogSite

/-- A path that is taken as it is written: it has no fields and no way up. -/
structure IsLiteral (path : String) : Prop where
  noOpen : FileName.openBrace ∉ path.toList
  noClose : FileName.closeBrace ∉ path.toList
  noUp : ['.', '.'] ∉ (Path.ofText path).names

instance : DecidablePred IsLiteral := fun path => decidable_of_iff
  (FileName.openBrace ∉ path.toList ∧ FileName.closeBrace ∉ path.toList ∧
    ['.', '.'] ∉ (Path.ofText path).names)
  ⟨fun ⟨hopen, hclose, hup⟩ => ⟨hopen, hclose, hup⟩, fun h => ⟨h.noOpen, h.noClose, h.noUp⟩⟩

namespace LogSite

section
variable {w : LogSite} {path process : String} {dir : Path} {pid : Int} {policy : RollingPolicy}
  {maxSize : Int} {roller : Roller} {fs : FileSystem} {d : Location} {i : Nat}

theorem Valid.literal (hw : w.Valid) (h : IsLiteral (w.path []).text) : w.Literal := by
  refine ⟨hw, Path.toList_text _ ▸ h.noOpen, Path.toList_text _ ▸ h.noClose, fun hmem => ?_⟩
  have hnames := h.noUp
  rw [Path.ofText_text (hw.normal List.not_mem_nil)] at hnames
  exact hnames (List.mem_append_left _ hmem)

theorem exists_holds (hdir : dir.Normal)
    (hsink : LogSink.ofProcess dir process pid policy = .ok (.file path maxSize roller))
    (hliteral : IsLiteral path) :
    ∃ w : LogSite, w.Holds path roller ∧ ∀ i : Nat, roller.backup i = w.path (number i) := by
  obtain ⟨roller', hk, hpattern, hbase⟩ := ofProcess_ok hsink
  obtain ⟨hpath, -, rfl⟩ := LogSink.file.inj hk
  obtain ⟨w, hw, hactive, hbackup⟩ := exists_of_filePaths hdir process pid
  rw [hactive] at hpath
  rw [hbackup] at hpattern
  have hw' := hw.literal (hpath ▸ hliteral)
  have hnames := hw.names hbase hpattern hw'.noOpen
  refine ⟨w, ⟨hw', hpath, hnames⟩, fun i => ?_⟩
  have h := hnames.backup i
  rwa [hbase, Int.zero_add] at h

theorem Holds.exists_fresh (hw : w.Holds path roller)
    (hback : ∀ i : Nat, roller.backup i = w.path (number i)) (hs : fs.Sound)
    (hdir : fs.isDir (Path.ofText path).parent.text = true) (hactive : fs.IsFileOrFree path)
    (hfree : ∀ i : Nat, i < roller.count → fs.IsFree (roller.backup i).text) :
    ∃ d, w.Fresh roller.count d fs := by
  have hvalid := hw.literal.valid
  have hnormal := hvalid.normal List.not_mem_nil
  have hparent : (Path.ofText path).parent = w.dir := by
    rw [hw.path, Path.ofText_text hnormal, parent_path]
  rw [hparent] at hdir
  obtain ⟨d, hlead⟩ := leads_of_isDir hvalid.dirs hdir
  refine ⟨d, hs, hlead, fun hfits e he => ?_, fun i hi hfits => ?_⟩
  · rw [hw.path] at hactive
    exact hactive _ e (reach_snoc hnormal (w.name_noUp []) hfits hlead (by simp)) he
  · have hfree := hfree i hi
    rw [hback] at hfree
    exact hfree.find?_eq_none (hvalid.normal (slash_notMem_number i)) (w.name_noUp _) hlead hfits

theorem Valid.exists?_eq_false (hw : w.Valid) (hlead : fs.Leads w.dir d)
    (hnone : Fits w.slashes w.dirs (w.name (number i)) →
      fs.find? (d ++ [w.name (number i)]) = none) :
    fs.exists? (w.path (number i)).text = false := by
  have hnormal := hw.normal (slash_notMem_number i)
  by_cases hfits : Fits w.slashes w.dirs (w.name (number i))
  · have hplain : fs.NoDirOrLink (d ++ [w.name (number i)]) := fun e he => by
      simp [hnone hfits] at he
    have h := exists?_snoc hnormal (w.name_noUp _) hfits hlead hplain
    rw [hnone hfits] at h
    exact h
  · exact exists?_of_not_fits hnormal (w.name_noUp _) hfits

end

end LogSite

/-- What the backups and the log file hold, from the backup with the greatest number on. -/
def FileSystem.logContents (fs : FileSystem) (roller : Roller) (count : Nat) (path : String) :
    List ByteArray :=
  ((List.range count).reverse.map fun i : Nat => fs.contentAt (roller.backup i).text) ++
    [fs.contentAt path]

/-- A window has the backups that its files are known for, and they hold what the history says. -/
theorem Window.backups_ok {w : LogSite} {path : String} {roller : Roller} {d : Location}
    {first fs : FileSystem} {olds : List FileId} {cur : FileId} (hw : w.Holds path roller)
    (hback : ∀ i : Nat, roller.backup i = w.path (number i))
    (hf : Window w roller.count d first fs olds cur) {i : Nat}
    (hi : i < min olds.length roller.count) :
    ∃ id, olds[i]? = some id ∧ fs.bytesAt (roller.backup i).text = .ok (fs.read id) := by
  have hlt : i < olds.length := by omega
  have hne : olds ≠ [] := fun h => by simp [h] at hlt
  have hfits := hf.fitting hne i (by omega)
  refine ⟨olds[i], List.getElem?_eq_getElem hlt, ?_⟩
  have hfind := hf.backups i (by omega) hfits
  rw [List.getElem?_eq_getElem hlt] at hfind
  rw [hback]
  exact bytesAt_snoc (hw.literal.valid.normal (slash_notMem_number i)) (w.name_noUp _) hfits hf.lead
    hfind

theorem Window.logContents_eq {w : LogSite} {path : String} {roller : Roller} {d : Location}
    {first fs : FileSystem} {olds : List FileId} {cur : FileId} (hw : w.Holds path roller)
    (hback : ∀ i : Nat, roller.backup i = w.path (number i))
    (hf : Window w roller.count d first fs olds cur) :
    fs.logContents roller (min olds.length roller.count) path =
      (texts fs olds cur).drop (olds.length - min olds.length roller.count) := by
  have hcur : fs.contentAt path = fs.read cur := by
    rw [hw.path]
    have h := contentAt_snoc (hw.literal.valid.normal List.not_mem_nil) (w.name_noUp []) hf.fits
      hf.lead hf.noDirOrLink
    rw [hf.active] at h
    exact h
  have htake : (List.range (min olds.length roller.count)).map
      (fun i : Nat => fs.contentAt (roller.backup i).text) =
        (olds.map fs.read).take (min olds.length roller.count) := by
    apply List.ext_getElem?
    intro i
    by_cases hi : i < min olds.length roller.count
    · obtain ⟨id, hid, hbytes⟩ := hf.backups_ok hw hback hi
      rw [List.getElem?_take_of_lt hi, List.getElem?_map, List.getElem?_map, hid,
        List.getElem?_range hi]
      simp [contentAt, hbytes]
    · rw [List.getElem?_eq_none (by simp; omega), List.getElem?_eq_none (by simp; omega)]
  have hkept : olds.length - (olds.length - min olds.length roller.count) =
      min olds.length roller.count := by omega
  rw [logContents, List.map_reverse, htake, hcur, texts, List.drop_append_of_le_length (by simp),
    List.drop_reverse, List.length_map, hkept]

theorem Window.length_rolled {h : LogHistory} {before : ByteArray} {fs : FileSystem}
    {olds : List FileId} {cur : FileId} (hh : h.contents before = texts fs olds cur) :
    h.rolled.length = olds.length := by
  have hlen := congrArg List.length hh
  rw [LogHistory.length_contents] at hlen
  simpa [texts] using hlen

namespace Host

namespace Tracks

section
variable {w : LogSite} {d : Location} {path : String} {maxSize : Int} {roller : Roller}
  {first : FileSystem} {s : Host} {h : LogHistory} {i : Nat} (hw : w.Holds path roller)
  (hback : ∀ i : Nat, roller.backup i = w.path (number i))
  (htracks : Tracks w d path maxSize roller first s h)

include hw hback htracks

theorem backup_ok (hi : i < min h.rolled.length roller.count) :
    ∃ bytes, s.logger.fs.bytesAt (roller.backup i).text = .ok bytes := by
  cases htracks with
  | unopened _ _ hh => simp [hh] at hi
  | opened olds cur hwin _ hh =>
    rw [Window.length_rolled hh] at hi
    obtain ⟨id, -, hbytes⟩ := hwin.backups_ok hw hback hi
    exact ⟨_, hbytes⟩

theorem exists?_backup (hfresh : w.Fresh roller.count d first)
    (hi : min h.rolled.length roller.count ≤ i)
    (hfree : first.IsFree (roller.backup i).text) :
    s.logger.fs.exists? (roller.backup i).text = false := by
  have hvalid := hw.literal.valid
  rw [hback] at hfree ⊢
  have hfirst : Fits w.slashes w.dirs (w.name (number i)) →
      first.find? (d ++ [w.name (number i)]) = none :=
    hfree.find?_eq_none (hvalid.normal (slash_notMem_number i)) (w.name_noUp _) hfresh.lead
  cases htracks with
  | unopened hfs _ _ =>
    rw [hfs]
    exact hvalid.exists?_eq_false hfresh.lead hfirst
  | opened olds cur hwin _ hh =>
    rw [Window.length_rolled hh] at hi
    refine hvalid.exists?_eq_false hwin.lead fun hfits => ?_
    -- a number of the window has no file yet, and one beyond it is as it was in the beginning
    by_cases hcount : i < roller.count
    · rw [hwin.backups i hcount hfits, List.getElem?_eq_none (by omega)]
      rfl
    · rw [hwin.beyond i (by omega)]
      exact hfirst hfits

theorem logContents_eq :
    s.logger.fs.logContents roller (min h.rolled.length roller.count) path =
      (h.contents (first.contentAt path)).drop
        (h.rolled.length - min h.rolled.length roller.count) := by
  cases htracks with
  | unopened hfs _ hh => simp [hfs, hh, logContents, LogHistory.contents]
  | opened olds cur hwin _ hh =>
    rw [hh, Window.length_rolled hh]
    exact hwin.logContents_eq hw hback

end

end Tracks

/-- After a run in which nothing fails there are the backups with the least numbers, as many of them
as files were rolled, up to the size of the window. With the log file they hold the last files of
the history; the others are the oldest, and all of them together hold what was there in the
beginning and every line that was written. -/
theorem backups_of_smoothRun {dir process path : String} {pid : Int} {policy : RollingPolicy}
    {maxSize : Int} {roller : Roller} {s s' : Host} {h : LogHistory} {steps : List Step}
    (hsink : LogSink.ofProcess (.ofText dir) process pid policy = .ok (.file path maxSize roller))
    (hliteral : IsLiteral path) (hs : s.logger.fs.Sound)
    (hdir : s.logger.fs.isDir (Path.ofText path).parent.text = true)
    (hactive : s.logger.fs.IsFileOrFree path)
    (hfree : ∀ i : Nat, i < roller.count → s.logger.fs.IsFree (roller.backup i).text)
    (hfiles : s.logger.logFiles = []) (hsteps : ∀ st ∈ steps, st.KeepsTo path maxSize roller)
    (hrun : s.smoothRun ⟨[], []⟩ steps = some (s', h)) :
    let files := h.contents (s.logger.fs.contentAt path)
    let kept := min h.rolled.length roller.count
    let lost := h.rolled.length - kept
    (∀ i : Nat, i < kept → ∃ bytes, s'.logger.fs.bytesAt (roller.backup i).text = .ok bytes) ∧
      (∀ i : Nat, kept ≤ i → s.logger.fs.IsFree (roller.backup i).text →
        s'.logger.fs.exists? (roller.backup i).text = false) ∧
      s'.logger.fs.logContents roller kept path = files.drop lost ∧
      LogHistory.joined (files.take lost) ++
          LogHistory.joined (s'.logger.fs.logContents roller kept path) =
        s.logger.fs.contentAt path ++ (String.join (s.linesOfRun steps)).toUTF8 := by
  intro files kept lost
  obtain ⟨w, hw, hback⟩ := LogSite.exists_holds (Path.normal_ofChars _) hsink hliteral
  obtain ⟨d, hfresh⟩ := hw.exists_fresh hback hs hdir hactive hfree
  have htracks : Tracks w d path maxSize roller s.logger.fs s' h :=
    Tracks.run hw hfresh (.unopened rfl hfiles rfl) hsteps hrun
  have hlog : s'.logger.fs.logContents roller kept path = files.drop lost :=
    htracks.logContents_eq hw hback
  have hlines : h.lines = s.linesOfRun steps := lines_smoothRun hrun
  refine ⟨fun i hi => htracks.backup_ok hw hback hi,
    fun i hi hfree => htracks.exists?_backup hw hback hfresh hi hfree, hlog, ?_⟩
  rw [hlog, ← LogHistory.joined_append, List.take_append_drop, LogHistory.joined_contents, hlines]

/-- Three lines of fourteen bytes in files of at most twenty, with a window for one backup: the
first line is lost. -/
theorem backups_of_smoothRun_small :
    let path := "elastic_apm_profiler_p_1.log"
    let roller : Roller := ⟨"elastic_apm_profiler_p_1_\x7b\x7d.log", 1, 0, by decide +kernel⟩
    let s : Host := ⟨⟨.fresh [['r']], [⟨0, 0, .stderr⟩], 1, "", [], "", "", fun _ _ => default⟩, []⟩
    let log (m : String) : Step := .log "T" ⟨.error, m⟩
    let steps := [.install ⟨.warn, [.stdout, .file path 20 roller]⟩, log "a", log "b", .shutdown 0,
      .install ⟨.info, [.file path 20 roller]⟩, log "c"]
    ∃ s' : Host,
      s.smoothRun ⟨[], []⟩ steps =
        some (s', ⟨[["[T] [ERROR] a\n"], ["[T] [ERROR] b\n"]], ["[T] [ERROR] c\n"]⟩) ∧
      s'.logger.fs.logContents roller 1 path =
        ["[T] [ERROR] b\n".toUTF8, "[T] [ERROR] c\n".toUTF8] := by
  intro path roller s log steps
  have hpaths : LogSink.filePaths (.ofText "") "p" 1 =
      (.ofText path, "elastic_apm_profiler_p_1_\x7b\x7d.log") := by decide +kernel
  have htext : (Path.ofText path).text = path := by decide +kernel
  have hsink : LogSink.ofProcess (.ofText "") "p" 1 ⟨20, 1⟩ = .ok (.file path 20 roller) := by
    simp only [LogSink.ofProcess, hpaths, htext, Roller.ofPolicy, Roller.make]
    rfl
  have hliteral : IsLiteral path := ⟨by decide +kernel, by decide +kernel, by decide +kernel⟩
  have hs : s.logger.fs.Sound := sound_fresh fun n hn => by
    obtain rfl := List.mem_singleton.1 hn
    exact ⟨by decide, by decide, by decide, by decide, by decide⟩
  have hfreeAt : ∀ text l, (s.logger.fs.reach false text).toOption = some ⟨l, none⟩ →
      s.logger.fs.IsFree text := by
    intro text l htext q hq
    rw [hq] at htext
    rw [Option.some.inj htext]
  have hactive : s.logger.fs.IsFree path := hfreeAt _ [['r'], path.toList] (by decide +kernel)
  have hfree : ∀ i : Nat, i < roller.count → s.logger.fs.IsFree (roller.backup i).text := by
    intro i hi
    obtain rfl : i = 0 := Nat.lt_one_iff.1 hi
    exact hfreeAt _ [['r'], "elastic_apm_profiler_p_1_0.log".toList] (by decide +kernel)
  have hrun : (s.smoothRun ⟨[], []⟩ steps).map (·.2) =
      some ⟨[["[T] [ERROR] a\n"], ["[T] [ERROR] b\n"]], ["[T] [ERROR] c\n"]⟩ := by decide +kernel
  obtain ⟨⟨s', h⟩, hrun, rfl⟩ := Option.map_eq_some_iff.1 hrun
  have hkeeps : ∀ st ∈ steps, st.KeepsTo path 20 roller := by
    intro st hst
    simp only [steps, List.mem_cons, List.not_mem_nil, or_false] at hst
    rcases hst with rfl | rfl | rfl | rfl | rfl | rfl
    · exact List.Sublist.refl _
    · trivial
    · trivial
    · trivial
    · exact List.Sublist.refl _
    · trivial
  obtain ⟨-, -, hcontents, -⟩ := backups_of_smoothRun hsink hliteral hs (by decide +kernel)
    (fun q e hq he => by simp [hactive q hq] at he) hfree rfl hkeeps hrun
  refine ⟨s', hrun, ?_⟩
  have hempty : s.logger.fs.contentAt path = .empty := by decide +kernel
  rw [hempty] at hcontents
  exact hcontents.trans (by decide +kernel)

end Host

end ProfilerBootstrap

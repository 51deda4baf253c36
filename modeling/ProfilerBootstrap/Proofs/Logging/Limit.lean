import ProfilerBootstrap.Proofs.FileSystem.Location
import ProfilerBootstrap.Proofs.Logging.Apart
import ProfilerBootstrap.Proofs.Logging.Routing
import ProfilerBootstrap.Proofs.Logging.Stores

namespace ProfilerBootstrap

open FileSystem LogSite

namespace LogFile

/-- A file that is not too long as lines are counted: it is within the limit, or it would be if its
last line had one byte for each character. -/
def Counted (maxSize : Int) (lines : List String) (bytes : ByteArray) : Prop :=
  bytes.size ≤ maxSize ∨ ∃ before, ∃ line ∈ lines, bytes = before ++ line.toUTF8 ∧
    (before.size : Int) + line.length ≤ maxSize

section
variable {maxSize : Int} {lines : List String} {bytes : ByteArray} {line : String}

theorem counted_empty (hlimit : 0 ≤ maxSize) : Counted maxSize lines .empty := .inl hlimit

/-- A line is added to a file where both are short enough, or begins a new one. -/
theorem counted_append (hline : line ∈ lines) (hsize : (line.utf8ByteSize : Int) ≤ maxSize)
    (h : ¬ maxSize < bytes.size + line.length ∨ bytes = .empty) :
    Counted maxSize lines (bytes ++ line.toUTF8) := by
  obtain h | rfl := h
  · exact .inr ⟨bytes, line, hline, rfl, Int.not_lt.1 h⟩
  · rw [ByteArray.empty_append]
    exact .inl hsize

theorem Counted.size_lt (h : Counted maxSize lines bytes) (hlimit : 1 ≤ maxSize)
    (hlines : ∀ line ∈ lines, (line.utf8ByteSize : Int) ≤ maxSize) : bytes.size < 2 * maxSize := by
  obtain h | ⟨before, line, hmem, rfl, h⟩ := h
  · omega
  · have hsize := hlines line hmem
    have hbytes : (before ++ line.toUTF8).size = before.size + line.utf8ByteSize :=
      ByteArray.size_append
    rw [hbytes]
    by_cases hempty : line.utf8ByteSize = 0
    · omega
    · have hpos : line.length ≠ 0 := fun hlen => by
        have hnil : line = "" := by simpa using hlen
        simp [hnil] at hempty
      omega

theorem Counted.size_le (h : Counted maxSize lines bytes)
    (hlines : ∀ line ∈ lines, line.utf8ByteSize = line.length) : bytes.size ≤ maxSize := by
  obtain h | ⟨before, line, hmem, rfl, h⟩ := h
  · exact h
  · have hbytes : (before ++ line.toUTF8).size = before.size + line.utf8ByteSize :=
      ByteArray.size_append
    rw [hbytes, hlines line hmem]
    omega

end

theorem write_snd (l : LogFile) (fs : FileSystem) (line : String) :
    (l.write fs line).2 = l.next (l.write fs line).2.file := by
  unfold write
  split <;> rfl

end LogFile

namespace LogSite

section
variable {w : LogSite} {d : Location} {ok : ByteArray → Prop} {S : Name → Prop} {fs : FileSystem}
  {mark : Name} {count : Nat}

theorem Fresh.stores (h : w.Fresh count d fs) (hw : w.Valid)
    (hlinks : ∀ n target, fs.find? (d ++ [n]) ≠ some (.link target))
    (hok : ok (fs.contentAt (w.path []).text)) : w.Stores d ok (Marks count) fs where
  sound := h.sound
  lead := h.lead
  noLink := hlinks
  file mark e hmark hfits he := by
    obtain rfl | ⟨i, hi, rfl⟩ := hmark
    · obtain ⟨id, rfl⟩ := h.plain hfits e he
      have hbytes : fs.bytesAt (w.path []).text = .ok (fs.read id) :=
        bytesAt_snoc (hw.normal List.not_mem_nil) (w.name_noUp []) hfits h.lead he
      rw [contentAt, hbytes] at hok
      exact ⟨id, rfl, hok⟩
    · simp [h.free i hi hfits] at he

theorem Stores.weaken {ok' : ByteArray → Prop} (h : w.Stores d ok S fs)
    (hok : ∀ bytes, ok bytes → ok' bytes) : w.Stores d ok' S fs where
  sound := h.sound
  lead := h.lead
  noLink := h.noLink
  file mark e hmark hfits he := by
    obtain ⟨id, rfl, hid⟩ := h.file mark e hmark hfits he
    exact ⟨id, rfl, hok _ hid⟩

theorem Stores.bytesAt_ok (h : w.Stores d ok S fs) (hw : w.Valid) (hS : S mark)
    (hslash : '/' ∉ mark) {bytes : ByteArray}
    (hbytes : fs.bytesAt (w.path mark).text = .ok bytes) : ok bytes := by
  obtain ⟨q, hq, hentry⟩ := bind_ok hbytes
  obtain ⟨hfits, rfl⟩ := eq_of_reach_snoc (hw.normal hslash) (w.name_noUp mark) h.lead
    (fun _ hfits => h.plain hS hfits) hq
  dsimp only at hentry
  split at hentry
  · simp [refuse] at hentry
  · rename_i id hfile
    obtain ⟨id', hid, hok⟩ := h.file mark _ hS hfits hfile
    obtain rfl := Entry.file.inj hid
    obtain rfl := Except.ok.inj hentry
    exact hok
  · simp [refuse] at hentry

end

end LogSite

namespace Logger

/-- One handler writes to a log file, and the files of its site hold what they may. -/
structure StoresIn (w : LogSite) (d : Location) (ok : ByteArray → Prop) (threshold : Nat)
    (path : String) (maxSize : Int) (roller : Roller) (l : Logger) : Prop where
  stores : w.Stores d ok (Marks roller.count) l.fs
  file : ∃ p o clock, l.logFiles = [(threshold, ⟨path, maxSize, roller, o, clock⟩)] ∧
    LogFile.Attached (· = p) l.fs ⟨path, maxSize, roller, o, clock⟩

section
variable {w : LogSite} {d : Location} {ok : ByteArray → Prop} {t : Nat} {path : String}
  {maxSize : Int} {roller : Roller} {l : Logger}

/-- A record leaves the files of the site as they may be, whether its line is written or not. Where
it is written, the file has been rolled before if it and the line are too long together. -/
theorem StoresIn.emit (h : l.StoresIn w d ok t path maxSize roller) (hw : w.Holds path roller)
    (hempty : ok .empty) (now : String) (r : LogRecord)
    (hline : t ≤ r.severity.number → ∀ bytes : ByteArray,
      ¬ maxSize < bytes.size + (r.line now).length ∨ bytes = .empty →
        ok (bytes ++ (r.line now).toUTF8)) :
    ({ l with now := now }.emit r).StoresIn w d ok t path maxSize roller ∧
      (t ≤ r.severity.number → ({ l with now := now }.emit r).isOpen = true →
        ({ l with now := now }.emit r).fs.contentAt path =
          (if maxSize < (l.fs.contentAt path).size + (r.line now).length then .empty
            else l.fs.contentAt path) ++ (r.line now).toUTF8) := by
  obtain ⟨hstores, p, o, clock, hf, hat⟩ := h
  obtain ⟨hfs, hfiles⟩ := emit_of_one_file now r hf
  by_cases hlow : r.severity.number < t
  · rw [written, if_pos hlow] at hfs hfiles
    refine ⟨⟨hfs ▸ hstores, p, o, clock, hfiles, hfs ▸ hat⟩, fun hr => absurd hlow (Nat.not_lt.2 hr)⟩
  · rw [written, if_neg hlow] at hfs hfiles
    obtain ⟨hstores', hcontent⟩ := hstores.write hw hat hempty (hline (Nat.not_lt.1 hlow))
    have hat' := (hat.write (r.line now)).1
    rw [LogFile.write_snd] at hfiles hat'
    refine ⟨⟨hfs ▸ hstores', p, _, _, hfiles, hfs ▸ hat'⟩, fun _ hopen => ?_⟩
    rw [hfs]
    rw [isOpen_of_one_file hfiles] at hopen
    exact hcontent hopen

theorem StoresIn.logAll {level : Level} {s : Severity} {lines : List String}
    (h : l.StoresIn w d (LogFile.Counted maxSize lines) s.number path maxSize roller)
    (hw : w.Holds path roller) (hs : level.severity? = some s) (hlimit : 1 ≤ maxSize)
    (rs : List (String × LogRecord))
    (hlines : ∀ line ∈ level.lines rs, line ∈ lines ∧ (line.utf8ByteSize : Int) ≤ maxSize) :
    (l.logAll rs).StoresIn w d (LogFile.Counted maxSize lines) s.number path maxSize roller := by
  induction rs generalizing l with
  | nil => exact h
  | cons x rs ih =>
    obtain ⟨now, r⟩ := x
    rw [Level.lines_cons] at hlines
    refine ih (h.emit hw (LogFile.counted_empty (by omega)) now r fun hr bytes hbytes => ?_).1
      fun line hline => hlines line (List.mem_append_right _ hline)
    have htakes : level.takes r = true := by
      rw [Level.takes_of_severity hs]
      exact decide_eq_true hr
    obtain ⟨hmem, hsize⟩ := hlines (r.line now) (by simp [htakes])
    exact LogFile.counted_append hmem hsize hbytes

end

end Logger

namespace LogConfig

section
variable {dir process path : String} {pid : Int} {policy : RollingPolicy} {maxSize : Int}
  {roller : Roller} {c : LogConfig} {l l₀ : Logger} {h : LogHandle}

theorem storesIn_of_install {w : LogSite} {d : Location} {s : Severity} {ok : ByteArray → Prop}
    (hw : w.Holds path roller) (hfresh : w.Fresh roller.count d l.fs)
    (hlinks : ∀ n target, l.fs.find? (d ++ [n]) ≠ some (.link target)) (hempty : ok .empty)
    (hok : ok (l.fs.contentAt path)) (hs : c.level.severity? = some s)
    (hone : c.sinks.filter (·.target = .file) = [.file path maxSize roller])
    (hi : c.install l = (l₀, .ok h)) (hfile : .file ∈ h.activeTargets) :
    l₀.StoresIn w d ok s.number path maxSize roller := by
  have hvalid := hw.literal.valid
  obtain ⟨file, hlog⟩ : ∃ file, h.logFile = some file := by
    refine Option.ne_none_iff_exists'.1 fun hnone => ?_
    exact (install_spec hi).2.1.1 hnone hfile
  obtain ⟨hconf, -, -⟩ := configure_of_logFile hi hlog
  obtain ⟨o, hopen, hfiles⟩ := logFiles_of_configure hs hone hconf
  rw [hw.path] at hok
  have hstores : w.Stores d ok (Marks roller.count) l.fs := hfresh.stores hvalid hlinks hok
  have hat := LogFile.attached_of_open? (l.clock (l.fileNumber c.sinks)) hfresh.sound.stocked hopen
    maxSize roller
  -- at any time the path stands for the same
  have hsame : ∀ p, (∃ n, LogFile.path l.fs (l.clock (l.fileNumber c.sinks) n).time path = .ok p) →
      p = (w.absolute l.fs.here).path [] := by
    rintro p ⟨n, hn⟩
    exact Except.ok.inj (hn.symm.trans (hstores.path_eq hw _))
  rw [LogFile.open?, hstores.path_eq hw] at hopen
  exact ⟨(hstores.openAt hvalid (.inl rfl) hempty hopen).1, _, some o, _, hfiles, hat.mono hsame⟩

/-- Where the log file of a process begins with no more bytes than the limit and without backups, no
file of the log becomes longer than the limit by more than the bytes that one line has beyond its
characters, whatever is logged, as long as each line alone is within the limit; so it stays within
the limit if the lines have one byte a character, and within twice the limit at any rate. A file is
rolled before a line where its bytes and the characters of the line are together more than the
limit, and otherwise the line is added to it. -/
theorem install_limits
    (hsink : LogSink.ofProcess (.ofText dir) process pid policy = .ok (.file path maxSize roller))
    (hliteral : IsLiteral path) (hsound : l.fs.Sound)
    (hdir : l.fs.isDir (Path.ofText path).parent.text = true)
    (hlinks : ∀ d, l.fs.Leads (Path.ofText path).parent d →
      ∀ n target, l.fs.find? (d ++ [n]) ≠ some (.link target))
    (hactive : l.fs.IsFileOrFree path)
    (hfree : ∀ i : Nat, i < roller.count → l.fs.IsFree (roller.backup i).text)
    (hlimit : 1 ≤ maxSize) (hbegin : (l.fs.contentAt path).size ≤ maxSize)
    (hlevel : c.level ≠ .off)
    (hone : c.sinks.filter (·.target = .file) = [.file path maxSize roller])
    (hi : c.install l = (l₀, .ok h)) (hfile : .file ∈ h.activeTargets)
    (rs : List (String × LogRecord))
    (hlines : ∀ line ∈ c.level.lines rs, (line.utf8ByteSize : Int) ≤ maxSize) :
    let after := l₀.logAll rs
    (∀ file ∈ (LogSink.file path maxSize roller).files, ∀ bytes,
      after.fs.bytesAt file.text = .ok bytes →
        LogFile.Counted maxSize (c.level.lines rs) bytes ∧ bytes.size < 2 * maxSize ∧
        ((∀ line ∈ c.level.lines rs, line.utf8ByteSize = line.length) → bytes.size ≤ maxSize)) ∧
      ∀ now r, c.level.takes r = true →
        let next := { after with now := now }.emit r
        next.isOpen = true → next.fs.contentAt path =
          (if maxSize < (after.fs.contentAt path).size + (r.line now).length then .empty
            else after.fs.contentAt path) ++ (r.line now).toUTF8 := by
  intro after
  obtain ⟨w, hw, hback⟩ := exists_holds (Path.normal_ofChars _) hsink hliteral
  obtain ⟨d, hfresh⟩ := hw.exists_fresh hback hsound hdir hactive hfree
  obtain ⟨s, hs⟩ := severity_of_level hlevel
  have hvalid := hw.literal.valid
  have hpath : Path.ofText path = w.path [] := by
    rw [hw.path, Path.ofText_text (hvalid.normal List.not_mem_nil)]
  have hlinks : ∀ n target, l.fs.find? (d ++ [n]) ≠ some (.link target) := by
    refine hlinks d ?_
    rw [hpath, parent_path]
    exact hfresh.lead
  have hstart : l₀.StoresIn w d (LogFile.Counted maxSize (c.level.lines rs)) s.number path maxSize
      roller :=
    storesIn_of_install hw hfresh hlinks (LogFile.counted_empty (by omega)) (.inl hbegin) hs hone hi
      hfile
  have hafter : after.StoresIn w d (LogFile.Counted maxSize (c.level.lines rs)) s.number path maxSize
      roller :=
    hstart.logAll hw hs hlimit rs fun line hline => ⟨hline, hlines line hline⟩
  refine ⟨fun file hmem bytes hbytes => ?_, fun now r htakes hopen => ?_⟩
  · obtain ⟨mark, hmark, rfl⟩ : ∃ mark, Marks roller.count mark ∧ file = w.path mark := by
      obtain rfl | hmem := List.mem_cons.1 hmem
      · exact ⟨[], .inl rfl, hpath⟩
      · obtain ⟨i, hi, rfl⟩ := List.mem_map.1 hmem
        exact ⟨number i, .inr ⟨i, List.mem_range.1 hi, rfl⟩, hback i⟩
    have hcounted := hafter.stores.bytesAt_ok hvalid hmark hmark.slash_notMem hbytes
    exact ⟨hcounted, hcounted.size_lt hlimit hlines, hcounted.size_le⟩
  · have hany : after.StoresIn w d (fun _ => True) s.number path maxSize roller :=
      ⟨hafter.stores.weaken fun _ _ => trivial, hafter.file⟩
    rw [Level.takes_of_severity hs, decide_eq_true_iff] at htakes
    exact (hany.emit hw trivial now r fun _ _ _ => trivial).2 htakes hopen

/-- Two lines of 14 and 33 bytes go to one file of at most 40 bytes, as the second one has no more
than 23 characters. A third line goes to a new file. -/
theorem install_limits_over :
    let path := "elastic_apm_profiler_p_1.log"
    let roller : Roller := ⟨"elastic_apm_profiler_p_1_\x7b\x7d.log", 2, 0, by decide⟩
    let c : LogConfig := ⟨.info, [.file path 40 roller]⟩
    let l : Logger := ⟨.fresh [['r']], [], 0, "", [], "", "", fun _ _ => default⟩
    let rs : List (String × LogRecord) := [("T", ⟨.info, "a"⟩), ("T", ⟨.info, "éééééééééé"⟩)]
    let third : LogRecord := ⟨.info, "b"⟩
    ∃ l₀ h, c.install l = (l₀, .ok h) ∧ .file ∈ h.activeTargets ∧
      ((l₀.logAll rs).fs.contentAt path).size = 47 ∧
      LogFile.Counted 40 (c.level.lines rs) ((l₀.logAll rs).fs.contentAt path) ∧
      ({ l₀.logAll rs with now := "T" }.emit third).fs.contentAt path = (third.line "T").toUTF8 := by
  intro path roller c l rs third
  have hpaths : LogSink.filePaths (.ofText "") "p" 1 =
      (.ofText path, "elastic_apm_profiler_p_1_\x7b\x7d.log") := by decide +kernel
  have htext : (Path.ofText path).text = path := by decide +kernel
  have hsink : LogSink.ofProcess (.ofText "") "p" 1 ⟨40, 2⟩ = .ok (.file path 40 roller) := by
    simp only [LogSink.ofProcess, hpaths, htext, Roller.ofPolicy, Roller.make]
    rfl
  have hs : l.fs.Sound := sound_fresh (by decide)
  have hlinks : ∀ d, l.fs.Leads (Path.ofText path).parent d →
      ∀ n target, l.fs.find? (d ++ [n]) ≠ some (.link target) := fun d _ n target =>
    noLinks_fresh [['r']] (d ++ [n]) target
  have hactive : l.fs.IsFree path :=
    isFree_of_toOption (l := [['r'], path.toList]) (by decide +kernel)
  have hfree : ∀ i : Nat, i < roller.count → l.fs.IsFree (roller.backup i).text := by
    have hreach : ∀ i < 2, (l.fs.reach false (roller.backup (i : Nat)).text).toOption =
        some ⟨[['r'], s!"elastic_apm_profiler_p_1_{i}.log".toList], none⟩ := by decide +kernel
    exact fun i hi => isFree_of_toOption (hreach i hi)
  obtain ⟨result, hresult⟩ : ∃ result, result = c.install l := ⟨_, rfl⟩
  have htargets : result.2.toOption.map (·.activeTargets) = some [.file] := by
    rw [hresult]
    decide +kernel
  have hsize : ((result.1.logAll rs).fs.contentAt path).size = 47 := by
    rw [hresult]
    decide +kernel
  have hopen : ({ result.1.logAll rs with now := "T" }.emit third).isOpen = true := by
    rw [hresult]
    decide +kernel
  have hlines : ∀ line ∈ c.level.lines rs, (line.utf8ByteSize : Int) ≤ 40 := by decide +kernel
  have hbegin : ((l.fs.contentAt path).size : Int) ≤ 40 := by decide +kernel
  have hdir : l.fs.isDir (Path.ofText path).parent.text = true := by decide +kernel
  have hliteral : IsLiteral path := by decide +kernel
  have hone : c.sinks.filter (·.target = .file) = [.file path 40 roller] := rfl
  have hlevel : c.level ≠ .off := by decide
  have htakes : c.level.takes third = true := by decide
  have hlength : (third.line "T").length = 14 := by decide +kernel
  clear_value c l rs third path roller
  obtain ⟨l₀, e | h⟩ := result
  · simp [Except.toOption] at htargets
  have htargets : h.activeTargets = [.file] := by simpa [Except.toOption] using htargets
  have htarget : .file ∈ h.activeTargets := by simp [htargets]
  obtain ⟨hcounted, htrigger⟩ := install_limits hsink hliteral hs hdir hlinks
    (fun q e hq he => by simp [hactive q hq] at he) hfree (by decide) hbegin hlevel hone
    hresult.symm htarget rs hlines
  have hbytes := bytesAt_of_contentAt (show ((l₀.logAll rs).fs.contentAt path).size ≠ 0 by
    rw [hsize]
    decide)
  refine ⟨l₀, h, hresult.symm, htarget, hsize, ?_, ?_⟩
  · exact (hcounted (.ofText path) List.mem_cons_self _ (by rwa [htext])).1
  · rw [htrigger "T" third htakes hopen, hsize, hlength, if_pos (by decide),
      ByteArray.empty_append]

end

end LogConfig

end ProfilerBootstrap

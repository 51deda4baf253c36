import ProfilerBootstrap.Logging.History
import ProfilerBootstrap.Proofs.FileSystem.Reopen
import ProfilerBootstrap.Proofs.Logging.Files
import ProfilerBootstrap.Proofs.Logging.Frame

namespace ProfilerBootstrap

open FileSystem

namespace LogFile

section
variable {fs fs' : FileSystem} {p : Path} {l : LogFile} {o : OpenFile} {line : String}

theorem path_congr (h : fs'.here = fs.here) (t : FileName.Time) (name : String) :
    path fs' t name = path fs t name := by
  simp only [path, absolute, h]

theorem leadsToFile_of_openAt (h : openAt fs p = (fs', .ok o)) :
    o.path = p ∧ fs'.LeadsToFile p.text o.id := by
  unfold openAt at h
  split at h
  · simp at h
  · split at h
    · rename_i hopen
      obtain ⟨rfl, ho⟩ := Prod.mk.inj h
      obtain rfl := Except.ok.inj ho
      exact ⟨rfl, (reach_of_openAppend hopen).2⟩
    · simp at h

theorem leadsToFile_of_open? {t : FileName.Time} {name : String}
    (h : open? fs t name = (fs', .ok o)) :
    path fs t name = .ok o.path ∧ fs'.LeadsToFile o.path.text o.id := by
  unfold open? at h
  split at h
  · rename_i p hp
    obtain ⟨rfl, hlead⟩ := leadsToFile_of_openAt h
    exact ⟨hp, hlead⟩
  · simp at h

theorem leadsToFile_of_rotate {m : Moment} {old : Path} (h : l.rotate fs m old = (fs', .ok o)) :
    path fs m.time l.name = .ok o.path ∧ fs'.LeadsToFile o.path.text o.id := by
  unfold rotate at h
  split at h
  · simp at h
  · rename_i p hp
    split at h
    · simp at h
    · split at h
      · simp at h
      · split at h
        · simp at h
        · split at h
          · rename_i hopen
            obtain ⟨rfl, ho⟩ := Prod.mk.inj h
            obtain rfl := Except.ok.inj ho
            exact ⟨hp, (reach_of_openAppend hopen).2⟩
          · simp at h

end

/-- Whenever the log file is opened, its name stands for one of some paths, and a file that is open
is the one at such a path. -/
structure Attached (stands : Path → Prop) (fs : FileSystem) (l : LogFile) : Prop where
  stocked : fs.Stocked
  path : ∀ n p, LogFile.path fs (l.clock n).time l.name = .ok p → stands p
  file : ∀ o, l.file = some o → stands o.path ∧ fs.LeadsToFile o.path.text o.id

/-- A log file that was opened by its name is attached to the paths that the name stands for in the
course of time. -/
theorem attached_of_open? {fs fs' : FileSystem} {name : String} {o : OpenFile}
    (clock : Nat → Moment) (hstocked : fs.Stocked)
    (h : open? fs (clock 0).time name = (fs', .ok o)) (maxSize : Int) (roller : Roller) :
    Attached (fun p => ∃ n, path fs (clock n).time name = .ok p) fs'
      ⟨name, maxSize, roller, some o, fun n => clock (n + 1)⟩ := by
  obtain ⟨hpath, hlead⟩ := leadsToFile_of_open? h
  have hhere := kept_open? (kept_here fs.here).toKeptByEntries rfl (clock 0).time name
  have hkept := kept_open? kept_stocked.toKeptByEntries hstocked (clock 0).time name
  rw [h] at hhere hkept
  refine ⟨hkept, fun n p hp => ⟨n + 1, (path_congr hhere _ _).symm.trans hp⟩, ?_⟩
  rintro o' ⟨⟩
  exact ⟨⟨0, hpath⟩, hlead⟩

namespace Attached

section
variable {fs : FileSystem} {stands : Path → Prop} {l : LogFile} (line : String)

theorem mono {stands' : Path → Prop} (h : Attached stands fs l) (hs : ∀ p, stands p → stands' p) :
    Attached stands' fs l where
  stocked := h.stocked
  path n p hp := hs p (h.path n p hp)
  file o ho := ⟨hs _ (h.file o ho).1, (h.file o ho).2⟩

/-- The file that a line belongs in is at a path that the name stands for. Where no rotation is due
it is the one that is open. -/
theorem fileFor (h : Attached stands fs l) {fs' : FileSystem} {o : OpenFile}
    (hfor : l.fileFor fs line = (fs', .ok o)) :
    stands o.path ∧ fs'.LeadsToFile o.path.text o.id ∧
      ∀ f, l.file = some f → l.isDue fs line = false → fs' = fs ∧ o = f := by
  cases hfile : l.file with
  | some f =>
    obtain ⟨hpath, hlead⟩ := h.file f hfile
    simp only [LogFile.fileFor, hfile] at hfor
    simp only [LogFile.isDue, hfile]
    split at hfor
    · rename_i hfull
      obtain ⟨ho, hlead'⟩ := leadsToFile_of_rotate hfor
      refine ⟨h.path 1 _ ho, hlead', ?_⟩
      rintro f' ⟨⟩ hno
      exact absurd hfull (by simp [hno])
    · obtain ⟨rfl, hfo⟩ := Prod.mk.inj hfor
      obtain rfl := Except.ok.inj hfo
      refine ⟨hpath, hlead, ?_⟩
      rintro f' ⟨⟩ -
      exact ⟨rfl, rfl⟩
  | none =>
    simp only [LogFile.fileFor, hfile] at hfor
    cases hopen : open? fs (l.clock 0).time l.name with
    | mk fs₁ opened =>
      cases opened with
      | error e => simp [hopen] at hfor
      | ok f =>
        obtain ⟨hf, hlead⟩ := leadsToFile_of_open? hopen
        simp only [hopen] at hfor
        split at hfor
        · -- a file that is opened anew may be too long already
          have hhere := kept_open? (kept_here fs.here).toKeptByEntries rfl (l.clock 0).time l.name
          rw [hopen] at hhere
          obtain ⟨ho, hlead'⟩ := leadsToFile_of_rotate hfor
          exact ⟨h.path 1 _ ((path_congr hhere _ _).symm.trans ho), hlead', by simp⟩
        · obtain ⟨rfl, hfo⟩ := Prod.mk.inj hfor
          obtain rfl := Except.ok.inj hfo
          exact ⟨h.path 0 _ hf, hlead, by simp⟩

theorem next (h : Attached stands fs l) {fs' : FileSystem} (hhere : fs'.here = fs.here)
    (hstocked : fs'.Stocked) {file : Option OpenFile}
    (hfile : ∀ o, file = some o → stands o.path ∧ fs'.LeadsToFile o.path.text o.id) :
    Attached stands fs' (l.next file) where
  stocked := hstocked
  path n p hp := h.path (n + 2) p ((path_congr hhere _ l.name).symm.trans hp)
  file := hfile

/-- The file that is open, if any, is still one that the name stands for when a line was written. It
then ends with the line. Where no rotation is due, the line was added to the file that was open. -/
theorem write (h : Attached stands fs l) :
    Attached stands (l.write fs line).1 (l.write fs line).2 ∧
      ∀ o, (l.write fs line).2.file = some o → ∃ before,
        (l.write fs line).1.contentAt o.path.text = before ++ line.toUTF8 ∧
          ∀ f, l.file = some f → l.isDue fs line = false →
            o = f ∧ before = fs.contentAt f.path.text := by
  have hstocked := l.kept_fileFor kept_stocked.toKeptByEntries h.stocked line
  have hhere := l.kept_fileFor (kept_here fs.here).toKeptByEntries rfl line
  unfold LogFile.write
  cases hfor : l.fileFor fs line with
  | mk fs' found =>
    rw [hfor] at hstocked hhere
    cases found with
    | error e => exact ⟨h.next hhere hstocked nofun, nofun⟩
    | ok o =>
      obtain ⟨ho, hlead, hsame⟩ := h.fileFor line hfor
      have hlead' := hlead.extends (extends_append fs' o.id line.toUTF8)
      have hcontent := hlead'.contentAt
      rw [read_append fs' (hlead.id_lt hstocked), ← hlead.contentAt] at hcontent
      have hhere' : (fs'.append o.id line.toUTF8).here = fs.here := hhere
      refine ⟨h.next hhere' (hstocked.append o.id _) ?_, ?_⟩
      · rintro o' ⟨⟩
        exact ⟨ho, hlead'⟩
      · rintro o' ⟨⟩
        refine ⟨_, hcontent, fun f hf hdue => ?_⟩
        obtain ⟨rfl, rfl⟩ := hsame f hf hdue
        exact ⟨rfl, rfl⟩

theorem file_write {f : OpenFile} (hf : l.file = some f) (hdue : l.isDue fs line = false) :
    (l.write fs line).2.file = some f := by
  have hfull : l.isFull fs f line = false := by simpa [LogFile.isDue, hf] using hdue
  simp [LogFile.write, LogFile.fileFor, LogFile.next, hf, hfull]

end

end Attached

end LogFile

namespace Logger

def logAll (l : Logger) (rs : List (String × LogRecord)) : Logger :=
  rs.foldl (fun l (now, r) => { l with now := now }.emit r) l

def isOpen (l : Logger) : Bool := l.logFiles.all (·.2.file.isSome)

def isDue (l : Logger) (line : String) : Bool := l.logFiles.any (·.2.isDue l.fs line)

def openPath? (l : Logger) : Option Path := l.logFiles.findSome? (·.2.file.map (·.path))

/-- There is one log file, whose name stands for some paths, and it takes records from a severity
on. -/
def WritesTo (l : Logger) (threshold : Nat) (stands : Path → Prop) : Prop :=
  ∃ f, l.logFiles = [(threshold, f)] ∧ f.Attached stands l.fs

section
variable {l : Logger} {t : Nat} {f : LogFile}

theorem emit_of_one_file (now : String) (r : LogRecord) (hf : l.logFiles = [(t, f)]) :
    ({ l with now := now }.emit r).fs = (written l.fs t f r (r.line now)).1 ∧
      ({ l with now := now }.emit r).logFiles = [(t, (written l.fs t f r (r.line now)).2)] :=
  handleAll_of_one_file { l with now := now } r hf

theorem openPath?_of_one_file (hf : l.logFiles = [(t, f)]) : l.openPath? = f.file.map (·.path) := by
  rw [openPath?, hf]
  cases h : f.file <;> simp [h]

theorem isOpen_of_one_file (hf : l.logFiles = [(t, f)]) : l.isOpen = f.file.isSome := by
  simp [isOpen, hf]

theorem isDue_of_one_file (hf : l.logFiles = [(t, f)]) (line : String) :
    l.isDue line = f.isDue l.fs line := by
  simp [isDue, hf]

end

namespace WritesTo

section
variable {l : Logger} {t : Nat} {stands : Path → Prop} (now : String) (r : LogRecord)

theorem emit (h : l.WritesTo t stands) : ({ l with now := now }.emit r).WritesTo t stands := by
  obtain ⟨f, hf, hat⟩ := h
  obtain ⟨hfs, hfiles⟩ := emit_of_one_file now r hf
  refine ⟨_, hfiles, ?_⟩
  rw [hfs]
  unfold written
  split
  · exact hat
  · exact (hat.write _).1

theorem logAll (h : l.WritesTo t stands) (rs : List (String × LogRecord)) :
    (l.logAll rs).WritesTo t stands := by
  induction rs generalizing l with
  | nil => exact h
  | cons x rs ih => exact ih (h.emit x.1 x.2)

theorem isOpen_iff (h : l.WritesTo t stands) : l.isOpen = true ↔ ∃ p, l.openPath? = some p := by
  obtain ⟨f, hf, -⟩ := h
  rw [isOpen_of_one_file hf, openPath?_of_one_file hf]
  cases f.file <;> simp

/-- With the line of a record that is severe enough the open file ends. Where nothing is rolled, the
line has been added to what the file held that was open before. -/
theorem contentAt_emit (h : l.WritesTo t stands) (hr : t ≤ r.severity.number) {p : Path}
    (hopen : ({ l with now := now }.emit r).openPath? = some p) :
    stands p ∧ ∃ before,
      ({ l with now := now }.emit r).fs.contentAt p.text = before ++ (r.line now).toUTF8 ∧
        ∀ q, l.openPath? = some q → l.isDue (r.line now) = false →
          p = q ∧ before = l.fs.contentAt q.text := by
  obtain ⟨f, hf, hat⟩ := h
  obtain ⟨hfs, hfiles⟩ := emit_of_one_file now r hf
  have hwritten : written l.fs t f r (r.line now) = f.write l.fs (r.line now) :=
    if_neg (Nat.not_lt.2 hr)
  rw [hwritten] at hfs hfiles
  rw [openPath?_of_one_file hfiles] at hopen
  obtain ⟨o, ho, rfl⟩ := Option.map_eq_some_iff.1 hopen
  obtain ⟨hat', hends⟩ := hat.write (r.line now)
  obtain ⟨before, hcontent, hbefore⟩ := hends o ho
  refine ⟨(hat'.file o ho).1, before, by rw [hfs, hcontent], fun q hq hdue => ?_⟩
  rw [openPath?_of_one_file hf] at hq
  obtain ⟨g, hg, rfl⟩ := Option.map_eq_some_iff.1 hq
  rw [isDue_of_one_file hf] at hdue
  obtain ⟨rfl, hsame⟩ := hbefore g hg hdue
  exact ⟨rfl, hsame⟩

theorem openPath?_emit (h : l.WritesTo t stands) {p : Path} (hopen : l.openPath? = some p)
    (hdue : l.isDue (r.line now) = false) :
    ({ l with now := now }.emit r).openPath? = some p := by
  obtain ⟨f, hf, -⟩ := h
  obtain ⟨-, hfiles⟩ := emit_of_one_file now r hf
  rw [isDue_of_one_file hf] at hdue
  rw [openPath?_of_one_file hf] at hopen
  rw [openPath?_of_one_file hfiles]
  unfold written
  split
  · exact hopen
  · obtain ⟨o, ho, rfl⟩ := Option.map_eq_some_iff.1 hopen
    rw [LogFile.Attached.file_write _ ho hdue]
    rfl

theorem isOpen_emit (h : l.WritesTo t stands) (hopen : l.isOpen = true)
    (hdue : l.isDue (r.line now) = false) : ({ l with now := now }.emit r).isOpen = true := by
  obtain ⟨p, hp⟩ := h.isOpen_iff.1 hopen
  exact (h.emit now r).isOpen_iff.2 ⟨p, h.openPath?_emit now r hp hdue⟩

end

end WritesTo

end Logger

end ProfilerBootstrap

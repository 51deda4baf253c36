import ProfilerBootstrap.Logging.Logger
import ProfilerBootstrap.Proofs.Rolling.Frame

namespace ProfilerBootstrap

open FileSystem

section
variable {R : FileSystem → Prop} (hR : KeptByEntries R) {fs : FileSystem}

include hR

theorem Roller.kept_roll (r : Roller) (h : R fs) (p : Path) : R (r.roll fs p.text).1 :=
  roll_induction (S := fun _ => True) (fun _ => hR.unlink) (fun _ _ => hR.rename)
    (fun _ _ => trivial) trivial h

namespace LogFile

theorem kept_openAt (h : R fs) (p : Path) : R (openAt fs p).1 := by
  have hdirs := hR.makeDirs h p.parent
  unfold openAt
  split
  · rename_i fs' e hmake
    rwa [hmake] at hdirs
  · rename_i fs' hmake
    rw [hmake] at hdirs
    split
    · rename_i fs'' id hopen
      exact hR.openAppend hopen hdirs
    · exact hdirs

theorem kept_open? (h : R fs) (t : FileName.Time) (name : String) : R (open? fs t name).1 := by
  unfold open?
  split
  · exact kept_openAt hR h _
  · exact h

theorem kept_makeRoom (h : R fs) {made : Stamp} {old new full : Path} {fs' : FileSystem}
    (hroom : makeRoom fs made old new = .ok (fs', full)) : R fs' := by
  unfold makeRoom at hroom
  split at hroom
  · cases hren : fs.rename old.text (setAside fs made fs.entries.length 1 old).text with
    | error e => simp [hren, Except.map] at hroom
    | ok fs₁ =>
      simp only [hren, Except.map] at hroom
      obtain ⟨rfl, -⟩ := Prod.mk.inj (Except.ok.inj hroom)
      exact hR.rename hren h
  · obtain ⟨rfl, -⟩ := Prod.mk.inj (Except.ok.inj hroom)
    exact h

theorem kept_rotate (l : LogFile) (h : R fs) (m : Moment) (old : Path) : R (l.rotate fs m old).1 := by
  unfold rotate
  split
  · exact h
  · rename_i p hp
    have hdirs := hR.makeDirs h p.parent
    split
    · rename_i fs₁ e hmake
      rwa [hmake] at hdirs
    · rename_i fs₁ hmake
      rw [hmake] at hdirs
      split
      · exact hdirs
      · rename_i fs₂ full hroom
        have hroll := l.roller.kept_roll hR (kept_makeRoom hR hdirs hroom) full
        split
        · rename_i fs₃ e hrolled
          rwa [hrolled] at hroll
        · rename_i fs₃ hrolled
          rw [hrolled] at hroll
          split
          · rename_i fs₄ id hopen
            exact hR.openAppend hopen hroll
          · exact hroll

theorem kept_rotateIfFull (l : LogFile) (line : String)
    (opened : FileSystem × Except LogFileError OpenFile) :
    R opened.1 → R (match opened with
      | (fs, .error e) => (fs, .error e)
      | (fs, .ok f) => if l.isFull fs f line then l.rotate fs (l.clock 1) f.path else (fs, .ok f)
      : FileSystem × Except LogFileError OpenFile).1 := by
  intro h
  obtain ⟨fs', e | f⟩ := opened
  · exact h
  · simp only
    split
    · exact kept_rotate hR l h _ f.path
    · exact h

theorem kept_fileFor (l : LogFile) (h : R fs) (line : String) : R (l.fileFor fs line).1 := by
  unfold fileFor
  apply kept_rotateIfFull hR l line
  split
  · exact h
  · exact kept_open? hR h _ l.name

end LogFile

end

section
variable {R : FileSystem → Prop} (hR : Kept R) {fs : FileSystem}

include hR

theorem LogFile.kept_write (l : LogFile) (h : R fs) (line : String) : R (l.write fs line).1 := by
  have hfile := l.kept_fileFor hR.toKeptByEntries h line
  unfold write
  split
  · rename_i fs' f hf
    rw [hf] at hfile
    exact hR.append f.id line.toUTF8 hfile
  · rename_i fs' e hf
    rwa [hf] at hfile

namespace Logger

variable {l : Logger}

theorem kept_handle (h : R l.fs) (k : Handler) (r : LogRecord) : R (l.handle k r).1.fs := by
  obtain ⟨id, threshold, sink⟩ := k
  unfold handle
  split
  · exact h
  · cases sink with
    | file f => exact f.kept_write hR h (r.line l.now)
    | capture | stdout | stderr => exact h

theorem kept_handleAll (h : R l.fs) (r : LogRecord) (ks : List Handler) :
    R (l.handleAll r ks).1.fs := by
  induction ks generalizing l with
  | nil => exact h
  | cons k ks ih => exact ih (kept_handle hR h k r)

theorem kept_emitAll (h : R l.fs) (rs : List LogRecord) : R (l.emitAll rs).fs := by
  induction rs generalizing l with
  | nil => exact h
  | cons r rs ih => exact ih (kept_handleAll hR h r l.handlers)

end Logger

end

theorem Logger.here_emitAll (l : Logger) (rs : List LogRecord) :
    (l.emitAll rs).fs.here = l.fs.here :=
  kept_emitAll (kept_here l.fs.here) rfl rs

end ProfilerBootstrap

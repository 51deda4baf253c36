import ProfilerBootstrap.Proofs.Logging.Outlets
import ProfilerBootstrap.Proofs.Logging.Written

namespace ProfilerBootstrap

open FileSystem

namespace Level

def takes (level : Level) (r : LogRecord) : Bool :=
  level.severity?.any fun s => s.number ≤ r.severity.number

theorem takes_of_severity {level : Level} {s : Severity} (hs : level.severity? = some s)
    (r : LogRecord) : level.takes r = decide (s.number ≤ r.severity.number) := by
  rw [takes, hs]
  rfl

def lines (level : Level) (rs : List (String × LogRecord)) : List String :=
  (rs.filter fun x => level.takes x.2).map fun x => x.2.line x.1

theorem lines_cons (level : Level) (now : String) (r : LogRecord) (rs : List (String × LogRecord)) :
    level.lines ((now, r) :: rs) =
      (if level.takes r then [r.line now] else []) ++ level.lines rs := by
  rw [lines, List.filter_cons]
  by_cases hr : level.takes r = true
  · rw [if_pos hr, if_pos hr]
    rfl
  · rw [if_neg hr, if_neg hr]
    rfl

theorem takes_mono {level level' : Level} (h : level.number ≤ level'.number) {r : LogRecord}
    (hr : level.takes r = true) : level'.takes r = true := by
  unfold takes at hr ⊢
  cases level <;> cases level' <;>
    simp_all [number, severity?, Severity.error, Severity.warning, Severity.info, Severity.debug,
      Severity.trace] <;> omega

/-- A level lets through what a lower one does, and maybe more. -/
theorem lines_sublist {level level' : Level} (h : level.number ≤ level'.number)
    (rs : List (String × LogRecord)) : (level.lines rs).Sublist (level'.lines rs) := by
  have hfilter : rs.filter (fun x => level.takes x.2) =
      (rs.filter fun x => level'.takes x.2).filter fun x => level.takes x.2 := by
    rw [List.filter_filter]
    refine List.filter_congr fun x _ => ?_
    cases hx : level.takes x.2 with
    | false => rfl
    | true => exact (takes_mono h hx).symm
  unfold lines
  rw [hfilter]
  exact List.filter_sublist.map _

end Level

namespace FileSystem

/-- What has been added at the ends of files, in the order of their numbers. -/
def added (fs fs' : FileSystem) : ByteArray :=
  LogHistory.joined ((List.range fs'.contents.size).map fun id =>
    (fs'.read id).extract (fs.read id).size (fs'.read id).size)

theorem joined_single {f : Nat → ByteArray} {id n : Nat} (hid : id < n)
    (h : ∀ i, i ≠ id → f i = .empty) : LogHistory.joined ((List.range n).map f) = f id := by
  -- the induction on the number of files passes the one at `id`, so those before it come first
  have hnone : ∀ k, k ≤ id → LogHistory.joined ((List.range k).map f) = .empty := by
    intro k hk
    induction k with
    | zero => rfl
    | succ k ih =>
      rw [List.range_succ, List.map_append, LogHistory.joined_append, ih (by omega)]
      simp [LogHistory.joined, h k (by omega)]
  induction n with
  | zero => omega
  | succ n ih =>
    rw [List.range_succ, List.map_append, LogHistory.joined_append]
    by_cases hn : id = n
    · rw [hn, hnone n (by omega)]
      simp [LogHistory.joined]
    · rw [ih (by omega)]
      simp [LogHistory.joined, h n (Ne.symm hn)]

section
variable {fs fs' : FileSystem}

theorem added_append (h : ∀ id, fs'.read id = fs.read id) {id : FileId}
    (hid : id < fs'.contents.size) (bytes : ByteArray) : fs.added (fs'.append id bytes) = bytes := by
  have hsize : (fs'.append id bytes).contents.size = fs'.contents.size := Array.size_modify ..
  unfold added
  rw [hsize, joined_single hid fun i hi => ?_]
  · rw [read_append fs' hid, h id, ByteArray.size_append]
    exact ByteArray.extract_append_eq_right rfl rfl
  · rw [read_append_of_ne fs' hi, h i, ByteArray.extract_same]

theorem added_of_read (h : ∀ id, fs'.read id = fs.read id) : fs.added fs' = .empty := by
  have hnone : ∀ files : List Nat, LogHistory.joined (files.map fun id =>
      (fs'.read id).extract (fs.read id).size (fs'.read id).size) = .empty := by
    intro files
    induction files with
    | nil => rfl
    | cons id files ih =>
      rw [List.map_cons, h id, ByteArray.extract_same]
      exact (congrArg (.empty ++ ·) ih).trans ByteArray.empty_append
  exact hnone _

end

end FileSystem

/-- Writing a line adds the line to the file that is open afterwards, and if none is, nothing; in
either case nothing that files hold is taken away. -/
theorem LogFile.Attached.added_write {fs : FileSystem} {stands : Path → Prop} {f : LogFile}
    (h : f.Attached stands fs) (line : String) :
    fs.added (f.write fs line).1 =
        (if (f.write fs line).2.file.isSome then line.toUTF8 else .empty) ∧
      ∀ id, ∃ more, (f.write fs line).1.read id = fs.read id ++ more := by
  have hstocked := f.kept_fileFor kept_stocked.toKeptByEntries h.stocked line
  have hread := f.kept_fileFor (keptByEntries_read fs) (fun _ => rfl) line
  unfold LogFile.write
  cases hfor : f.fileFor fs line with
  | mk fs' found =>
    rw [hfor] at hstocked hread
    cases found with
    | error e =>
      refine ⟨added_of_read hread, fun id => ⟨.empty, ?_⟩⟩
      rw [hread id, ByteArray.append_empty]
    | ok o =>
      have hid := (h.fileFor line hfor).2.1.id_lt hstocked
      refine ⟨added_append hread hid line.toUTF8, fun id => ?_⟩
      by_cases hone : id = o.id
      · refine ⟨line.toUTF8, ?_⟩
        rw [hone, read_append fs' hid, hread]
      · refine ⟨.empty, ?_⟩
        rw [read_append_of_ne fs' hone, hread, ByteArray.append_empty]

namespace Logger

def fileStream (l : Logger) : List (String × LogRecord) → ByteArray
  | [] => .empty
  | (now, r) :: rs =>
    let l' := { l with now := now }.emit r
    l.fs.added l'.fs ++ l'.fileStream rs

/-- The lines of the records that a level lets through, save for those with which a log file was
closed because of a failure. -/
def keptLines (level : Level) (l : Logger) : List (String × LogRecord) → List String
  | [] => []
  | (now, r) :: rs =>
    let l' := { l with now := now }.emit r
    (if level.takes r && l'.isOpen then [r.line now] else []) ++ keptLines level l' rs

section
variable {l : Logger} {level : Level} {s : Severity} {stands : Path → Prop}

theorem keptLines_sublist (level : Level) (l : Logger) (rs : List (String × LogRecord)) :
    (l.keptLines level rs).Sublist (level.lines rs) := by
  induction rs generalizing l with
  | nil => exact List.Sublist.refl _
  | cons x rs ih =>
    obtain ⟨now, r⟩ := x
    rw [keptLines, Level.lines_cons]
    refine List.Sublist.append ?_ (ih _)
    cases level.takes r with
    | false => exact List.Sublist.refl _
    | true =>
      cases ({ l with now := now }.emit r).isOpen with
      | false => exact List.nil_sublist _
      | true => exact List.Sublist.refl _

theorem keptLines_of_isOpen (rs : List (String × LogRecord))
    (h : ∀ n, (l.logAll (rs.take n)).isOpen = true) : l.keptLines level rs = level.lines rs := by
  induction rs generalizing l with
  | nil => rfl
  | cons x rs ih =>
    obtain ⟨now, r⟩ := x
    have hopen : ({ l with now := now }.emit r).isOpen = true := h 1
    rw [keptLines, Level.lines_cons, ih fun n => h (n + 1), hopen, Bool.and_true]

/-- A record that is severe enough adds its line to the files if no file had to be closed;
otherwise, and if it is not severe enough, it adds nothing. -/
theorem WritesTo.added_emit {t : Nat} (h : l.WritesTo t stands) (now : String) (r : LogRecord) :
    l.fs.added ({ l with now := now }.emit r).fs =
        (if t ≤ r.severity.number ∧ ({ l with now := now }.emit r).isOpen = true
          then (r.line now).toUTF8 else .empty) ∧
      ∀ id, ∃ more, ({ l with now := now }.emit r).fs.read id = l.fs.read id ++ more := by
  obtain ⟨f, hf, hat⟩ := h
  obtain ⟨hfs, hfiles⟩ := emit_of_one_file now r hf
  rw [isOpen, hfiles, hfs]
  unfold written
  by_cases hlow : r.severity.number < t
  · rw [if_pos hlow, if_neg fun h => Nat.not_lt.2 h.1 hlow]
    exact ⟨added_of_read fun _ => rfl, fun id => ⟨.empty, ByteArray.append_empty.symm⟩⟩
  · obtain ⟨hadded, hmore⟩ := hat.added_write (r.line now)
    rw [if_neg hlow, hadded]
    refine ⟨?_, hmore⟩
    simp [Nat.not_lt.1 hlow]

/-- What a run of records adds to files is the lines that were kept, and nothing is taken away. -/
theorem WritesTo.fileStream (h : l.WritesTo s.number stands) (hs : level.severity? = some s)
    (rs : List (String × LogRecord)) :
    l.fileStream rs = (String.join (l.keptLines level rs)).toUTF8 ∧
      ∀ id, ∃ more, (l.logAll rs).fs.read id = l.fs.read id ++ more := by
  -- that one handler writes from this severity on is kept by every record, also by one with which the
  -- file had to be closed
  induction rs generalizing l with
  | nil => exact ⟨rfl, fun id => ⟨.empty, ByteArray.append_empty.symm⟩⟩
  | cons x rs ih =>
    obtain ⟨now, r⟩ := x
    obtain ⟨hadded, hmore⟩ := h.added_emit now r
    obtain ⟨hrest, hmore'⟩ := ih (h.emit now r)
    refine ⟨?_, fun id => ?_⟩
    · rw [Logger.fileStream, keptLines, hadded, hrest, Level.takes_of_severity hs]
      by_cases hkept : s.number ≤ r.severity.number ∧ ({ l with now := now }.emit r).isOpen = true
      · simp [hkept.1, hkept.2]
      · rw [if_neg hkept, if_neg (by simpa using hkept), List.nil_append]
        exact ByteArray.empty_append
    · obtain ⟨more, hid⟩ := hmore id
      obtain ⟨more', hid'⟩ := hmore' id
      refine ⟨more ++ more', ?_⟩
      rw [← ByteArray.append_assoc, ← hid]
      exact hid'

theorem join_printed (hs : level.severity? = some s) (rs : List (String × LogRecord)) :
    String.join (rs.map fun x => printed x.1 x.2 s.number) = String.join (level.lines rs) := by
  induction rs with
  | nil => rfl
  | cons x rs ih =>
    obtain ⟨now, r⟩ := x
    rw [List.map_cons, Level.lines_cons, Level.takes_of_severity hs, printed]
    by_cases hlow : r.severity.number < s.number
    · simp [hlow, Nat.not_le.2 hlow, ih]
    · simp [hlow, Nat.not_lt.1 hlow, ih]

end

end Logger

namespace LogConfig

section
variable {c : LogConfig} {l l' : Logger} {h : LogHandle} {s : Severity}

theorem outlets_configure {ids : List Nat} (hs : c.level.severity? = some s)
    (hc : l.configure c.handlers = (l', .ok ids)) :
    l'.outlets = (c.sinks.filter (·.target = .stdout)).map fun _ => s.number := by
  have houtlets := (Logger.outlets_addAll hc).2
  have hnone : l.removeAll.outlets = [] := rfl
  rw [houtlets, hnone, handlers, hs, List.filter_map, List.map_map]
  rfl

theorem outlets_install (hs : c.level.severity? = some s) (hi : c.install l = (l', .ok h)) :
    l'.outlets = (c.sinks.filter (·.target = .stdout)).map fun _ => s.number := by
  unfold install at hi
  split at hi
  · rename_i m ids hm
    obtain ⟨rfl, -⟩ := by simpa using hi
    exact outlets_configure hs hm
  · simp only at hi
    split at hi
    · simp at hi
    · -- the handlers were added without the file, and then a record told of it
      rename_i m' ids hm
      obtain ⟨rfl, -⟩ := by simpa using hi
      have hkept : (c.without .file).sinks.filter (·.target = .stdout) =
          c.sinks.filter (·.target = .stdout) := by
        rw [without, List.filter_filter]
        refine List.filter_congr fun k _ => ?_
        cases k.target <;> rfl
      rw [← hkept, ← outlets_configure (c := c.without .file) hs hm]
      exact (Logger.handleAll_stdout _ _ _).1
  · simp at hi

end

/-- Where the standard output and a log file are installed together, the lines of the records that
the level lets through are printed, in order, and the same lines are added to files, save for those
with which the log file was closed because it could not be rolled or opened anew. A log file that is
open stays open with a line for which it need not be rolled, and what files hold is never taken
away. A lower level lets through fewer of the records. -/
theorem install_routes {c : LogConfig} {l l₀ : Logger} {h : LogHandle} {path : String}
    {maxSize : Int} {roller : Roller} (hstocked : l.fs.Stocked) (hlevel : c.level ≠ .off)
    (hsinks : c.sinks.Perm [.stdout, .file path maxSize roller])
    (hi : c.install l = (l₀, .ok h)) (rs : List (String × LogRecord)) :
    (l₀.logAll rs).stdout = l₀.stdout ++ String.join (c.level.lines rs) ∧
      (.file ∈ h.activeTargets →
        l₀.fileStream rs = (String.join (l₀.keptLines c.level rs)).toUTF8 ∧
        (l₀.keptLines c.level rs).Sublist (c.level.lines rs) ∧
        ((∀ n, (l₀.logAll (rs.take n)).isOpen = true) →
          l₀.fileStream rs = (String.join (c.level.lines rs)).toUTF8) ∧
        l₀.isOpen = true ∧
        (∀ now r, (l₀.logAll rs).isOpen = true → (l₀.logAll rs).isDue (r.line now) = false →
          ({ l₀.logAll rs with now := now }.emit r).isOpen = true) ∧
        ∀ id, ∃ more, (l₀.logAll rs).fs.read id = l₀.fs.read id ++ more) ∧
      ∀ higher : Level, c.level.number ≤ higher.number →
        (c.level.lines rs).Sublist (higher.lines rs) := by
  obtain ⟨s, hs⟩ := severity_of_level hlevel
  have hstdout : c.sinks.filter (·.target = .stdout) = [.stdout] := by
    simpa [LogSink.target] using hsinks.filter (·.target = .stdout)
  have hfile : c.sinks.filter (·.target = .file) = [.file path maxSize roller] := by
    simpa [LogSink.target] using hsinks.filter (·.target = .file)
  have houtlets : l₀.outlets = [s.number] := by
    rw [outlets_install hs hi, hstdout]
    rfl
  refine ⟨?_, fun hactive => ?_, fun higher hle => Level.lines_sublist hle rs⟩
  · rw [Logger.stdout_logAll houtlets rs, Logger.join_printed hs]
  · obtain ⟨file, hlog⟩ : ∃ file, h.logFile = some file := by
      refine Option.ne_none_iff_exists'.1 fun hnone => ?_
      exact (install_spec hi).2.1.1 hnone hactive
    obtain ⟨hconf, -, -⟩ := configure_of_logFile hi hlog
    obtain ⟨o, -, hstart, hwrites⟩ := writesTo_of_configure hstocked hs hfile hconf
    obtain ⟨hstream, hmore⟩ := hwrites.fileStream hs rs
    refine ⟨hstream, Logger.keptLines_sublist c.level l₀ rs, fun hopen => ?_,
      hwrites.isOpen_iff.2 ⟨_, hstart⟩, (hwrites.logAll rs).isOpen_emit, hmore⟩
    rw [hstream, Logger.keptLines_of_isOpen rs hopen]

/-- The second of two lines has to go to a new file, and the first stays behind in a backup. A
record that is not severe enough in between leaves nothing. -/
theorem install_routes_over_roll :
    let roller : Roller := ⟨"f_\x7b\x7d", 1, 0, by decide⟩
    let c : LogConfig := ⟨.info, [.file "f" 20 roller, .stdout]⟩
    let l : Logger := ⟨.fresh [['r']], [], 0, "", [], "", "", fun _ _ => default⟩
    let rs : List (String × LogRecord) :=
      [("T", ⟨.info, "one"⟩), ("T", ⟨.debug, "no"⟩), ("T", ⟨⟨"<b>", 45⟩, "\x7btwo\x7d"⟩)]
    let text := "[T] [INFO ] one\n[T] [<b>  ] \x7btwo\x7d\n"
    ∃ l₀ h, c.install l = (l₀, .ok h) ∧ h.activeTargets = [.file, .stdout] ∧
      (l₀.logAll rs).stdout = text ∧ l₀.fileStream rs = text.toUTF8 ∧
      (l₀.logAll rs).fs.contentAt "f_0" = "[T] [INFO ] one\n".toUTF8 := by
  intro roller c l rs text
  obtain ⟨result, hresult⟩ : ∃ result, result = c.install l := ⟨_, rfl⟩
  have hactive : result.2.toOption.map (·.activeTargets) = some [.file, .stdout] := by
    rw [hresult]
    decide +kernel
  have hstart : result.1.stdout = "" := by
    rw [hresult]
    decide +kernel
  have hopen : ∀ n ≤ 3, (result.1.logAll (rs.take n)).isOpen = true := by
    rw [hresult]
    decide +kernel
  have hbackup : (result.1.logAll rs).fs.contentAt "f_0" = "[T] [INFO ] one\n".toUTF8 := by
    rw [hresult]
    decide +kernel
  have hlines : String.join (c.level.lines rs) = text := by decide +kernel
  have hstocked : l.fs.Stocked := (sound_fresh (by decide)).stocked
  have hlevel : c.level ≠ .off := by decide
  have hsinks : c.sinks.Perm [.stdout, .file "f" 20 roller] := .swap _ _ _
  have hrs : rs.length = 3 := rfl
  clear_value c l rs text
  obtain ⟨l₀, e | h⟩ := result
  · simp [Except.toOption] at hactive
  have hactive : h.activeTargets = [.file, .stdout] := by simpa [Except.toOption] using hactive
  obtain ⟨hstdout, hfile, -⟩ := install_routes hstocked hlevel hsinks hresult.symm rs
  obtain ⟨-, -, hstream, -⟩ := hfile (by simp [hactive])
  rw [hlines] at hstdout hstream
  refine ⟨l₀, h, hresult.symm, hactive, ?_, hstream fun n => ?_, hbackup⟩
  · rw [hstdout, hstart, String.empty_append]
  · rcases Nat.le_total n 3 with hn | hn
    · exact hopen n hn
    · rw [List.take_of_length_le (hrs ▸ hn), ← List.take_length (l := rs), hrs]
      exact hopen 3 (Nat.le_refl _)

/-- A directory in the place of the backup is in the way of the second line, which is printed all
the same. -/
theorem second_line_lost_by_file :
    let c : LogConfig := ⟨.info, [.stdout, .file "f" 20 ⟨"f_\x7b\x7d", 1, 0, by decide⟩]⟩
    let fs := (FileSystem.fresh [['r']]).insert [['r'], ['f', '_', '0']] .dir
    let l : Logger := ⟨fs, [], 0, "", [], "", "", fun _ _ => default⟩
    let rs : List (String × LogRecord) := [("T", ⟨.info, "one"⟩), ("T", ⟨.info, "two"⟩)]
    ∃ l₀ h, c.install l = (l₀, .ok h) ∧ h.activeTargets = [.file, .stdout] ∧
      (l₀.logAll rs).stdout = "[T] [INFO ] one\n[T] [INFO ] two\n" ∧
      l₀.fileStream rs = "[T] [INFO ] one\n".toUTF8 := by
  intro c fs l rs
  have hfacts : (c.install l).2.toOption.map (·.activeTargets) = some [.file, .stdout] ∧
      ((c.install l).1.logAll rs).stdout = "[T] [INFO ] one\n[T] [INFO ] two\n" ∧
      (c.install l).1.fileStream rs = "[T] [INFO ] one\n".toUTF8 := by decide +kernel
  clear_value c l rs
  cases hi : c.install l with
  | mk l₀ result =>
    rw [hi] at hfacts
    obtain ⟨hactive, hstdout, hstream⟩ := hfacts
    cases result with
    | error e => simp [Except.toOption] at hactive
    | ok h => exact ⟨l₀, h, rfl, by simpa [Except.toOption] using hactive, hstdout, hstream⟩

end LogConfig

end ProfilerBootstrap

import ProfilerBootstrap.Logging.Logger
import ProfilerBootstrap.Proofs.Logging.FileName
import ProfilerBootstrap.Proofs.Rolling.Names

namespace ProfilerBootstrap

open FileSystem

/-- A path to a directory, and what all names of a log file begin with. -/
structure LogSite where
  slashes : Nat
  dirs : List Name
  stem : Name

namespace LogSite

def ending : Name := ['.', 'l', 'o', 'g']

/-- The names of a log file differ in what comes between the stem and the ending. -/
def name (w : LogSite) (mark : Name) : Name := w.stem ++ (mark ++ ending)

def path (w : LogSite) (mark : Name) : Path := ⟨w.slashes, w.dirs ++ [w.name mark]⟩

def number (i : Nat) : Name := '_' :: (toString i).toList

def asideMark (made : Stamp) (count : Name) : Name := '.' :: made.text ++ count

def absolute (w : LogSite) (here : Location) : LogSite :=
  ⟨max 1 w.slashes, (if w.slashes = 0 then here else []) ++ w.dirs, w.stem⟩

structure Valid (w : LogSite) : Prop where
  dirs : Path.Normal ⟨w.slashes, w.dirs⟩
  noSlash : '/' ∉ w.stem
  letter : ∃ c ∈ w.stem, c ≠ '.'

section
variable {w : LogSite} {mark mark' : Name}

theorem name_inj : w.name mark = w.name mark' ↔ mark = mark' := by simp [name]

theorem ending_length_le (w : LogSite) (mark : Name) : 4 ≤ (w.name mark).length := by
  simp only [name, List.length_append, ending, List.length_cons, List.length_nil]
  omega

theorem name_noUp (w : LogSite) (mark : Name) : w.name mark ≠ ['.', '.'] := by
  intro h
  have := w.ending_length_le mark
  simp [h] at this

theorem Valid.normal (hw : w.Valid) (hmark : '/' ∉ mark) : (w.path mark).Normal := by
  refine hw.dirs.snoc ?_ ?_
  · have hlen := w.ending_length_le mark
    have hnil : w.name mark ≠ [] := fun h => by simp [h] at hlen
    have hpoint : w.name mark ≠ ['.'] := fun h => by simp [h] at hlen
    simp [Path.isName, hnil, hpoint]
  · simp [name, ending, hw.noSlash, hmark]

theorem Valid.absolute (hw : w.Valid) {here : Location} (hhere : ∀ n ∈ here, IsPlain n) :
    (w.absolute here).Valid where
  dirs := by
    refine ⟨?_, fun n hn => ?_⟩
    · have := hw.dirs.slashes
      simp only [LogSite.absolute] at this ⊢
      omega
    · rcases List.mem_append.1 hn with hn | hn
      · split at hn
        · exact ⟨(hhere n hn).name, (hhere n hn).noSlash⟩
        · simp at hn
      · exact hw.dirs.names n hn
  noSlash := hw.noSlash
  letter := hw.letter

theorem slash_notMem_number (i : Nat) : '/' ∉ number i := by
  intro h
  rcases List.mem_cons.1 h with h | h
  · simp at h
  · exact absurd (Text.isDigit_of_mem_toString h) (by decide)

theorem number_inj {i j : Nat} (h : number i = number j) : i = j :=
  Text.toString_inj (String.toList_inj.1 (List.cons.inj h).2)

theorem asideMark_ne_number (made : Stamp) (count : Name) (i : Nat) :
    asideMark made count ≠ number i := by
  simp [asideMark, number]

theorem asideMark_ne_nil (made : Stamp) (count : Name) : asideMark made count ≠ [] := by
  simp [asideMark]

theorem number_ne_nil (i : Nat) : number i ≠ [] := by simp [number]

end

def processPrefix (process : String) : List Char := (s!"elastic_apm_profiler_{process}_").toList

theorem filePaths_text (process : String) (pid : Int) (mark : String) :
    s!"elastic_apm_profiler_{process}_{pid}" ++ mark =
      String.ofList (processPrefix process ++ (pid.repr.toList ++ mark.toList)) := by
  apply String.toList_inj.1
  simp only [processPrefix, toString, String.toList_append, String.toList_ofList]
  simp

theorem filePaths_of_no_slash (dir : Path) {process : String} (hslash : '/' ∉ process.toList)
    (pid : Int) :
    LogSink.filePaths dir process pid =
      (⟨dir.slashes, dir.names ++ [processPrefix process ++ (pid.repr.toList ++ ".log".toList)]⟩,
        Path.text ⟨dir.slashes, dir.names ++
          [processPrefix process ++ (pid.repr.toList ++ "_\x7b\x7d.log".toList)]⟩) := by
  have hstem : '/' ∉ processPrefix process := by
    simp [processPrefix, toString, hslash]
  have hpid := Text.slash_notMem_repr pid
  have hjoin : ∀ mark : String, '/' ∉ mark.toList →
      dir.join (s!"elastic_apm_profiler_{process}_{pid}" ++ mark) =
        ⟨dir.slashes, dir.names ++ [processPrefix process ++ (pid.repr.toList ++ mark.toList)]⟩ := by
    intro mark hmark
    rw [filePaths_text, dir.join_name, String.toList_ofList]
    · simp [Path.isName, processPrefix, toString]
    · simp [hstem, hpid, hmark]
  simp only [LogSink.filePaths]
  rw [hjoin ".log" (by decide), hjoin "_\x7b\x7d.log" (by decide)]

/-- The log file of a process and the pattern for its backups belong to one site. -/
theorem exists_of_filePaths {dir : Path} (hdir : dir.Normal) (process : String) (pid : Int) :
    ∃ w : LogSite, w.Valid ∧ (LogSink.filePaths dir process pid).1 = w.path [] ∧
      (LogSink.filePaths dir process pid).2 =
        (w.path ['_', FileName.openBrace, FileName.closeBrace]).text := by
  obtain ⟨front, last, -, hfront, hlast, hjoin⟩ :=
    dir.exists_join (by simp [processPrefix, toString] : processPrefix process ≠ [])
      (by simp [processPrefix, toString])
  -- a digit of the number keeps the last name from being one of points alone
  obtain ⟨c, hc⟩ := Text.exists_mem_repr pid
  have hslash := Text.slash_notMem_repr pid
  have hpoint : c ≠ '.' := by
    rintro rfl
    exact (Text.isDigit_or_sign_of_mem hc).elim (by decide) (by decide)
  let w : LogSite := ⟨dir.slashes, dir.names ++ front, last ++ pid.repr.toList⟩
  have hw : w.Valid := by
    refine ⟨⟨hdir.slashes, fun n hn => ?_⟩, by simp [w, hlast, hslash], c, by simp [w, hc], hpoint⟩
    rcases List.mem_append.1 hn with hn | hn
    · exact hdir.names n hn
    · exact hfront n hn
  have hpath : ∀ (mark : Name) (text : String), '/' ∉ mark → text.toList = mark ++ ending →
      dir.join (s!"elastic_apm_profiler_{process}_{pid}" ++ text) = w.path mark := by
    intro mark text hmark htext
    rw [filePaths_text, htext, hjoin]
    · simp [w, path, name]
    · simp [hslash, hmark, ending]
    · have h := (hw.normal hmark).names (w.name mark) (by simp [path])
      simpa [w, name] using h.1
  refine ⟨w, hw, ?_, ?_⟩
  · simp only [LogSink.filePaths]
    exact hpath [] ".log" (by simp) (by simp [ending])
  · simp only [LogSink.filePaths]
    exact congrArg Path.text (hpath ['_', FileName.openBrace, FileName.closeBrace] _ (by decide)
      (by simp [ending, FileName.openBrace, FileName.closeBrace]))

theorem normal_filePaths {dir : Path} (hdir : dir.Normal) (process : String) (pid : Int) :
    (LogSink.filePaths dir process pid).1.Normal := by
  obtain ⟨w, hw, hactive, -⟩ := exists_of_filePaths hdir process pid
  rw [hactive]
  exact hw.normal List.not_mem_nil

section
variable {w : LogSite} {r : Roller}

theorem chars_path (w : LogSite) (mark : Name) :
    (w.path mark).chars = Path.lead w.slashes w.dirs ++ (w.stem ++ (mark ++ ending)) :=
  Path.chars_snoc ..

theorem Valid.names (hw : w.Valid) (hbase : r.base = 0)
    (hpattern : r.pattern = (w.path ['_', FileName.openBrace, FileName.closeBrace]).text)
    (hopen : FileName.openBrace ∉ (w.path []).chars) :
    r.Names w.slashes w.dirs fun i => w.name (number i) where
  backup i := by
    have hlead : FileName.openBrace ∉ Path.lead w.slashes w.dirs ++ w.stem ++ ['_'] := by
      rw [chars_path] at hopen
      simp only [List.mem_append, not_or] at hopen ⊢
      exact ⟨⟨hopen.1, hopen.2.1⟩, by decide⟩
    have hchars : r.pattern.toList = Path.lead w.slashes w.dirs ++ w.stem ++ ['_'] ++
        FileName.openBrace :: FileName.closeBrace :: ending := by
      rw [hpattern, Path.toList_text, chars_path]
      simp
    have hsub : Rolling.substitute (toString i).toList r.pattern.toList =
        (w.path (number i)).chars := by
      rw [hchars, Rolling.substitute_append_of_no_braces _ hlead, chars_path, number]
      simp [FileName.openBrace, FileName.closeBrace, Rolling.substitute, ending]
    have hindex : toString (r.base + (i : Int)) = toString i := by
      rw [hbase, Int.zero_add]
      rfl
    rw [Roller.backup, hindex, hsub, Path.ofChars_chars (hw.normal (slash_notMem_number i))]
    rfl
  normal i := hw.normal (slash_notMem_number i)
  noUp i := w.name_noUp _
  inj i j h := number_inj (name_inj.1 h)

end

theorem hasPlaceholder_filePaths {dir : Path} (hdir : dir.Normal) (process : String) (pid : Int) :
    Rolling.hasPlaceholder (LogSink.filePaths dir process pid).2.toList = true := by
  obtain ⟨w, -, -, hpattern⟩ := exists_of_filePaths hdir process pid
  rw [hpattern, Path.toList_text, chars_path]
  have h := Rolling.hasPlaceholder_append (Path.lead w.slashes w.dirs ++ (w.stem ++ ['_'])) ending
  simpa [FileName.openBrace, FileName.closeBrace] using h

/-- The log file of a process has a window of backups, with any policy that asks for one. -/
theorem exists_ofProcess {dir : Path} (hdir : dir.Normal) (process : String) (pid : Int)
    {policy : RollingPolicy} (hwindow : 0 ≤ policy.windowSize) :
    ∃ roller : Roller, LogSink.ofProcess dir process pid policy =
        .ok (.file (LogSink.filePaths dir process pid).1.text policy.maxSize roller) ∧
      roller.pattern = (LogSink.filePaths dir process pid).2 ∧
      roller.count = policy.windowSize.toNat ∧ roller.base = 0 := by
  simp only [LogSink.ofProcess, Roller.ofPolicy, Roller.make,
    dif_pos (hasPlaceholder_filePaths hdir process pid), if_neg (Int.not_lt.2 hwindow)]
  exact ⟨_, rfl, rfl, rfl, rfl⟩

theorem ofProcess_of_neg {dir : Path} (hdir : dir.Normal) (process : String) (pid : Int)
    {policy : RollingPolicy} (hwindow : policy.windowSize < 0) :
    LogSink.ofProcess dir process pid policy = .error .negativeCount := by
  simp only [LogSink.ofProcess, Roller.ofPolicy, Roller.make,
    dif_pos (hasPlaceholder_filePaths hdir process pid), if_pos hwindow]
  rfl

section
variable {dir : Path} {process : String} {pid : Int} {policy : RollingPolicy}

theorem ofProcess_ok {k : LogSink} (h : LogSink.ofProcess dir process pid policy = .ok k) :
    ∃ roller : Roller, k = .file (LogSink.filePaths dir process pid).1.text policy.maxSize roller ∧
      roller.pattern = (LogSink.filePaths dir process pid).2 ∧ roller.base = 0 := by
  unfold LogSink.ofProcess Roller.ofPolicy Roller.make at h
  dsimp only at h
  split at h
  · split at h
    · simp [bind, Except.bind] at h
    · exact ⟨_, (Except.ok.inj h).symm, rfl, rfl⟩
  · simp [bind, Except.bind] at h

theorem path_of_ofProcess {path : String} {maxSize : Int} {roller : Roller}
    (h : LogSink.ofProcess dir process pid policy = .ok (.file path maxSize roller)) :
    path = (LogSink.filePaths dir process pid).1.text := by
  obtain ⟨roller', hk, -⟩ := ofProcess_ok h
  exact (LogSink.file.inj hk).1

end

/-- A character that is special in the path of a log file comes from its directory or from the name
of the process. -/
theorem mem_of_filePaths {dir : Path} {process : String} {pid : Int} {c : Char}
    (hc : c ∈ (LogSink.filePaths dir process pid).1.chars)
    (hspecial : c = '\x00' ∨ c = FileName.openBrace ∨ c = FileName.closeBrace) :
    c ∈ dir.chars ∨ c ∈ process.toList := by
  have hslash : c ≠ '/' := by rcases hspecial with rfl | rfl | rfl <;> decide
  have hpoint : c ≠ '.' := by rcases hspecial with rfl | rfl | rfl <;> decide
  have hdigit : c ∉ pid.repr.toList := by
    intro h
    rcases hspecial with rfl | rfl | rfl <;>
      exact (Text.isDigit_or_sign_of_mem h).elim (by decide) (by decide)
  rw [Path.mem_chars_iff hslash hpoint] at hc ⊢
  obtain ⟨n, hn, hc⟩ := hc
  simp only [LogSink.filePaths] at hn
  rcases Path.mem_names_join hn with hn | hn
  · exact .inl ⟨n, hn, hc⟩
  · have hmem := Path.mem_of_mem_names hn hc
    rw [filePaths_text, String.toList_ofList] at hmem
    have hfixed : c ∉ "elastic_apm_profiler_".toList ∧ c ∉ "_".toList ∧ c ∉ ".log".toList := by
      rcases hspecial with rfl | rfl | rfl <;> decide
    simp only [processPrefix, toString, String.toList_append, List.mem_append] at hmem
    obtain ((hmem | hmem) | hmem) | hmem | hmem := hmem
    · exact absurd hmem hfixed.1
    · exact .inr hmem
    · exact absurd hmem hfixed.2.1
    · exact absurd hmem hdigit
    · exact absurd hmem hfixed.2.2

end LogSite

end ProfilerBootstrap

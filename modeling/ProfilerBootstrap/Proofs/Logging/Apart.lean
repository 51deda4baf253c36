import Mathlib.Data.List.Basic
import ProfilerBootstrap.Logging.Config
import ProfilerBootstrap.Proofs.Logging.Site
import ProfilerBootstrap.Proofs.Rolling.Frame
import ProfilerBootstrap.Proofs.Rolling.Pattern

namespace ProfilerBootstrap

open FileSystem Rolling

theorem Text.append_cons_inj {c : Char} {a a' b b' : List Char} (hb : c ∉ b) (hb' : c ∉ b')
    (h : a ++ c :: b = a' ++ c :: b') : a = a' ∧ b = b' := by
  obtain ⟨t, rfl, ht⟩ | ⟨t, rfl, ht⟩ := List.append_eq_append_iff.1 h
  · cases t with
    | nil => simpa using ht
    | cons d t =>
      obtain ⟨rfl, rfl⟩ := List.cons.inj ht
      simp at hb
  · cases t with
    | nil => simpa using ht.symm
    | cons d t =>
      obtain ⟨rfl, rfl⟩ := List.cons.inj ht
      simp at hb'

def Path.name (p : Path) : Name := p.names.getLastD []

theorem Path.name_snoc (s : Nat) (ns : List Name) (n : Name) : name ⟨s, ns ++ [n]⟩ = n := by
  simp [name]

namespace LogSink

def files : LogSink → List Path
  | stdout => []
  | file path _ roller => .ofText path :: (List.range roller.count).map fun i : Nat => roller.backup i

/-- The name of a process in the name of a backup. It has the number of the backup in place of every
pair of braces. -/
def numbered (i : Nat) (process : String) : String :=
  .ofList (substitute (toString i).toList process.toList)

/-- One process keeps a backup where another one has its log file: as process 5, `a` has its backup
1 at the name that `a_5` has as process 1. -/
def Collides (policy : RollingPolicy) (process : String) (pid : Int) (process' : String)
    (pid' : Int) : Prop :=
  ∃ i : Nat, (i : Int) < policy.windowSize ∧ process' = s!"{numbered i process}_{pid}" ∧ pid' = i

/-- Processes of one number keep a backup at one place: with the number of the backup in it, the
name of the one is that of the other. -/
def Merges (policy : RollingPolicy) (process : String) (pid : Int) (process' : String)
    (pid' : Int) : Prop :=
  ∃ i : Nat, (i : Int) < policy.windowSize ∧ numbered i process = numbered i process' ∧ pid = pid'

/-- The log file of one process is a backup of another one: its name has the number of the other one
appended, and its own number is that of the backup. -/
def Appends (policy : RollingPolicy) (process : String) (pid : Int) (process' : String)
    (pid' : Int) : Prop :=
  process' = s!"{process}_{pid}" ∧ 0 ≤ pid' ∧ pid' < policy.windowSize

def stem (process : String) (pid : Int) : Name := (s!"elastic_apm_profiler_{process}_{pid}").toList

def fileName (process : String) (pid : Int) (mark : Name) : Name :=
  stem process pid ++ (mark ++ LogSite.ending)

theorem brace_notMem_toString (i : Nat) : '\x7b' ∉ (toString i).toList := fun h =>
  absurd (Text.isDigit_of_mem_toString h) (by decide)

section
variable {policy : RollingPolicy} {process process' : String} {pid pid' : Int} {i : Nat}

theorem numbered_eq_self_iff : numbered i process = process ↔ hasPlaceholder process.toList = false := by
  rw [numbered, ← String.toList_inj, String.toList_ofList]
  exact substitute_eq_self_iff (brace_notMem_toString i)

theorem collides_iff_appends (h : hasPlaceholder process.toList = false) :
    Collides policy process pid process' pid' ↔ Appends policy process pid process' pid' := by
  constructor
  · rintro ⟨i, hi, hprocess, rfl⟩
    rw [numbered_eq_self_iff.2 h] at hprocess
    exact ⟨hprocess, by omega, hi⟩
  · rintro ⟨hprocess, hpos, hlt⟩
    refine ⟨pid'.toNat, by omega, ?_, by omega⟩
    rw [numbered_eq_self_iff.2 h]
    exact hprocess

theorem not_merges_of_no_placeholder (h : hasPlaceholder process.toList = false)
    (h' : hasPlaceholder process'.toList = false) (hpair : (process, pid) ≠ (process', pid')) :
    ¬ Merges policy process pid process' pid' := by
  rintro ⟨i, -, hprocess, rfl⟩
  rw [numbered_eq_self_iff.2 h, numbered_eq_self_iff.2 h'] at hprocess
  exact hpair (by rw [hprocess])

end

/-- What all names of log files begin with matters for nothing but that it has no braces. -/
theorem exists_stem_eq : ∃ fixed : List Char, '\x7b' ∉ fixed ∧
    ∀ process pid, stem process pid = fixed ++ (process.toList ++ '_' :: pid.repr.toList) := by
  refine ⟨"elastic_apm_profiler_".toList, by decide, fun process pid => ?_⟩
  have hmark : "_".toList = ['_'] := rfl
  simp only [stem, toString, String.toList_append, hmark, List.append_assoc, List.singleton_append]

section
variable {process process' : String} {pid pid' : Int} {i j : Nat}

theorem underscore_notMem_repr (i : Int) : '_' ∉ i.repr.toList := fun h =>
  (Text.isDigit_or_sign_of_mem h).elim (by decide) (by decide)

theorem underscore_notMem_toString (i : Nat) : '_' ∉ (toString i).toList := fun h =>
  absurd (Text.isDigit_of_mem_toString h) (by decide)

theorem stem_inj (h : stem process pid = stem process' pid') : process = process' ∧ pid = pid' := by
  obtain ⟨fixed, -, hstem⟩ := exists_stem_eq
  rw [hstem, hstem] at h
  obtain ⟨hprocess, hpid⟩ := Text.append_cons_inj (underscore_notMem_repr pid)
    (underscore_notMem_repr pid') (List.append_cancel_left h)
  exact ⟨String.toList_inj.1 hprocess, Text.repr_inj (String.toList_inj.1 hpid)⟩

theorem stem_append_number_inj
    (h : stem process pid ++ LogSite.number i = stem process' pid' ++ LogSite.number j) :
    process = process' ∧ pid = pid' ∧ i = j := by
  obtain ⟨hstem, hnumber⟩ :=
    Text.append_cons_inj (underscore_notMem_toString i) (underscore_notMem_toString j) h
  obtain ⟨hprocess, hpid⟩ := stem_inj hstem
  exact ⟨hprocess, hpid, Text.toString_inj (String.toList_inj.1 hnumber)⟩

theorem stem_eq_append_number (h : stem process' pid' = stem process pid ++ LogSite.number i) :
    process' = s!"{process}_{pid}" ∧ pid' = i := by
  obtain ⟨fixed, -, hstem⟩ := exists_stem_eq
  rw [hstem, hstem, List.append_assoc] at h
  obtain ⟨hprocess, hpid⟩ := Text.append_cons_inj (underscore_notMem_repr pid')
    (underscore_notMem_toString i) (List.append_cancel_left h)
  refine ⟨String.toList_inj.1 (hprocess.trans ?_), Text.repr_inj (String.toList_inj.1 hpid)⟩
  simp [toString]

theorem fileName_noUp (process : String) (pid : Int) (mark : Name) :
    fileName process pid mark ≠ ['.', '.'] := by
  intro h
  have hlen := congrArg List.length h
  simp [fileName, LogSite.ending] at hlen
  omega

theorem fileName_inj {mark mark' : Name}
    (h : fileName process pid mark = fileName process' pid' mark') :
    stem process pid ++ mark = stem process' pid' ++ mark' := by
  simp only [fileName, ← List.append_assoc] at h
  exact List.append_cancel_right h

theorem substitute_stem (process : String) (pid : Int) (i : Nat) :
    substitute (toString i).toList (stem process pid) = stem (numbered i process) pid := by
  obtain ⟨fixed, hfixed, hstem⟩ := exists_stem_eq
  have hpid : '\x7b' ∉ '_' :: pid.repr.toList := by
    have hdigits : '\x7b' ∉ pid.repr.toList := fun h =>
      (Text.isDigit_or_sign_of_mem h).elim (by decide) (by decide)
    simp [hdigits]
  rw [hstem, hstem, substitute_append_of_no_braces _ hfixed, substitute_append _ _ (by simp),
    substitute_of_no_braces _ hpid, numbered, String.toList_ofList]

/-- The log file and the backups of a process, by the names that they have in a directory. A
directory with places for a number has other directories for the backups. -/
structure Holds (dir : Path) (process : String) (pid window : Int) (path : String)
    (roller : Roller) : Prop where
  active : Path.ofText path = ⟨dir.slashes, dir.names ++ [fileName process pid []]⟩
  backup : ∀ i : Nat, roller.backup i =
    ⟨dir.slashes, dir.names.map (substitute (toString i).toList) ++
      [fileName (numbered i process) pid (LogSite.number i)]⟩
  count : roller.count = window.toNat
  base : roller.base = 0

theorem normal_stem_append {dir : Path} (hdir : dir.Normal) (hslash : '/' ∉ process.toList)
    (pid : Int) {mark : Name} (hmark : '/' ∉ mark) :
    Path.Normal ⟨dir.slashes, dir.names ++ [stem process pid ++ mark]⟩ := by
  have hstem : '/' ∉ stem process pid := by
    simp [stem, toString, hslash, Text.slash_notMem_repr]
  have hletter : '_' ∈ stem process pid := by simp [stem, toString]
  refine hdir.snoc ?_ (by simp [hstem, hmark])
  have hnil : stem process pid ++ mark ≠ [] := by simp [List.ne_nil_of_mem hletter]
  have hpoint : stem process pid ++ mark ≠ ['.'] := by
    intro h
    have hmem : '_' ∈ ['.'] := h ▸ List.mem_append_left _ hletter
    simp at hmem
  simp [Path.isName, hnil, hpoint]

theorem substitute_stem_append (process : String) (pid : Int) (i : Nat) :
    substitute (toString i).toList (stem process pid ++ "_\x7b\x7d.log".toList) =
      fileName (numbered i process) pid (LogSite.number i) := by
  have hmark : "_\x7b\x7d.log".toList = '_' :: '\x7b' :: '\x7d' :: LogSite.ending := rfl
  rw [hmark, substitute_append _ _ (by simp), substitute_stem]
  simp [substitute, fileName, LogSite.number, LogSite.ending]

theorem exists_holds {dir : Path} (hdir : dir.Normal) {policy : RollingPolicy}
    (hwindow : 0 ≤ policy.windowSize) (hslash : '/' ∉ process.toList) (pid : Int) :
    ∃ path roller, ofProcess dir process pid policy = .ok (.file path policy.maxSize roller) ∧
      Holds dir process pid policy.windowSize path roller := by
  obtain ⟨roller, hsink, hpattern, hcount, hbase⟩ :=
    LogSite.exists_ofProcess hdir process pid hwindow
  have hpaths := LogSite.filePaths_of_no_slash dir hslash pid
  have hname : ∀ mark, LogSite.processPrefix process ++ (pid.repr.toList ++ mark) =
      stem process pid ++ mark := fun mark => by
    simp [LogSite.processPrefix, stem, toString]
  simp only [hname] at hpaths
  refine ⟨_, roller, hsink, ?_, fun i => ?_, hcount, hbase⟩
  · rw [hpaths]
    exact Path.ofText_text (normal_stem_append hdir hslash pid (by decide))
  · rw [hpaths] at hpattern
    rw [Roller.backup_eq (normal_stem_append hdir hslash pid (by decide)) (by simp) hpattern,
      List.map_append, List.map_singleton]
    exact congrArg (fun n => Path.mk dir.slashes (_ ++ [n])) (substitute_stem_append process pid i)

theorem Holds.name_of_mem {dir q : Path} {window maxSize : Int} {path : String} {roller : Roller}
    (h : Holds dir process pid window path roller)
    (hq : q ∈ (LogSink.file path maxSize roller).files) :
    q.name = fileName process pid [] ∨
      ∃ i : Nat, (i : Int) < window ∧
        q.name = fileName (numbered i process) pid (LogSite.number i) := by
  rcases List.mem_cons.1 hq with rfl | hq
  · exact .inl (by rw [h.active, Path.name_snoc])
  · obtain ⟨i, hi, rfl⟩ := List.mem_map.1 hq
    rw [List.mem_range, h.count] at hi
    exact .inr ⟨i, by omega, by rw [h.backup, Path.name_snoc]⟩

theorem Holds.backup_mem {dir : Path} {window : Int} {path : String} {roller : Roller}
    (h : Holds dir process pid window path roller) (maxSize : Int) (hi : (i : Int) < window) :
    roller.backup i ∈ (LogSink.file path maxSize roller).files := by
  refine List.mem_cons_of_mem _ (List.mem_map.2 ⟨i, List.mem_range.2 ?_, rfl⟩)
  rw [h.count]
  omega

section
variable {dir : Path} {policy : RollingPolicy} {maxSize maxSize' : Int} {path path' : String}
  {roller roller' : Roller}
  (h : Holds dir process pid policy.windowSize path roller)
  (h' : Holds dir process' pid' policy.windowSize path' roller')

include h h'

/-- Files of two processes have one name only where one process keeps a backup at the log file, or
at a backup, of the other. -/
theorem Holds.name_ne (hpair : (process, pid) ≠ (process', pid'))
    (hno : ¬ Collides policy process pid process' pid')
    (hno' : ¬ Collides policy process' pid' process pid)
    (hbackups : ¬ Merges policy process pid process' pid') {q q' : Path}
    (hq : q ∈ (LogSink.file path maxSize roller).files)
    (hq' : q' ∈ (LogSink.file path' maxSize' roller').files) : q.name ≠ q'.name := by
  intro heq
  have hdistinct : ¬ (process = process' ∧ pid = pid') := by simpa using hpair
  obtain hname | ⟨i, hi, hname⟩ := h.name_of_mem hq <;>
    obtain hname' | ⟨j, hj, hname'⟩ := h'.name_of_mem hq' <;>
    rw [hname, hname'] at heq <;> have hmark := fileName_inj heq
  · -- both are log files
    exact hdistinct (stem_inj (by simpa using hmark))
  · -- a log file and a backup of the other process
    obtain ⟨hprocess, hpid⟩ := stem_eq_append_number (by simpa using hmark)
    exact hno' ⟨j, hj, hprocess, hpid⟩
  · -- a backup and the log file of the other process
    obtain ⟨hprocess, hpid⟩ := stem_eq_append_number (by simpa using hmark.symm)
    exact hno ⟨i, hi, hprocess, hpid⟩
  · -- both are backups
    obtain ⟨hprocess, hpid, rfl⟩ := stem_append_number_inj hmark
    exact hbackups ⟨i, hi, hprocess, hpid⟩

theorem Holds.not_disjoint_of_collides (hdir : hasPlaceholder dir.chars = false)
    (hnames : dir.Normal) (hcollide : Collides policy process pid process' pid') :
    ¬ List.Disjoint (LogSink.file path maxSize roller).files
      (LogSink.file path' maxSize' roller').files := by
  obtain ⟨i, hi, hprocess, rfl⟩ := hcollide
  have hstem : stem process' i = stem (numbered i process) pid ++ LogSite.number i := by
    obtain ⟨fixed, -, hstem⟩ := exists_stem_eq
    have hrepr : (i : Int).repr = toString i := rfl
    rw [hstem, hstem, hprocess, hrepr]
    simp only [toString, String.toList_append, LogSite.number, List.append_assoc]
    rfl
  have hname : fileName process' i [] = fileName (numbered i process) pid (LogSite.number i) := by
    simp [fileName, hstem]
  have hbackup : roller.backup i = Path.ofText path' := by
    have hplaces := hnames.map_substitute (Text.isName_repr i) (Text.slash_notMem_repr i) hdir
    rw [h.backup, h'.active, hname]
    exact congrArg (fun ns => Path.mk dir.slashes (ns ++ _)) hplaces
  have hmem := h.backup_mem maxSize hi
  exact fun hdisjoint => hdisjoint (hbackup ▸ hmem) List.mem_cons_self

theorem Holds.not_disjoint_of_merges (hmerge : Merges policy process pid process' pid') :
    ¬ List.Disjoint (LogSink.file path maxSize roller).files
      (LogSink.file path' maxSize' roller').files := by
  obtain ⟨i, hi, hprocess, rfl⟩ := hmerge
  have hbackup : roller.backup i = roller'.backup i := by rw [h.backup, h'.backup, hprocess]
  have hmem := h.backup_mem maxSize hi
  exact fun hdisjoint => hdisjoint (hbackup ▸ hmem) (h'.backup_mem maxSize' hi)

/-- Rolling a file into the window of one process leaves what lies at the names of the other as it
is, in whatever directory that is and whatever comes of the rolling. -/
theorem Holds.find?_roll (hpair : (process, pid) ≠ (process', pid'))
    (hno : ¬ Collides policy process pid process' pid')
    (hno' : ¬ Collides policy process' pid' process pid)
    (hbackups : ¬ Merges policy process pid process' pid') (fs : FileSystem) {rolled : Path} {z : Name}
    (hrolled : rolled.EndsIn z)
    (hz : ∀ q' ∈ (LogSink.file path' maxSize' roller').files, q'.name ≠ z) {d : Location}
    (hd : ∀ n ∈ d, n ≠ z ∧ ∀ q ∈ (LogSink.file path maxSize roller).files, q.name ≠ n) {q' : Path}
    (hq' : q' ∈ (LogSink.file path' maxSize' roller').files) :
    (roller.roll fs rolled.text).1.find? (d ++ [q'.name]) = fs.find? (d ++ [q'.name]) ∧
      (roller.roll fs rolled.text).1.contents = fs.contents := by
  let b : Name → Prop := fun n => n = z ∨ ∃ q ∈ (LogSink.file path maxSize roller).files, q.name = n
  have hbackup : ∀ i : Nat, i < roller.count →
      ∃ n, (roller.backup (roller.base + i)).EndsIn n ∧ b n := by
    intro i hi
    rw [h.base, Int.zero_add]
    have hmem := h.backup_mem maxSize (i := i) (by have := h.count; omega)
    refine ⟨fileName (numbered i process) pid (LogSite.number i),
      ⟨roller.normal_backup i, fileName_noUp _ _ _, ?_⟩, .inr ⟨_, hmem, ?_⟩⟩
    · rw [h.backup]
      exact ⟨_, rfl⟩
    · rw [h.backup, Path.name_snoc]
  have hspares := Roller.spares_roll hbackup hrolled (.inl rfl) fs
  refine ⟨hspares.find? _ fun n hn => ?_, hspares.contents⟩
  rcases List.mem_append.1 hn with hn | hn
  · rintro (rfl | ⟨q, hq, rfl⟩)
    · exact (hd n hn).1 rfl
    · exact (hd _ hn).2 q hq rfl
  · obtain rfl := List.mem_singleton.1 hn
    rintro (hzq | ⟨q, hq, heq⟩)
    · exact hz q' hq' hzq
    · exact h.name_ne h' hpair hno hno' hbackups hq hq' heq

end

/-- Two processes share no file, unless one of them keeps a backup at the log file, or at a backup,
of the other; and what is rolled for one of them, however it turns out, leaves the files of the
other as they are. -/
theorem apart {dir : Path} (hdir : dir.Normal) {policy : RollingPolicy}
    (hwindow : 1 ≤ policy.windowSize) (hpair : (process, pid) ≠ (process', pid'))
    (hslash : '/' ∉ process.toList) (hslash' : '/' ∉ process'.toList) :
    ∃ path roller path' roller',
      ofProcess dir process pid policy = .ok (.file path policy.maxSize roller) ∧
      ofProcess dir process' pid' policy = .ok (.file path' policy.maxSize roller') ∧
      (¬ Collides policy process pid process' pid' → ¬ Collides policy process' pid' process pid →
          ¬ Merges policy process pid process' pid' →
        (LogSink.file path policy.maxSize roller).files.Disjoint
          (LogSink.file path' policy.maxSize roller').files ∧
        ∀ (fs : FileSystem) (rolled : Path) (z : Name), rolled.EndsIn z →
          (∀ q' ∈ (LogSink.file path' policy.maxSize roller').files, q'.name ≠ z) →
          ∀ d : Location,
            (∀ n ∈ d, n ≠ z ∧ ∀ q ∈ (LogSink.file path policy.maxSize roller).files, q.name ≠ n) →
          ∀ q' ∈ (LogSink.file path' policy.maxSize roller').files,
            (roller.roll fs rolled.text).1.find? (d ++ [q'.name]) = fs.find? (d ++ [q'.name]) ∧
              (roller.roll fs rolled.text).1.contents = fs.contents) ∧
      (Merges policy process pid process' pid' ∨ hasPlaceholder dir.chars = false ∧
          (Collides policy process pid process' pid' ∨ Collides policy process' pid' process pid) →
        ¬ (LogSink.file path policy.maxSize roller).files.Disjoint
          (LogSink.file path' policy.maxSize roller').files) := by
  have hpos : 0 ≤ policy.windowSize := by omega
  obtain ⟨path, roller, hsink, h⟩ := exists_holds hdir hpos hslash pid
  obtain ⟨path', roller', hsink', h'⟩ := exists_holds hdir hpos hslash' pid'
  refine ⟨path, roller, path', roller', hsink, hsink', fun hno hno' hbackups => ⟨?_, ?_⟩, ?_⟩
  · intro q hq hq'
    exact h.name_ne h' hpair hno hno' hbackups hq hq' rfl
  · intro fs rolled z hrolled hz d hd q' hq'
    exact h.find?_roll h' hpair hno hno' hbackups fs hrolled hz hd hq'
  · rintro (hmerge | ⟨hplaces, hcollide | hcollide⟩)
    · exact h.not_disjoint_of_merges h' hmerge
    · exact h.not_disjoint_of_collides h' hplaces hdir hcollide
    · exact fun hdisjoint =>
        h'.not_disjoint_of_collides h hplaces hdir hcollide fun _ hq' hq => hdisjoint hq hq'

/-- Two processes share no file, and what is rolled for one of them leaves the files of the other as
they are, however it turns out, unless the name of one of them is that of the other with its number
appended, and its number is that of a backup. Then the log file of the one is a backup of the other.
-/
theorem apart_unless_appended {dir : Path} (hdir : dir.Normal) {policy : RollingPolicy}
    (hwindow : 1 ≤ policy.windowSize) (hpair : (process, pid) ≠ (process', pid'))
    (hslash : '/' ∉ process.toList) (hslash' : '/' ∉ process'.toList)
    (hplaces : hasPlaceholder process.toList = false)
    (hplaces' : hasPlaceholder process'.toList = false) :
    ∃ path roller path' roller',
      ofProcess dir process pid policy = .ok (.file path policy.maxSize roller) ∧
      ofProcess dir process' pid' policy = .ok (.file path' policy.maxSize roller') ∧
      (¬ Appends policy process pid process' pid' → ¬ Appends policy process' pid' process pid →
        (LogSink.file path policy.maxSize roller).files.Disjoint
          (LogSink.file path' policy.maxSize roller').files ∧
        ∀ (fs : FileSystem) (rolled : Path) (z : Name), rolled.EndsIn z →
          (∀ q' ∈ (LogSink.file path' policy.maxSize roller').files, q'.name ≠ z) →
          ∀ d : Location,
            (∀ n ∈ d, n ≠ z ∧ ∀ q ∈ (LogSink.file path policy.maxSize roller).files, q.name ≠ n) →
          ∀ q' ∈ (LogSink.file path' policy.maxSize roller').files,
            (roller.roll fs rolled.text).1.find? (d ++ [q'.name]) = fs.find? (d ++ [q'.name]) ∧
              (roller.roll fs rolled.text).1.contents = fs.contents) ∧
      (hasPlaceholder dir.chars = false →
        Appends policy process pid process' pid' ∨ Appends policy process' pid' process pid →
        ¬ (LogSink.file path policy.maxSize roller).files.Disjoint
          (LogSink.file path' policy.maxSize roller').files) := by
  obtain ⟨path, roller, path', roller', hsink, hsink', happart, hshare⟩ :=
    apart hdir hwindow hpair hslash hslash'
  have hmerge : ¬ Merges policy process pid process' pid' :=
    not_merges_of_no_placeholder hplaces hplaces' hpair
  rw [collides_iff_appends hplaces, collides_iff_appends hplaces'] at happart hshare
  refine ⟨path, roller, path', roller', hsink, hsink', fun hno hno' => ?_, fun hplace happend => ?_⟩
  · exact happart hno hno' hmerge
  · exact hshare (.inr ⟨hplace, happend⟩)

/-- With ten backups, `a` as process 5 and `a_5` as process 10 have no file in common. -/
theorem apart_beyond_window :
    ∃ path roller path' roller',
      ofProcess (.ofText "d") "a" 5 .usual = .ok (.file path (5 * 1024 * 1024) roller) ∧
      ofProcess (.ofText "d") "a_5" 10 .usual = .ok (.file path' (5 * 1024 * 1024) roller') ∧
      (LogSink.file path (5 * 1024 * 1024) roller).files.Disjoint
        (LogSink.file path' (5 * 1024 * 1024) roller').files := by
  obtain ⟨path, roller, path', roller', hsink, hsink', happart, -⟩ :=
    apart_unless_appended (Path.normal_ofText "d") (by decide : 1 ≤ RollingPolicy.usual.windowSize)
      (by decide : ("a", (5 : Int)) ≠ ("a_5", 10)) (by decide) (by decide) (by decide) (by decide)
  have hno : ¬ Appends .usual "a" 5 "a_5" 10 := fun h => absurd h.2.2 (by decide)
  have hno' : ¬ Appends .usual "a_5" 10 "a" 5 := fun h => absurd h.1 (by decide)
  exact ⟨path, roller, path', roller', hsink, hsink', (happart hno hno').1⟩

/-- The log file of `a_5` as process 1 is a backup of `a` as process 5. -/
theorem shares_file_with_appended_number :
    ("a", (5 : Int)) ≠ ("a_5", 1) ∧
    ∃ path roller path' roller',
      ofProcess (.ofText "d") "a" 5 .usual = .ok (.file path (5 * 1024 * 1024) roller) ∧
      ofProcess (.ofText "d") "a_5" 1 .usual = .ok (.file path' (5 * 1024 * 1024) roller') ∧
      ¬ (LogSink.file path (5 * 1024 * 1024) roller).files.Disjoint
        (LogSink.file path' (5 * 1024 * 1024) roller').files := by
  have hpos : 0 ≤ RollingPolicy.usual.windowSize := by decide
  have hdir := Path.normal_ofText "d"
  obtain ⟨path, roller, hsink, h⟩ := exists_holds hdir hpos (by decide : '/' ∉ "a".toList) 5
  obtain ⟨path', roller', hsink', h'⟩ := exists_holds hdir hpos (by decide : '/' ∉ "a_5".toList) 1
  exact ⟨by decide, path, roller, path', roller', hsink, hsink',
    h.not_disjoint_of_collides h' (by decide) hdir ⟨1, by decide, by decide, by decide⟩⟩

end

end LogSink

end ProfilerBootstrap

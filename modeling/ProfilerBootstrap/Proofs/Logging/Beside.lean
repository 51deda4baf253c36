import ProfilerBootstrap.Proofs.Logging.Apart
import ProfilerBootstrap.Proofs.Rolling.Names
import ProfilerBootstrap.Proofs.Rolling.Refused

namespace ProfilerBootstrap

open FileSystem Rolling

namespace LogSink

/-- The path beside the log file of a process that is meant for a backup. -/
def backupBeside (dir : Path) (process : String) (pid : Int) (i : Nat) : Path :=
  ⟨dir.slashes, dir.names ++ [fileName process pid (LogSite.number i)]⟩

def backupName (process : String) (pid : Int) (i : Nat) : Name :=
  fileName (numbered i process) pid (LogSite.number i)

/-- The directory that a backup is in: where the path of a directory has places for a number, there
is one for each number. -/
def backupDirectory (dir : Path) (i : Nat) : Path :=
  ⟨dir.slashes, dir.names.map (substitute (toString i).toList)⟩

section
variable {dir : Path} {process : String} {pid window : Int} {path : String} {roller : Roller}
  {i j : Nat}

theorem backupDirectory_eq_self_iff (hdir : dir.Normal) :
    backupDirectory dir i = dir ↔ hasPlaceholder dir.chars = false := by
  have hnames : dir.names.map (substitute (toString i).toList) = dir.names ↔
      hasPlaceholder dir.chars = false :=
    hdir.map_substitute_eq_self_iff (Text.isName_repr i) (Text.slash_notMem_repr i)
      (brace_notMem_toString i)
  rw [← hnames]
  exact ⟨fun h => congrArg Path.names h, fun h => congrArg (Path.mk dir.slashes) h⟩

theorem backupName_eq_iff (process : String) (pid : Int) (i : Nat) :
    backupName process pid i = fileName process pid (LogSite.number i) ↔
      hasPlaceholder process.toList = false := by
  refine Iff.trans ⟨fun h => ?_, fun h => ?_⟩ (numbered_eq_self_iff (i := i))
  · exact (stem_append_number_inj (fileName_inj h)).1
  · rw [backupName, h]

theorem backupName_inj (h : backupName process pid i = backupName process pid j) : i = j :=
  (stem_append_number_inj (fileName_inj h)).2.2

theorem Holds.backup_eq (h : Holds dir process pid window path roller) (i : Nat) :
    roller.backup i =
      ⟨(backupDirectory dir i).slashes, (backupDirectory dir i).names ++ [backupName process pid i]⟩ :=
  h.backup i

theorem Holds.parent_backup (h : Holds dir process pid window path roller) (i : Nat) :
    (roller.backup i).parent = backupDirectory dir i := by
  simp [h.backup_eq, Path.parent]

theorem Holds.backup_eq_beside_iff (h : Holds dir process pid window path roller) (hdir : dir.Normal) :
    roller.backup i = backupBeside dir process pid i ↔
      hasPlaceholder dir.chars = false ∧ hasPlaceholder process.toList = false := by
  rw [h.backup_eq, backupBeside, ← backupDirectory_eq_self_iff hdir (i := i),
    ← backupName_eq_iff process pid i]
  refine ⟨fun heq => ?_, fun ⟨hsame, hname⟩ => by rw [hsame, hname]⟩
  obtain ⟨hnames, hname⟩ := List.append_inj' (Path.mk.inj heq).2 (by simp)
  exact ⟨congrArg (Path.mk dir.slashes) hnames, List.singleton_inj.1 hname⟩

theorem Holds.names (h : Holds dir process pid window path roller) (hdir : dir.Normal)
    (hplace : hasPlaceholder dir.chars = false) :
    roller.Names dir.slashes dir.names (backupName process pid) where
  backup i := by
    rw [h.base, Int.zero_add, h.backup_eq, (backupDirectory_eq_self_iff hdir).2 hplace]
  normal i := by
    have hnormal := roller.normal_backup i
    rwa [h.backup_eq, (backupDirectory_eq_self_iff hdir).2 hplace] at hnormal
  noUp i := fileName_noUp _ _ _
  inj i j := backupName_inj

variable {fs : FileSystem}

/-- Where the path of the directory has no place for a number, a file is rolled into the directory
itself. This is not refused as long as the names of the backups fit there and no directory and no
link has one of them. -/
theorem Holds.roll (h : Holds dir process pid window path roller) (hdir : dir.Normal)
    (hplace : hasPlaceholder dir.chars = false) (hs : fs.Sound) {l m : Location} {id : FileId}
    {rolled : String} (hlead : fs.Leads dir l) (hfile : fs.FileAt rolled m id)
    (hbackup : ∀ i, i < roller.count → m ≠ l ++ [backupName process pid i] ∧
      Fits dir.slashes dir.names (backupName process pid i) ∧
      fs.NoDirOrLink (l ++ [backupName process pid i])) :
    ∃ fs', roller.roll fs rolled = (fs', none) ∧
      roller.window fs' = (some (fs.read id) :: roller.window fs).take roller.count ∧
      (0 < roller.count → fs'.find? (l ++ [backupName process pid 0]) = some (.file id)) := by
  have hnames := h.names hdir hplace
  have hslots : roller.HasSlots fs fun i => l ++ [backupName process pid i] :=
    ⟨fun i hi => hnames.slot hlead (hbackup i hi).2.1 (hbackup i hi).2.2,
      fun i j _ _ hij => hnames.inj i j (by simpa using hij)⟩
  have hm : ∀ i, i < roller.count → m ≠ l ++ [backupName process pid i] := fun i hi =>
    (hbackup i hi).1
  obtain ⟨fs', hroll, -, -, hfirst, -⟩ := Roller.roll_eq hs hslots hfile hm
  have hafter := ((Roller.after_start hs hslots).roll ⟨hs, .refl _ _, hfile.slot.plain⟩ hfile hm).2
  rw [hroll] at hafter
  exact ⟨fs', hroll, hafter.window, hfirst⟩

/-- Where none of the directories for the backups is there, rolling is refused and changes nothing,
whether the directory of the log file is there or not. -/
theorem Holds.roll_eq_error (h : Holds dir process pid window path roller) (hpos : 0 < roller.count)
    (hno : ∀ i : Nat, i < roller.count → ∀ l, ¬ fs.Leads (backupDirectory dir i) l)
    (rolled : String) : ∃ e, roller.roll fs rolled = (fs, some e) := by
  have hbackup : ∀ i : Nat, roller.backup (roller.base + i) =
      ⟨(backupDirectory dir i).slashes, (backupDirectory dir i).names ++ [backupName process pid i]⟩ := by
    intro i
    rw [h.base, Int.zero_add, h.backup_eq]
  have hnormal : ∀ i : Nat, Path.Normal
      ⟨(backupDirectory dir i).slashes, (backupDirectory dir i).names ++ [backupName process pid i]⟩ :=
    fun i => hbackup i ▸ roller.normal_backup _
  have hnone : ∀ (i : Nat) e, i < roller.count →
      fs.status (roller.backup (roller.base + i)).text = .ok e → e = none := by
    intro i e hi hst
    rw [hbackup] at hst
    exact Roller.status_of_not_leads (hnormal i) (fileName_noUp _ _ _) (hno i hi) hst
  obtain ⟨fs', e, hroll⟩ : ∃ fs' e, roller.roll fs rolled = (fs', e) := ⟨_, _, rfl⟩
  rw [hroll]
  cases e with
  | none =>
    obtain ⟨q, hq⟩ := Roller.reach_of_roll hnone hpos hroll
    rw [hbackup] at hq
    obtain ⟨-, l, hl⟩ := of_reach_snoc (hnormal 0) (fileName_noUp _ _ _) hq
    exact absurd hl (hno 0 hpos l)
  | some e =>
    obtain ⟨rfl, -⟩ | ⟨-, fs₁, hdrop, rfl⟩ := Roller.roll_error hroll
    · exact ⟨e, rfl⟩
    · obtain rfl := Roller.dropOldest_of_none hnone hpos hdrop
      rw [Roller.shift_of_none hnone _ (by omega)]
      exact ⟨e, rfl⟩

/-- The backups of a process are beside its log file, with their numbers, if neither the path of the
directory nor the name of the process has a place for a number; they are in the same directory at
all if its path has none. Then rolling a file puts it there. With a place in its path the directory
can be there and rolling be refused all the same, as the backups are in other directories. -/
theorem backups_beside_iff (text process : String) (hslash : '/' ∉ process.toList) (pid : Int)
    (policy : RollingPolicy) :
    let dir := Path.ofText text
    (policy.windowSize < 0 → ofProcess dir process pid policy = .error .negativeCount) ∧
    (0 ≤ policy.windowSize → ∃ path roller,
      ofProcess dir process pid policy = .ok (.file path policy.maxSize roller) ∧
      Path.ofText path = ⟨dir.slashes, dir.names ++ [fileName process pid []]⟩ ∧
      (roller.count : Int) = policy.windowSize ∧ roller.base = 0 ∧
      (∀ i : Nat,
        roller.backup i = ⟨dir.slashes, (backupDirectory dir i).names ++ [backupName process pid i]⟩ ∧
        (roller.backup i = backupBeside dir process pid i ↔
          hasPlaceholder dir.chars = false ∧ hasPlaceholder process.toList = false) ∧
        ((roller.backup i).parent = dir ↔ hasPlaceholder dir.chars = false)) ∧
      ∀ (fs : FileSystem) (rolled : String),
        (hasPlaceholder dir.chars = false → fs.Sound → ∀ (l m : Location) (id : FileId),
          fs.Leads dir l → fs.FileAt rolled m id →
          (∀ i, i < roller.count → m ≠ l ++ [backupName process pid i] ∧
            Fits dir.slashes dir.names (backupName process pid i) ∧
            fs.NoDirOrLink (l ++ [backupName process pid i])) →
          ∃ fs', roller.roll fs rolled = (fs', none) ∧
            roller.window fs' = (some (fs.read id) :: roller.window fs).take roller.count ∧
            (0 < roller.count → fs'.find? (l ++ [backupName process pid 0]) = some (.file id))) ∧
        (0 < roller.count →
          (∀ i : Nat, i < roller.count → ∀ l, ¬ fs.Leads (backupDirectory dir i) l) →
          ∃ e, roller.roll fs rolled = (fs, some e))) := by
  intro dir
  have hdir : dir.Normal := Path.normal_ofText text
  refine ⟨LogSite.ofProcess_of_neg hdir process pid, fun hwindow => ?_⟩
  obtain ⟨path, roller, hsink, h⟩ := exists_holds hdir hwindow hslash pid
  refine ⟨path, roller, hsink, h.active, ?_, h.base, fun i => ⟨h.backup i, ?_, ?_⟩,
    fun fs rolled => ⟨?_, ?_⟩⟩
  · rw [h.count]
    exact Int.toNat_of_nonneg hwindow
  · exact h.backup_eq_beside_iff hdir
  · rw [h.parent_backup]
    exact backupDirectory_eq_self_iff hdir
  · intro hplace hs l m id hlead hfile hbackup
    exact h.roll hdir hplace hs hlead hfile hbackup
  · intro hpos hno
    exact h.roll_eq_error hpos hno rolled

/-- With a pair of braces in the name of the directory, the first backup is meant for another one,
and where that is missing no file can be rolled. -/
theorem backups_beside_iff_no_braces :
    let fs : FileSystem := .fresh [['r'], "d{}".toList]
    ∃ path roller,
      ofProcess (.ofText "/r/d{}") "p" 1 .usual = .ok (.file path (5 * 1024 * 1024) roller) ∧
      roller.backup 0 = .ofText "/r/d0/elastic_apm_profiler_p_1_0.log" ∧
      roller.backup 0 ≠ backupBeside (.ofText "/r/d{}") "p" 1 0 ∧
      (roller.backup 0).parent ≠ .ofText "/r/d{}" ∧ fs.isDir "/r/d{}" = true ∧
      ∀ rolled, ∃ e, roller.roll fs rolled = (fs, some e) := by
  intro fs
  obtain ⟨path, roller, hsink, -, hcount, -, hbackup, hroll⟩ :=
    (backups_beside_iff "/r/d{}" "p" (by decide) 1 .usual).2 (by decide)
  have hcount : roller.count = 10 := Int.ofNat.inj hcount
  obtain ⟨hpath, hbeside, hparent⟩ := hbackup 0
  have hplace : hasPlaceholder (Path.ofText "/r/d{}").chars = true := by decide +kernel
  rw [hplace] at hbeside hparent
  refine ⟨path, roller, hsink, hpath.trans (by decide +kernel), by simpa using hbeside,
    by simpa using hparent, by decide +kernel, fun rolled => ?_⟩
  refine (hroll fs rolled).2 (by omega) fun i hi l hl => ?_
  have hmissing : ∀ i < 10, (walkFrom fs true greatestLinks
      (fs.start (backupDirectory (.ofText "/r/d{}") i))
      (backupDirectory (.ofText "/r/d{}") i).names).toOption =
        some ⟨[['r'], 'd' :: (toString i).toList], none⟩ := by decide +kernel
  have hi := hmissing i (by omega)
  unfold Leads at hl
  rw [hl] at hi
  simp [Except.toOption] at hi

end

end LogSink

end ProfilerBootstrap

import ProfilerBootstrap.Logging.History
import ProfilerBootstrap.Proofs.Logging.Rotation

namespace ProfilerBootstrap

open FileSystem LogSite

/-- The open file of a log and its backups, the newest first. Beyond the numbers of the window
nothing has changed since the beginning. -/
structure Window (w : LogSite) (count : Nat) (d : Location) (first fs : FileSystem)
    (olds : List FileId) (cur : FileId) : Prop where
  sound : fs.Sound
  here : fs.here = first.here
  lead : fs.Leads w.dir d
  active : fs.find? (d ++ [w.name []]) = some (.file cur)
  fits : Fits w.slashes w.dirs (w.name [])
  backups : ∀ i, i < count → Fits w.slashes w.dirs (w.name (number i)) →
    fs.find? (d ++ [w.name (number i)]) = olds[i]?.map .file
  beyond : ∀ i, count ≤ i →
    fs.find? (d ++ [w.name (number i)]) = first.find? (d ++ [w.name (number i)])
  known : ∀ id ∈ cur :: olds, id < fs.contents.size
  apart : cur ∉ olds
  fitting : olds ≠ [] → ∀ i, i < count → Fits w.slashes w.dirs (w.name (number i))

namespace Window

section
variable {w : LogSite} {count : Nat} {d : Location} {first fs fs' : FileSystem} {olds : List FileId}
  {cur : FileId}

theorem name_ne {mark mark' : Name} (h : mark ≠ mark') : d ++ [w.name mark] ≠ d ++ [w.name mark'] := by
  intro heq
  exact h (name_inj.1 (by simpa using heq))

theorem noDirOrLink (hf : Window w count d first fs olds cur) : fs.NoDirOrLink (d ++ [w.name []]) :=
  fun _ he => ⟨cur, Option.some.inj (he.symm.trans hf.active)⟩

theorem append (hf : Window w count d first fs olds cur) (bytes : ByteArray) :
    Window w count d first (fs.append cur bytes) olds cur where
  sound := hf.sound.append cur bytes
  here := hf.here
  lead := hf.lead.mono rfl fun _ _ h _ => h
  active := hf.active
  fits := hf.fits
  backups := hf.backups
  beyond := hf.beyond
  known id hid := by
    rw [FileSystem.append, Array.size_modify]
    exact hf.known id hid
  apart := hf.apart
  fitting := hf.fitting

theorem read_append_cur (hf : Window w count d first fs olds cur) (bytes : ByteArray) :
    (fs.append cur bytes).read cur = fs.read cur ++ bytes :=
  read_append fs (hf.known cur List.mem_cons_self) bytes

theorem read_append_olds (hf : Window w count d first fs olds cur) (bytes : ByteArray) {id : FileId}
    (hid : id ∈ olds) : (fs.append cur bytes).read id = fs.read id :=
  read_append_of_ne fs (fun h : id = cur => hf.apart (h ▸ hid)) bytes

theorem openAt_ok (hw : w.Literal) (hf : Window w count d first fs olds cur) {o : OpenFile}
    (h : LogFile.openAt fs ((w.absolute fs.here).path []) = (fs', .ok o)) :
    fs' = fs ∧ o = ⟨(w.absolute fs.here).path [], cur⟩ := by
  have hv := hw.valid.absolute (hf.sound.rooted.plain)
  have hlead := (leads_absolute hf.sound.rooted w d).2 hf.lead
  obtain ⟨hpath, hopen⟩ := LogFile.openAt_ok hv hlead h
  obtain ⟨path, id⟩ := o
  obtain ⟨-, ⟨hnone, -⟩ | ⟨hfile, rfl⟩⟩ := LogFile.openAppend_ok hv hlead (fun _ => hf.noDirOrLink) hopen
  · exact absurd (hf.active.symm.trans hnone) (by simp)
  · obtain rfl : cur = id := by simpa using hf.active.symm.trans hfile
    exact ⟨rfl, by rw [← hpath]⟩

/-- A new file is open where none was, with a window of backups that are there already. -/
theorem of_create (hs : fs.Sound) (hhere : fs.here = first.here) (hlead : fs.Leads w.dir d)
    (hnone : fs.find? (d ++ [w.name []]) = none) (hw : w.Valid)
    (hfits : Fits w.slashes w.dirs (w.name []))
    (hbackups : ∀ i, i < count → Fits w.slashes w.dirs (w.name (number i)) →
      fs.find? (d ++ [w.name (number i)]) = olds[i]?.map .file)
    (hbeyond : ∀ i, count ≤ i →
      fs.find? (d ++ [w.name (number i)]) = first.find? (d ++ [w.name (number i)]))
    (hknown : ∀ id ∈ olds, id < fs.contents.size)
    (hfitting : olds ≠ [] → ∀ i, i < count → Fits w.slashes w.dirs (w.name (number i))) :
    Window w count d first (fs.create (d ++ [w.name []])).1 olds fs.contents.size := by
  have hkeep := hs.keeps_create hnone (hs.find?_of_leads hlead)
    (hfits.isPlain (hw.normal List.not_mem_nil) (w.name_noUp []))
  have hfind := find?_create fs (l := d ++ [w.name []]) (by simp)
  have hother : ∀ i, (fs.create (d ++ [w.name []])).1.find? (d ++ [w.name (number i)]) =
      fs.find? (d ++ [w.name (number i)]) := fun i => by
    rw [hfind, if_neg (name_ne (number_ne_nil i))]
  have hsize : (fs.create (d ++ [w.name []])).1.contents.size = fs.contents.size + 1 :=
    Array.size_push _
  refine ⟨hkeep.sound, hkeep.here.trans hhere, hkeep.leads hlead, ?_, hfits, fun i hi hfit => ?_,
    fun i hi => ?_, fun id hid => ?_, fun hmem => ?_, hfitting⟩
  · rw [hfind, if_pos rfl]
  · rw [hother, hbackups i hi hfit]
  · rw [hother, hbeyond i hi]
  · rw [hsize]
    rcases List.mem_cons.1 hid with rfl | hid
    · exact Nat.lt_succ_self _
    · exact Nat.lt_succ_of_lt (hknown id hid)
  · exact Nat.lt_irrefl _ (hknown _ hmem)

theorem start (hw : w.Literal) (hs : fs.Sound) (hlead : fs.Leads w.dir d)
    (hplain : Fits w.slashes w.dirs (w.name []) → fs.NoDirOrLink (d ++ [w.name []]))
    (hfree : ∀ i, i < count → Fits w.slashes w.dirs (w.name (number i)) →
      fs.find? (d ++ [w.name (number i)]) = none) {o : OpenFile}
    (h : LogFile.openAt fs ((w.absolute fs.here).path []) = (fs', .ok o)) :
    o.path = (w.absolute fs.here).path [] ∧ Window w count d fs fs' [] o.id ∧
      fs'.read o.id = match fs.find? (d ++ [w.name []]) with
        | some (.file id) => fs.read id
        | _ => .empty := by
  have hv := hw.valid.absolute (hs.rooted.plain)
  have hlead' := (leads_absolute hs.rooted w d).2 hlead
  obtain ⟨hpath, hopen⟩ := LogFile.openAt_ok hv hlead' h
  obtain ⟨hfitsv, hcase⟩ := LogFile.openAppend_ok hv hlead' (hplain ∘ fits_of_absolute) hopen
  have hfits : Fits w.slashes w.dirs (w.name []) := fits_of_absolute hfitsv
  refine ⟨hpath, ?_⟩
  obtain ⟨hnone, hcreate⟩ | ⟨hfile, rfl⟩ := hcase
  · -- there is no file yet
    have hnone : fs.find? (d ++ [w.name []]) = none := hnone
    have hfs : fs' = (fs.create (d ++ [w.name []])).1 := congrArg Prod.fst hcreate
    have hid : o.id = fs.contents.size := congrArg Prod.snd hcreate
    rw [hfs, hid, hnone]
    exact ⟨of_create hs rfl hlead hnone hw.valid hfits hfree (fun _ _ => rfl) (by simp) (by simp),
      read_create_self fs _⟩
  · -- the file that is there is gone on with
    have hfile : fs'.find? (d ++ [w.name []]) = some (.file o.id) := hfile
    rw [hfile]
    refine ⟨⟨hs, rfl, hlead, hfile, hfits, hfree, fun _ _ => rfl, fun id hmem => ?_,
      List.not_mem_nil, by simp⟩, rfl⟩
    obtain rfl := List.mem_singleton.1 hmem
    exact hs.id_lt hfile

theorem aside_ok (hw : w.Literal) (hf : Window w count d first fs olds cur) {mark : Name}
    (hmark : mark ≠ []) (hslash : '/' ∉ mark)
    (h : fs.rename ((w.absolute fs.here).path []).text ((w.absolute fs.here).path mark).text =
      .ok fs') :
    fs'.Sound ∧ fs'.here = fs.here ∧ fs'.contents = fs.contents ∧
      hasNull ((w.absolute fs.here).path mark).text = false ∧
      (∀ l, fs'.find? l = if l = d ++ [w.name mark] then some (.file cur)
        else if l = d ++ [w.name []] then none else fs.find? l) := by
  have hv := hw.valid.absolute (hf.sound.rooted.plain)
  have hleadv := (leads_absolute hf.sound.rooted w d).2 hf.lead
  have hne : d ++ [w.name []] ≠ d ++ [w.name mark] := name_ne hmark.symm
  have hdir := hf.sound.find?_of_leads hf.lead
  obtain ⟨hfits, hnodir, hfs⟩ := rename_snoc (hv.normal List.not_mem_nil) (w.name_noUp [])
    (hv.normal hslash) (w.name_noUp _) hleadv hleadv (fun heq => hmark (name_inj.1 heq).symm)
    hf.active h
  have hfs : fs' = fs.move (d ++ [w.name []]) (d ++ [w.name mark]) := hfs
  have hplain : IsPlain (w.name mark) := hfits.isPlain (hv.normal hslash) (w.name_noUp _)
  have hnotDir : fs.find? (d ++ [w.name []]) ≠ some .dir := by simp [hf.active]
  rw [hfs]
  refine ⟨?_, rfl, rfl, hfits.noNull, fun l => ?_⟩
  · refine hf.sound.move hnotDir hnodir hne (by simpa using hdir) fun n hn => ?_
    rcases List.mem_append.1 hn with hn | hn
    · exact hf.sound.plain_of_find? hdir n hn
    · obtain rfl := List.mem_singleton.1 hn
      exact hplain
  · rw [hf.sound.find?_move hnotDir (by simp) hne, hf.active]

theorem leads_of_roll {r : Roller} (hw : w.Literal) (hf : Window w count d first fs olds cur)
    (hnames : r.Names w.slashes w.dirs fun i => w.name (number i)) {fs₁ : FileSystem} {mark : Name}
    (hslash : '/' ∉ mark) (hs₁ : fs₁.Sound) (hhere : fs₁.here = fs.here)
    (hfind : ∀ l, fs₁.find? l = if l = d ++ [w.name mark] then some (.file cur)
      else if l = d ++ [w.name []] then none else fs.find? l)
    (h : r.roll fs₁ ((w.absolute fs.here).path mark).text = (fs', none)) : fs₁.Leads w.dir d := by
  obtain ⟨d₁, hd₁⟩ : ∃ d₁, fs₁.Leads w.dir d₁ := by
    rcases Nat.eq_zero_or_pos r.count with hzero | hpos
    · obtain ⟨-, hunlink⟩ | ⟨hpos, -⟩ := Roller.roll_ok h
      · obtain ⟨q, hq, -⟩ := unlink_ok hunlink
        have hv := hw.valid.absolute (hf.sound.rooted.plain)
        obtain ⟨-, d₁, hd₁⟩ := of_reach_snoc (hv.normal hslash) (w.name_noUp _) hq
        rw [← hhere] at hd₁
        exact ⟨d₁, (leads_absolute hs₁.rooted w d₁).1 hd₁⟩
      · omega
    · exact Roller.exists_leads_of_roll hnames hpos h
  -- setting the file aside made no way that was not there before
  have hback : fs.Leads w.dir d₁ := by
    refine hd₁.mono hhere.symm fun l e hl he => ?_
    rw [hfind] at hl
    split at hl
    · exact absurd (Option.some.inj hl).symm (he cur)
    · split at hl
      · simp at hl
      · exact hl
  rwa [hback.unique hf.lead] at hd₁

/-- A window that has been moved on, before a new file is open: the file that was written to is its
first backup, and nothing is at the name of the log file. -/
structure Rolled (w : LogSite) (count : Nat) (d : Location) (fs fs' : FileSystem)
    (olds : List FileId) : Prop where
  sound : fs'.Sound
  here : fs'.here = fs.here
  lead : fs'.Leads w.dir d
  free : fs'.find? (d ++ [w.name []]) = none
  fitting : ∀ i, i < count → Fits w.slashes w.dirs (w.name (number i))
  backups : ∀ i, i < count → fs'.find? (d ++ [w.name (number i)]) = olds[i]?.map .file
  beyond : ∀ i, count ≤ i →
    fs'.find? (d ++ [w.name (number i)]) = fs.find? (d ++ [w.name (number i)])
  size : fs.contents.size ≤ fs'.contents.size
  read : ∀ id, id < fs.contents.size → fs'.read id = fs.read id

/-- The open file is set aside under a name that is no backup's, and rolled into the window. -/
theorem rolled_ok {r : Roller} (hw : w.Literal) (hf : Window w count d first fs olds cur)
    (hcount : r.count = count) (hnames : r.Names w.slashes w.dirs fun i => w.name (number i))
    {mark : Name} (hnil : mark ≠ []) (hslash : '/' ∉ mark) (hnumber : ∀ i, mark ≠ number i)
    {fs₁ : FileSystem}
    (hren : fs.rename ((w.absolute fs.here).path []).text ((w.absolute fs.here).path mark).text =
      .ok fs₁)
    (hroll : r.roll fs₁ ((w.absolute fs.here).path mark).text = (fs', none)) :
    Rolled w count d fs fs' (cur :: olds) := by
  have hv := hw.valid.absolute (hf.sound.rooted.plain)
  obtain ⟨hs₁, hhere₁, hcontents₁, hnull, hfind₁⟩ := hf.aside_ok hw hnil hslash hren
  have hlead₁ := hf.leads_of_roll hw hnames hslash hs₁ hhere₁ hfind₁ hroll
  have hleadv₁ : fs₁.Leads (w.absolute fs.here).dir d := by
    rw [← hhere₁]
    exact (leads_absolute hs₁.rooted w d).2 hlead₁
  -- the backups are where they were: the file left the name of the log file for the one set aside
  have hback₁ : ∀ i, fs₁.find? (d ++ [w.name (number i)]) = fs.find? (d ++ [w.name (number i)]) := by
    intro i
    rw [hfind₁, if_neg (name_ne (hnumber i).symm), if_neg (name_ne (number_ne_nil i))]
  obtain ⟨hfits, hkeep, hzero, hup, -, hframe⟩ := Roller.of_roll hnames hs₁
    (hasNull_number w fs.here hnull) hlead₁ (hv.normal hslash) (w.name_noUp _) hleadv₁
    (fun i heq => hnumber i (name_inj.1 heq)) (by rw [hfind₁]; exact if_pos rfl)
    (fun i hi hfit e he => by
      rw [hback₁, hf.backups i (hcount ▸ hi) hfit] at he
      obtain ⟨id, -, rfl⟩ := Option.map_eq_some_iff.1 he
      exact ⟨id, rfl⟩) hroll
  have hframe : ∀ m, m ≠ d ++ [w.name mark] →
      (∀ i, i < r.count → m ≠ d ++ [w.name (number i)]) → fs'.find? m = fs₁.find? m := hframe
  subst hcount
  refine ⟨hkeep.sound, hkeep.here.trans hhere₁, hkeep.leads hlead₁, ?_, hfits, fun i hi => ?_,
    fun i hi => ?_, hcontents₁ ▸ hkeep.size, fun id hlt => ?_⟩
  · rw [hframe _ (name_ne hnil.symm) fun i _ => name_ne (number_ne_nil i).symm, hfind₁,
      if_neg (name_ne hnil.symm), if_pos rfl]
  · cases i with
    | zero => exact hzero hi
    | succ i =>
      rw [hup i hi, hback₁, hf.backups i (by omega) (hfits i (by omega))]
      rfl
  · -- a roll changes nothing but the numbers of the window
    rw [hframe _ (name_ne (hnumber i).symm) fun j hj => name_ne fun heq => ?_, hback₁]
    have := number_inj heq
    omega
  · rw [hkeep.read id (hcontents₁ ▸ hlt), FileSystem.read, hcontents₁, FileSystem.read]

/-- A rotation moves the window on by one file. The new file is empty, and all others are as they
were. -/
theorem rotate_ok {l : LogFile} (hw : w.Literal) (hf : Window w count d first fs olds cur)
    (hname : l.name = (w.path []).text) (hcount : l.roller.count = count)
    (hnames : l.roller.Names w.slashes w.dirs fun i => w.name (number i)) {o : OpenFile}
    {m : Moment} (h : l.rotate fs m ((w.absolute fs.here).path []) = (fs', .ok o)) :
    o.path = (w.absolute fs.here).path [] ∧ Window w count d first fs' (cur :: olds) o.id ∧
      fs'.read o.id = .empty ∧ ∀ id ∈ cur :: olds, fs'.read id = fs.read id := by
  have hv := hw.valid.absolute (hf.sound.rooted.plain)
  have hpathv : LogFile.path fs m.time l.name = .ok ((w.absolute fs.here).path []) := by
    rw [hname, hw.path_eq hf.sound.rooted]
  obtain ⟨hpath, k, fs₁, fs₂, hren, hroll, hopen⟩ :=
    LogFile.rotate_cases hv ((leads_absolute hf.sound.rooted w d).2 hf.lead) hpathv h
  have hrolled := hf.rolled_ok hw hcount hnames (asideMark_ne_nil _ _)
    (LogFile.slash_notMem_asideMark m.made k) (fun i => asideMark_ne_number _ _ i) hren hroll
  have hleadv : fs₂.Leads (w.absolute fs.here).dir d := by
    rw [← hrolled.here]
    exact (leads_absolute hrolled.sound.rooted w d).2 hrolled.lead
  -- nothing is at the name of the log file, so the file that is opened is a new one
  obtain ⟨-, ⟨-, hcreate⟩ | ⟨hfile, -⟩⟩ := LogFile.openAppend_ok hv hleadv
    (fun _ e he => absurd (hrolled.free.symm.trans he) (by simp)) hopen
  · have hfs : fs' = (fs₂.create (d ++ [w.name []])).1 := congrArg Prod.fst hcreate
    have hid : o.id = fs₂.contents.size := congrArg Prod.snd hcreate
    have hknown : ∀ id ∈ cur :: olds, id < fs₂.contents.size := fun id hmem =>
      Nat.lt_of_lt_of_le (hf.known id hmem) hrolled.size
    rw [hfs, hid]
    refine ⟨hpath, of_create hrolled.sound (hrolled.here.trans hf.here) hrolled.lead hrolled.free
      hw.valid hf.fits (fun i hi _ => hrolled.backups i hi) (fun i hi => ?_) hknown
      (fun _ => hrolled.fitting), read_create_self _ _, fun id hmem => ?_⟩
    · rw [hrolled.beyond i hi, hf.beyond i hi]
    · exact (read_create fs₂ _ (hknown id hmem)).trans (hrolled.read id (hf.known id hmem))
  · exact absurd (hrolled.free.symm.trans hfile) (by simp)

def texts (fs : FileSystem) (olds : List FileId) (cur : FileId) : List ByteArray :=
  (olds.map fs.read).reverse ++ [fs.read cur]

theorem texts_append (hf : Window w count d first fs olds cur) (bytes : ByteArray) :
    texts (fs.append cur bytes) olds cur = (olds.map fs.read).reverse ++ [fs.read cur ++ bytes] := by
  have holds : olds.map (fs.append cur bytes).read = olds.map fs.read :=
    List.map_congr_left fun id hid => hf.read_append_olds bytes hid
  rw [texts, holds, hf.read_append_cur]

/-- A line that is written is added to the open file, or is the first one of a new file. -/
theorem write_ok {l : LogFile} (hw : w.Literal) (hf : Window w count d first fs olds cur)
    (hname : l.name = (w.path []).text) (hcount : l.roller.count = count)
    (hnames : l.roller.Names w.slashes w.dirs fun i => w.name (number i))
    (hfile : l.file = some ⟨(w.absolute fs.here).path [], cur⟩) {line : String}
    (hopen : (l.write fs line).2.file.isSome = true) :
    ∃ olds' cur',
      (l.write fs line).2 = l.next (some ⟨(w.absolute fs.here).path [], cur'⟩) ∧
      Window w count d first (l.write fs line).1 olds' cur' ∧
      texts (l.write fs line).1 olds' cur' =
        if l.isDue fs line then texts fs olds cur ++ [line.toUTF8]
        else (olds.map fs.read).reverse ++ [fs.read cur ++ line.toUTF8] := by
  have hdue : l.isDue fs line = l.isFull fs ⟨(w.absolute fs.here).path [], cur⟩ line := by
    rw [LogFile.isDue, hfile]
  have hfor : l.fileFor fs line = if l.isDue fs line then
      l.rotate fs (l.clock 1) ((w.absolute fs.here).path [])
      else (fs, .ok ⟨(w.absolute fs.here).path [], cur⟩) := by
    rw [LogFile.fileFor, hfile, hdue]
  by_cases h : l.isDue fs line = true
  · simp only [if_pos h] at hfor ⊢
    cases hrot : l.rotate fs (l.clock 1) ((w.absolute fs.here).path []) with
    | mk fs₁ r =>
      cases r with
      -- a rotation that fails leaves no file open
      | error e => simp [LogFile.write, hfor, hrot, LogFile.next] at hopen
      | ok o =>
        obtain ⟨path, id⟩ := o
        have hwrite : l.write fs line =
            (fs₁.append id line.toUTF8, l.next (some ⟨path, id⟩)) := by
          rw [LogFile.write, hfor, hrot]
        obtain ⟨hpath, hf₁, hnew, hread⟩ := hf.rotate_ok hw hname hcount hnames hrot
        have hpath : path = (w.absolute fs.here).path [] := hpath
        rw [hwrite, hpath]
        refine ⟨cur :: olds, id, rfl, hf₁.append _, ?_⟩
        have holds : (cur :: olds).map fs₁.read = (cur :: olds).map fs.read :=
          List.map_congr_left hread
        rw [hf₁.texts_append, holds, hnew, ByteArray.empty_append, List.map_cons, List.reverse_cons,
          texts]
  · simp only [if_neg h] at hfor ⊢
    have hwrite : l.write fs line = (fs.append cur line.toUTF8,
        l.next (some ⟨(w.absolute fs.here).path [], cur⟩)) := by
      rw [LogFile.write, hfor]
    rw [hwrite]
    exact ⟨olds, cur, rfl, hf.append _, hf.texts_append _⟩

end

end Window

end ProfilerBootstrap

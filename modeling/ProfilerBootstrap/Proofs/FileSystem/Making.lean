import ProfilerBootstrap.Proofs.FileSystem.Directory
import ProfilerBootstrap.Proofs.FileSystem.Frame
import ProfilerBootstrap.Proofs.FileSystem.Growth

namespace ProfilerBootstrap.FileSystem

/-- A file system to which nothing but directories has been added. -/
structure Grows (fs fs' : FileSystem) : Prop extends Extends fs fs' where
  added : ∀ l e, fs'.find? l = some e → fs.find? l = some e ∨ e = .dir

def NoDangling (fs : FileSystem) : Prop :=
  ∀ l target, fs.find? l = some (.link target) →
    Settled (walkFrom fs true greatestLinks (origin l.dropLast target) (Path.pieces target))

/-- There is no directory at a path, and there can be none: something else is there or on the way.
-/
structure Barred (fs : FileSystem) (p : Path) : Prop where
  noNull : hasNull p.text = false
  settled : Settled (fs.walk true p.text)
  noDir : fs.isDir p.text = false

section
variable {fs fs' fs'' : FileSystem} {path : String}

theorem Grows.refl (fs : FileSystem) : Grows fs fs := ⟨.refl fs, fun _ _ h => .inl h⟩

theorem Grows.trans (h : Grows fs fs') (h' : Grows fs' fs'') : Grows fs fs'' where
  toExtends := h.toExtends.trans h'.toExtends
  added l e he := (h'.added l e he).elim (h.added l e) .inr

theorem grows_insert {l : Location} (hl : fs.find? l = none) : Grows fs (fs.insert l .dir) := by
  have hne := ne_nil_of_free hl
  refine ⟨⟨rfl, fun m e he => ?_⟩, fun m e he => ?_⟩
  · rw [find?_insert_of_ne_nil fs hne, if_neg, he]
    rintro rfl
    simp [hl] at he
  · rw [find?_insert_of_ne_nil fs hne] at he
    split at he
    · exact .inr (Option.some.inj he).symm
    · exact .inl he

theorem Grows.noDangling (h : Grows fs fs') (hlinks : fs.NoDangling) : fs'.NoDangling := by
  intro l target hl
  have hold := hlinks l target ((h.added l _ hl).resolve_right (by simp))
  rw [h.walkFrom_eq hold]
  exact hold

theorem noDangling_of_no_links (h : ∀ e ∈ fs.entries, ∀ target, e.2 ≠ .link target) :
    fs.NoDangling := by
  intro l target hl
  exact absurd rfl (h _ (mem_of_find? hl (ne_nil_of_find? hl (by simp))) target)

theorem isDir_iff : fs.isDir path = true ↔ ∃ d, fs.reach true path = .ok ⟨d, some .dir⟩ := by
  unfold isDir entryAt
  cases fs.reach true path with
  | error e => simp
  | ok q =>
    obtain ⟨d, e⟩ := q
    simp

theorem exists?_iff : fs.exists? path = true ↔ ∃ d e, fs.reach true path = .ok ⟨d, some e⟩ := by
  unfold exists? entryAt
  cases fs.reach true path with
  | error e => simp
  | ok q =>
    obtain ⟨d, e⟩ := q
    cases e <;> simp

theorem Extends.isDir (h : Extends fs fs') (hdir : fs.isDir path = true) :
    fs'.isDir path = true := by
  obtain ⟨d, hd⟩ := isDir_iff.1 hdir
  exact isDir_iff.2 ⟨d, h.reach_ok hd⟩

theorem Barred.mono {p : Path} (h : Barred fs p) (hgrows : Grows fs fs') : Barred fs' p := by
  have hsame := hgrows.walk_eq h.settled
  refine ⟨h.noNull, hsame ▸ h.settled, ?_⟩
  have hreach : fs'.reach true p.text = fs.reach true p.text := by rw [reach, reach, hsame]
  have hno := h.noDir
  rwa [isDir, entryAt, ← hreach] at hno

end

section
variable {fs fs' : FileSystem} {path : String}

theorem mkdir_grows (h : fs.mkdir path = .ok fs') : Grows fs fs' ∧ fs'.isDir path = true := by
  obtain ⟨l, hreach, rfl⟩ := mkdir_ok h
  obtain ⟨hl, hfill⟩ := reach_free (reach_false_none hreach)
  have hgrows := grows_insert hl
  have hnew : (fs.insert l .dir).find? l = some .dir := by
    simp [find?_insert_of_ne_nil fs (ne_nil_of_free hl)]
  exact ⟨hgrows, isDir_iff.2 ⟨l, hfill _ _ hgrows.toExtends hnew (by simp)⟩⟩

theorem mkdir_refused {r : Refusal} (h : fs.mkdir path = .error (.refused r)) :
    fs.walk false path = .error r.cause ∨
      r.cause = .exists ∧ ∃ l e, fs.walk false path = .ok ⟨l, some e⟩ := by
  unfold mkdir reach at h
  split at h
  · simp [bind, Except.bind] at h
  · cases hwalk : fs.walk false path with
    | error c =>
      obtain rfl : (⟨c, path, none⟩ : Refusal) = r := by simpa [hwalk, bind, Except.bind] using h
      exact .inl rfl
    | ok q =>
      obtain ⟨l, e⟩ := q
      cases e with
      | none => simp [hwalk, bind, Except.bind, pure, Except.pure] at h
      | some e =>
        obtain rfl : (⟨.exists, path, none⟩ : Refusal) = r := by
          simpa [hwalk, bind, Except.bind, refuse] using h
        exact .inr ⟨rfl, l, e, rfl⟩

/-- Where a directory cannot be made, and not for want of its parent, a walk gets to something or is
stopped by something. -/
theorem settled_of_mkdir (hlinks : fs.NoDangling) {r : Refusal}
    (h : fs.mkdir path = .error (.refused r)) (hr : r.cause ≠ .missing) :
    Settled (fs.walk true path) := by
  have hsettled : Settled (fs.walk false path) := by
    obtain hwalk | ⟨-, l, e, hwalk⟩ := mkdir_refused h
    · exact hwalk ▸ settled_error hr
    · exact hwalk ▸ settled_ok l e
  obtain ⟨m, target, -, hm, hmany | ⟨k, hk, hfollow⟩⟩ | hsame := walk_follow fs path
  · rw [hmany]
    exact settled_error (by simp)
  · rw [hfollow]
    exact (hlinks m target hm).of_fewer hk
  · rw [hsame]
    exact hsettled

theorem mkdir_of_settled (hnull : hasNull path = false) (h : Settled (fs.walk true path)) :
    ∃ r, fs.mkdir path = .error (.refused r) ∧ r.cause ≠ .missing := by
  have hsettled : Settled (fs.walk false path) := by
    obtain ⟨m, target, hlink, -⟩ | hsame := walk_follow fs path
    · rw [hlink]
      exact settled_ok m _
    · rw [← hsame]
      exact h
  cases hwalk : fs.walk false path with
  | error c =>
    refine ⟨⟨c, path, none⟩, by simp [mkdir, reach, hnull, hwalk, bind, Except.bind], ?_⟩
    rintro rfl
    exact hsettled.notMissing hwalk
  | ok q =>
    obtain ⟨l, e⟩ := q
    cases e with
    | none => exact absurd hwalk (hsettled.found l)
    | some e =>
      refine ⟨⟨.exists, path, none⟩, ?_, by simp⟩
      simp [mkdir, reach, hnull, hwalk, bind, Except.bind, refuse]

end

theorem makePathFrom_of_error {fs : FileSystem} {p : Path} (n : Nat) {e : Error}
    (h : fs.mkdir p.text = .error e) (he : isMissing e = false) :
    makePathFrom n fs p = fs.forgive p.text e := by
  unfold makePathFrom
  simp [h, he]

/-- Nothing is made at a path to something, or with something in its way; it is refused unless a
directory is there. -/
theorem makePathFrom_of_settled {fs : FileSystem} {p : Path} (n : Nat)
    (hnull : hasNull p.text = false) (h : Settled (fs.walk true p.text)) :
    ∃ r, makePathFrom n fs p = (fs, if fs.isDir p.text then none else some (.refused r)) := by
  obtain ⟨r, hr, hcause⟩ := mkdir_of_settled hnull h
  exact ⟨r, makePathFrom_of_error n hr (by simpa [isMissing] using hcause)⟩

theorem makePathFrom_of_isDir {fs : FileSystem} {p : Path} (n : Nat)
    (h : fs.isDir p.text = true) : makePathFrom n fs p = (fs, none) := by
  obtain ⟨d, hd⟩ := isDir_iff.1 h
  obtain ⟨hnull, hwalk⟩ := reach_eq_ok.1 hd
  obtain ⟨r, hr⟩ := makePathFrom_of_settled n hnull (hwalk ▸ settled_ok d .dir)
  rw [hr, if_pos h]

theorem makePath_of_isDir {fs : FileSystem} {p : Path} (h : fs.isDir p.text = true) :
    fs.makePath p = (fs, none) :=
  makePathFrom_of_isDir _ h

theorem Barred.makePath {fs : FileSystem} {p : Path} (h : Barred fs p) :
    ∃ r, fs.makePath p = (fs, some (.refused r)) := by
  obtain ⟨r, hr⟩ := makePathFrom_of_settled p.names.length h.noNull h.settled
  exact ⟨r, by simp [FileSystem.makePath, hr, h.noDir]⟩

/-- What comes of making a path: directories are added, and then there is one at the path, or there
can be none. -/
structure Makes (fs : FileSystem) (p : Path) (done : Outcome) : Prop where
  grows : Grows fs done.1
  made : done.2 = none → done.1.isDir p.text = true
  barred : fs.NoDangling → ∀ r, done.2 = some (.refused r) → Barred done.1 p

section
variable {fs fs' : FileSystem} {p : Path}

theorem makes_mkdir (h : fs.mkdir p.text = .ok fs') : Makes fs p (fs', none) :=
  ⟨(mkdir_grows h).1, fun _ => (mkdir_grows h).2, by simp⟩

theorem makes_forgive {e : Error} (h : fs.mkdir p.text = .error e)
    (he : isMissing e = false) : Makes fs p (fs.forgive p.text e) := by
  cases e with
  | nullCharacter => exact ⟨.refl fs, by simp [forgive], by simp [forgive]⟩
  | refused r =>
    have hcause : r.cause ≠ .missing := by simpa [isMissing] using he
    have hnull : hasNull p.text = false := by
      rw [← Bool.not_eq_true, ← mkdir_eq_null, h]
      simp
    simp only [forgive]
    by_cases hdir : fs.isDir p.text = true
    · rw [if_pos hdir]
      exact ⟨.refl fs, fun _ => hdir, by simp⟩
    · rw [if_neg hdir]
      refine ⟨.refl fs, by simp, fun hlinks _ _ => ⟨hnull, settled_of_mkdir hlinks h hcause, ?_⟩⟩
      simpa using hdir

theorem Makes.trans {done : Outcome} (h : Makes fs' p done) (hgrows : Grows fs fs') :
    Makes fs p done :=
  ⟨hgrows.trans h.grows, h.made, fun hlinks => h.barred (hgrows.noDangling hlinks)⟩

theorem Barred.of_parent (hp : p.Normal) (hne : p.names ≠ []) (hnull : hasNull p.text = false)
    (h : Barred fs p.parent) : Barred fs p := by
  obtain ⟨s, front, last, hlast, rfl, hparent⟩ := hp.exists_snoc hne
  rw [hparent] at h
  obtain ⟨c, hc, hwalk⟩ : ∃ c, c ≠ .missing ∧
      fs.walk true (Path.text ⟨s, front ++ [last]⟩) = .error c := by
    rw [walk_text hp]
    by_cases hlong : pathLimit ≤ byteLength (Path.chars ⟨s, front ++ [last]⟩)
    · exact ⟨.nameTooLong, by simp, if_pos hlong⟩
    · rw [if_neg hlong]
      have hshort : byteLength (Path.chars ⟨s, front⟩) < pathLimit :=
        Nat.lt_of_le_of_lt (byteLength_parent hlast) (Nat.not_le.1 hlong)
      have hsettled := h.settled
      have hno := h.noDir
      have hfront := walk_text hp.init fs true
      rw [if_neg (Nat.not_le.2 hshort)] at hfront
      rw [hfront] at hsettled
      refine walkFrom_append_settled hsettled (fun d hd => ?_) (by simp)
      have hdir := isDir_iff.2 ⟨d, reach_eq_ok.2 ⟨h.noNull, hfront.trans hd⟩⟩
      simp [hno] at hdir
  refine ⟨hnull, hwalk ▸ settled_error hc, ?_⟩
  simp [isDir, entryAt, reach, hnull, hwalk]

theorem walk_of_isMissing {path : String} {e : Error} (h : fs.mkdir path = .error e)
    (he : isMissing e = true) : fs.walk false path = .error .missing := by
  cases e with
  | nullCharacter => simp [isMissing] at he
  | refused r =>
    have hcause : r.cause = .missing := by simpa [isMissing] using he
    obtain hwalk | ⟨hexists, -⟩ := mkdir_refused h
    · rw [hwalk, hcause]
    · simp [hcause] at hexists

theorem isMissing_eq_false (hp : p.Normal) (hne : p.names ≠ [])
    (hparent : fs.isDir p.parent.text = true) {e : Error} (h : fs.mkdir p.text = .error e) :
    isMissing e = false := by
  obtain ⟨d, hlead⟩ := leads_of_isDir hp.parent hparent
  rw [← Bool.not_eq_true]
  intro hmissing
  have hwalk := walk_of_isMissing h hmissing
  obtain ⟨s, front, last, -, rfl, hfront⟩ := hp.exists_snoc hne
  rw [hfront] at hlead
  obtain ⟨k, hk⟩ := walkFrom_append hlead
  rw [walk_text hp] at hwalk
  split at hwalk
  · simp at hwalk
  · exact walkFrom_single_ne_missing fs k d last ((hk false [last] (by simp)).symm.trans hwalk)

/-- Where there is a directory for it, one is made unless something is in its way. -/
theorem makes_makeLast (hp : p.Normal) (hne : p.names ≠ [])
    (hparent : fs.isDir p.parent.text = true) : Makes fs p (fs.makeLast p.text) := by
  unfold makeLast
  split
  · rename_i fs' h
    exact makes_mkdir h
  · rename_i e h
    have he := isMissing_eq_false hp hne hparent h
    rw [if_neg (by simp [he])]
    exact makes_forgive h he

/-- Where relative paths begin and at the root nothing is missing. -/
theorem names_ne_nil_of_isMissing (hp : p.Normal) {e : Error} (h : fs.mkdir p.text = .error e)
    (he : isMissing e = true) : p.names ≠ [] := by
  intro hnil
  have hwalk := walk_of_isMissing h he
  rw [walk_text hp, hnil] at hwalk
  split at hwalk
  · simp at hwalk
  · simp [walkFrom_arrived (leg.eq_1 fs false _)] at hwalk

theorem makes_makePathFrom (n : Nat) (hn : p.names.length ≤ n) (hp : p.Normal) :
    Makes fs p (makePathFrom n fs p) := by
  induction n generalizing p with
  | zero =>
    unfold makePathFrom
    split
    · rename_i fs' h
      exact makes_mkdir h
    · rename_i e h
      have he : isMissing e = false := by
        rw [← Bool.not_eq_true]
        intro hmissing
        have hne := names_ne_nil_of_isMissing hp h hmissing
        exact hne (List.length_eq_zero_iff.1 (Nat.le_zero.1 hn))
      rw [if_pos (by simp [he])]
      exact makes_forgive h he
  | succ n ih =>
    have hparent : Makes fs p.parent (makePathFrom n fs p.parent) :=
      ih (by simp only [Path.parent, List.length_dropLast]; omega) hp.parent
    unfold makePathFrom
    split
    · rename_i fs' h
      exact makes_mkdir h
    · rename_i e h
      by_cases he : isMissing e = true
      · have hne := names_ne_nil_of_isMissing hp h he
        have hnull : hasNull p.text = false := by
          rw [← Bool.not_eq_true, ← mkdir_eq_null, h]
          rintro ⟨⟩
          simp [isMissing] at he
        rw [if_neg (by simp [he])]
        simp only
        split
        · -- what is in the way of the parent is in the way of the path
          rename_i fs' e' hrec
          rw [hrec] at hparent
          exact ⟨hparent.grows, by simp, fun hlinks r hr =>
            (hparent.barred hlinks r hr).of_parent hp hne hnull⟩
        · rename_i fs' hrec
          rw [hrec] at hparent
          exact (makes_makeLast hp hne (hparent.made rfl)).trans hparent.grows
      · rw [if_pos (by simpa using he)]
        exact makes_forgive h (by simpa using he)

/-- After a path was made there is a directory at it, or something in its way; in any case nothing
but directories has been added. -/
theorem makes_makePath (hp : p.Normal) : Makes fs p (fs.makePath p) :=
  makes_makePathFrom p.names.length (Nat.le_refl _) hp

end

end ProfilerBootstrap.FileSystem

import ProfilerBootstrap.Proofs.FileSystem.Contents
import ProfilerBootstrap.Proofs.FileSystem.Making

namespace ProfilerBootstrap.FileSystem

section
variable {fs fs' : FileSystem} {path : String} {id : FileId}

def LeadsToFile (fs : FileSystem) (path : String) (id : FileId) : Prop :=
  ∃ l, fs.reach true path = .ok ⟨l, some (.file id)⟩

theorem LeadsToFile.id_lt (h : fs.LeadsToFile path id) (hs : fs.Stocked) :
    id < fs.contents.size := by
  obtain ⟨l, hl⟩ := h
  obtain ⟨-, -, -, hwalk⟩ := reach_ok_iff.1 hl
  exact hs.id_lt (walkFrom_entry hwalk (by simp))

theorem LeadsToFile.contentAt (h : fs.LeadsToFile path id) : fs.contentAt path = fs.read id := by
  obtain ⟨l, hl⟩ := h
  rw [FileSystem.contentAt, bytesAt, hl]
  rfl

theorem LeadsToFile.extends (h : fs.LeadsToFile path id) (hext : Extends fs fs') :
    fs'.LeadsToFile path id := by
  obtain ⟨l, hl⟩ := h
  exact ⟨l, hext.reach_ok hl⟩

theorem contentAt_congr {path' : String}
    (h : ∀ q, fs.reach true path = .ok q ↔ fs.reach true path' = .ok q) :
    fs.contentAt path = fs.contentAt path' := by
  unfold contentAt bytesAt
  cases hr : fs.reach true path with
  | ok q =>
    obtain ⟨l, e⟩ := q
    rw [(h _).1 hr]
    match e with
    | none | some .dir | some (.link target) | some (.file id) => rfl
  | error e =>
    cases hr' : fs.reach true path' with
    | ok q => simp [(h q).2 hr'] at hr
    | error e' => rfl

theorem LeadsToFile.openAppend (h : fs.LeadsToFile path id) :
    fs.openAppend path = .ok (fs, id) := by
  obtain ⟨l, hl⟩ := h
  unfold FileSystem.openAppend
  rw [hl]
  rfl

/-- A file that was opened to write at its end can be found by its path afterwards. -/
theorem reach_of_openAppend (h : fs.openAppend path = .ok (fs', id)) :
    Extends fs fs' ∧ fs'.LeadsToFile path id := by
  unfold openAppend at h
  cases hr : fs.reach true path with
  | error e => simp [hr, bind, Except.bind] at h
  | ok q =>
    obtain ⟨l, e⟩ := q
    rw [hr] at h
    match e with
    | none =>
      obtain ⟨hfs, hid⟩ : (fs.create l).1 = fs' ∧ fs.contents.size = id :=
        Prod.mk.inj (Except.ok.inj h)
      obtain ⟨hl, hfill⟩ := reach_free hr
      have hfind := find?_create fs (ne_nil_of_free hl)
      rw [hfs, hid] at hfind
      have hext : Extends fs fs' := by
        refine ⟨by rw [← hfs]; rfl, fun m e he => ?_⟩
        rw [hfind, if_neg, he]
        rintro rfl
        simp [hl] at he
      exact ⟨hext, l, hfill fs' _ hext ((hfind l).trans (if_pos rfl)) (by simp)⟩
    | some (.file id') =>
      obtain ⟨rfl, rfl⟩ := Prod.mk.inj (Except.ok.inj h)
      exact ⟨.refl fs, l, hr⟩
    | some .dir | some (.link target) => simp [bind, Except.bind, refuse] at h

theorem Extends.rooted (h : Extends fs fs') (hr : fs.Rooted) : fs'.Rooted where
  plain := h.here ▸ hr.plain
  here follow := by
    rw [h.here, h.leg_eq (by simp [hr.here]) (by simp [hr.here]), hr.here]

end

section
variable {fs : FileSystem} {p : Path}

theorem isDir_of_leads (hp : p.Normal) {d : Location} (hlead : fs.Leads p d)
    (hnull : hasNull p.text = false) (hshort : byteLength p.chars < pathLimit) :
    fs.isDir p.text = true := by
  refine isDir_iff.2 ⟨d, reach_eq_ok.2 ⟨hnull, ?_⟩⟩
  rw [walk_text hp, if_neg (Nat.not_le.2 hshort)]
  exact hlead

theorem byteLength_of_reach (hp : p.Normal) {follow : Bool} {q : Place}
    (h : fs.reach follow p.text = .ok q) : byteLength p.chars < pathLimit := by
  have hwalk := (reach_eq_ok.1 h).2
  rw [walk_text hp] at hwalk
  split at hwalk
  · simp at hwalk
  · rename_i hlong
    exact Nat.not_le.1 hlong

/-- What a path leads to, be it nothing yet, lies in a directory. -/
theorem isDir_parent_of_reach (hp : p.Normal) (hne : p.names ≠ []) {follow : Bool} {q : Place}
    (h : fs.reach follow p.text = .ok q) : fs.isDir p.parent.text = true := by
  have hno := (reach_eq_ok.1 h).1
  have hnull : hasNull p.parent.text = false := by
    rw [← Bool.not_eq_true] at hno ⊢
    exact fun hparent => hno (hasNull_parent hparent)
  have hshort := byteLength_of_reach hp h
  have hwalk := (reach_eq_ok.1 h).2
  rw [walk_text hp, if_neg (Nat.not_le.2 hshort)] at hwalk
  obtain ⟨s, front, last, hlast, rfl, hparent⟩ := hp.exists_snoc hne
  rw [hparent] at hnull ⊢
  obtain ⟨d, hd⟩ := walkFrom_init (by simp) hwalk
  exact isDir_of_leads hp.init hd hnull (Nat.lt_of_le_of_lt (byteLength_parent hlast) hshort)

theorem isDir_parent (hp : p.Normal) (hne : p.names ≠ []) (h : fs.isDir p.text = true) :
    fs.isDir p.parent.text = true := by
  obtain ⟨_, hreach⟩ := isDir_iff.1 h
  exact isDir_parent_of_reach hp hne hreach

theorem makePathFrom_of_parent_refused {n : Nat} (hp : p.Normal) (hne : p.names ≠ [])
    (hnull : hasNull p.text = false) {r : Refusal}
    (h : makePathFrom n fs p.parent = (fs, some (.refused r))) :
    ∃ r', makePathFrom (n + 1) fs p = (fs, some (.refused r')) := by
  have hnowhere : ∀ follow q, fs.reach follow p.text ≠ .ok q := by
    intro follow q hreach
    simp [makePathFrom_of_isDir n (isDir_parent_of_reach hp hne hreach)] at h
  cases hmk : fs.mkdir p.text with
  | ok fs' =>
    obtain ⟨l, hreach, -⟩ := mkdir_ok hmk
    exact absurd hreach (hnowhere _ _)
  | error e =>
    cases e with
    | nullCharacter => simp [mkdir_eq_null.1 hmk] at hnull
    | refused r' =>
      by_cases he : isMissing (.refused r') = true
      · refine ⟨r, ?_⟩
        unfold makePathFrom
        simp [hmk, he, h]
      · have hdir : ¬ fs.isDir p.text = true := by
          intro hdir
          obtain ⟨d, hreach⟩ := isDir_iff.1 hdir
          exact hnowhere _ _ hreach
        refine ⟨r', ?_⟩
        rw [makePathFrom_of_error _ hmk (by simpa using he), forgive, if_neg hdir]

/-- Where nothing is missing, what was refused is refused again. -/
theorem makePathFrom_again_of_error (n : Nat) {e : Error} (hmk : fs.mkdir p.text = .error e)
    (he : isMissing e = false) {fs' : FileSystem} {r : Refusal}
    (h : makePathFrom n fs p = (fs', some (.refused r))) :
    makePathFrom n fs' p = (fs', some (.refused r)) := by
  have hfs : (makePathFrom n fs p).1 = fs := by
    rw [makePathFrom_of_error n hmk he]
    exact forgive_fst fs p.text e
  obtain rfl : fs' = fs := by rw [← hfs, h]
  exact h

theorem makePathFrom_of_parent (n : Nat) (hp : p.Normal) (hne : p.names ≠ [])
    (hparent : fs.isDir p.parent.text = true) : makePathFrom n fs p = fs.makeLast p.text := by
  cases hmk : fs.mkdir p.text with
  | ok fs' =>
    unfold makePathFrom makeLast
    simp [hmk]
  | error e =>
    have he := isMissing_eq_false hp hne hparent hmk
    rw [makePathFrom_of_error n hmk he, makeLast, hmk]
    simp [he]

/-- A directory that cannot be made cannot be made a second time either, and nothing more is added,
whatever parents of it were made in vain. -/
theorem makePathFrom_again (n : Nat) (hn : p.names.length ≤ n) (hp : p.Normal) {fs' : FileSystem}
    {r : Refusal} (h : makePathFrom n fs p = (fs', some (.refused r))) :
    ∃ r', makePathFrom n fs' p = (fs', some (.refused r')) := by
  -- by the number of parents that may still be asked for, of which there are enough
  induction n generalizing p r with
  | zero =>
    have hnil : p.names = [] := List.length_eq_zero_iff.1 (Nat.le_zero.1 hn)
    cases hmk : fs.mkdir p.text with
    | ok fs₁ => simp [makePathFrom, hmk] at h
    | error e =>
      have he : isMissing e = false := by
        rw [← Bool.not_eq_true]
        exact fun he => names_ne_nil_of_isMissing hp hmk he hnil
      exact ⟨r, makePathFrom_again_of_error 0 hmk he h⟩
  | succ n ih =>
    cases hmk : fs.mkdir p.text with
    | ok fs₁ => simp [makePathFrom, hmk] at h
    | error e =>
      by_cases he : isMissing e = true
      · have hne := names_ne_nil_of_isMissing hp hmk he
        have hn' : p.parent.names.length ≤ n := by
          simp only [Path.parent, List.length_dropLast]
          omega
        have hnull : hasNull p.text = false := by
          rw [← Bool.not_eq_true, ← mkdir_eq_null, hmk]
          rintro ⟨⟩
          simp [isMissing] at he
        have hmakes := @makes_makePathFrom fs _ n hn' hp.parent
        unfold makePathFrom at h
        simp only [hmk, he, Bool.not_true, Bool.false_eq_true, if_false] at h
        split at h
        · -- the parent could not be made, and cannot be made again
          rename_i fs₁ e₁ hrec
          obtain ⟨rfl, rfl⟩ := by simpa using h
          obtain ⟨r', hr'⟩ := ih hn' hp.parent hrec
          exact makePathFrom_of_parent_refused hp hne hnull hr'
        · -- the parent was made, and there is something else in the way
          rename_i fs₁ hrec
          rw [hrec] at hmakes
          have hparent := hmakes.made rfl
          rw [← makePathFrom_of_parent (n + 1) hp hne hparent] at h
          cases hmk₁ : fs₁.mkdir p.text with
          | ok fs₂ => simp [makePathFrom, hmk₁] at h
          | error e₁ =>
            have he₁ := isMissing_eq_false hp hne hparent hmk₁
            exact ⟨r, makePathFrom_again_of_error (n + 1) hmk₁ he₁ h⟩
      · exact ⟨r, makePathFrom_again_of_error (n + 1) hmk (by simpa using he) h⟩

theorem makePath_again (hp : p.Normal) {fs' : FileSystem} {r : Refusal}
    (h : fs.makePath p = (fs', some (.refused r))) :
    ∃ r', fs'.makePath p = (fs', some (.refused r')) :=
  makePathFrom_again _ (Nat.le_refl _) hp h

theorem makeLast_of_isDir (h : fs.isDir p.text = true) :
    (match fs.mkdir p.text with
      | .ok fs => (fs, none)
      | .error e => fs.forgive p.text e) = (fs, none) := by
  obtain ⟨d, hd⟩ := isDir_iff.1 h
  obtain ⟨hnull, hwalk⟩ := reach_eq_ok.1 hd
  obtain ⟨r, hr, -⟩ := mkdir_of_settled hnull (hwalk ▸ settled_ok d .dir)
  rw [hr]
  simp [forgive, h]

theorem makeDirs_of_isDir (hp : p.Normal) (h : fs.isDir p.text = true) :
    fs.makeDirs p = (fs, none) := by
  have hlast := makeLast_of_isDir h
  unfold makeDirs
  generalize p.names.length = n
  cases n with
  | zero => exact hlast
  | succ n =>
    rw [makeDirsFrom, if_pos]
    · exact hlast
    · by_cases hne : p.names = []
      · exact .inl (by simp [Path.parent, hne])
      · obtain ⟨d', hd'⟩ := isDir_iff.1 (isDir_parent hp hne h)
        exact .inr (exists?_iff.2 ⟨d', _, hd'⟩)

end

end ProfilerBootstrap.FileSystem

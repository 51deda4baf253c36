import ProfilerBootstrap.Proofs.FileSystem.Operation
import ProfilerBootstrap.Proofs.FileSystem.Reach

namespace ProfilerBootstrap.FileSystem

/-- A file system that has all the entries of another one. -/
structure Extends (fs fs' : FileSystem) : Prop where
  here : fs'.here = fs.here
  kept : ∀ l e, fs.find? l = some e → fs'.find? l = some e

/-- A walk that did not end for want of something: it got to an entry or was stopped by one, or by a
limit. -/
structure Settled (r : Except Cause Place) : Prop where
  notMissing : r ≠ .error .missing
  found : ∀ l, r ≠ .ok ⟨l, none⟩

theorem settled_error {c : Cause} (hc : c ≠ .missing) : Settled (.error c) :=
  ⟨fun h => hc (Except.error.inj h), fun _ h => by simp at h⟩

theorem settled_ok (l : Location) (e : Entry) : Settled (.ok ⟨l, some e⟩) :=
  ⟨fun h => by simp at h, fun _ h => by simp at h⟩

section
variable {fs fs' fs'' : FileSystem}

theorem Extends.refl (fs : FileSystem) : Extends fs fs := ⟨rfl, fun _ _ h => h⟩

theorem Extends.trans (h : Extends fs fs') (h' : Extends fs' fs'') : Extends fs fs'' where
  here := h'.here.trans h.here
  kept l e he := h'.kept l e (h.kept l e he)

theorem extends_append (fs : FileSystem) (id : FileId) (bytes : ByteArray) :
    Extends fs (fs.append id bytes) :=
  ⟨rfl, fun _ _ h => h⟩

/-- A way that has got to an entry, or is stopped by one, goes the same afterwards. -/
theorem Extends.leg_eq (h : Extends fs fs') {follow : Bool} {l : Location} {ns : List Name}
    (hmissing : leg fs follow l ns ≠ .refused .missing)
    (hfound : ∀ m, leg fs follow l ns ≠ .arrived ⟨m, none⟩) :
    leg fs' follow l ns = leg fs follow l ns := by
  induction l, ns using leg_induction fs with
  | nil l => rfl
  | skip l n ns hn ih =>
    rw [leg_of_not_isName hn] at hmissing hfound ⊢
    rw [leg_of_not_isName hn, ih hmissing hfound]
  | up l ns ih =>
    rw [leg_up] at hmissing hfound ⊢
    rw [leg_up, ih hmissing hfound]
  | long l n ns hn hup hs => rw [leg_long hn hup hs, leg_long hn hup hs]
  | enter l n ns hn hup hs hf ih =>
    rw [leg_cons hn hup hs, hf] at hmissing hfound
    rw [leg_cons hn hup hs, leg_cons hn hup hs, h.kept _ _ hf, hf]
    exact ih hmissing hfound
  | stop l n ns hn hup hs hf =>
    rw [leg_cons hn hup hs] at hmissing hfound
    rw [leg_cons hn hup hs, leg_cons hn hup hs]
    cases he : fs.find? (l ++ [n]) with
    | none =>
      -- here the way ends for want of an entry
      rw [he] at hmissing hfound
      by_cases hns : ns = []
      · exact absurd (if_pos hns) (hfound (l ++ [n]))
      · exact absurd (if_neg hns) hmissing
    | some e =>
      rw [h.kept _ _ he]
      cases e with
      | dir => exact absurd he hf
      | file id => rfl
      | link target => rfl

theorem Extends.walkFrom_eq (h : Extends fs fs') {follow : Bool} {k : Nat} {l : Location}
    {ns : List Name} (hs : Settled (walkFrom fs follow k l ns)) :
    walkFrom fs' follow k l ns = walkFrom fs follow k l ns := by
  induction k generalizing l ns with
  | zero =>
    have hleg : leg fs' follow l ns = leg fs follow l ns :=
      h.leg_eq (fun hleg => hs.notMissing (walkFrom_refused hleg 0))
        fun m hleg => hs.found m (walkFrom_arrived hleg 0)
    rw [walkFrom, walkFrom, hleg]
  | succ k ih =>
    have hleg : leg fs' follow l ns = leg fs follow l ns :=
      h.leg_eq (fun hleg => hs.notMissing (walkFrom_refused hleg (k + 1)))
        fun m hleg => hs.found m (walkFrom_arrived hleg (k + 1))
    cases hl : leg fs follow l ns with
    | arrived p => rw [walkFrom_arrived hl, walkFrom_arrived (hleg.trans hl)]
    | refused c => rw [walkFrom_refused hl, walkFrom_refused (hleg.trans hl)]
    | link l' target rest =>
      rw [walkFrom_succ_link hl] at hs ⊢
      rw [walkFrom_succ_link (hleg.trans hl), ih hs]

theorem Extends.walk_eq (h : Extends fs fs') {follow : Bool} {path : String}
    (hs : Settled (fs.walk follow path)) : fs'.walk follow path = fs.walk follow path := by
  unfold walk at hs ⊢
  dsimp only at hs ⊢
  split
  · rfl
  · rename_i hne
    rw [if_neg hne] at hs
    split
    · rfl
    · rename_i hlen
      rw [if_neg hlen] at hs
      rw [h.here, h.walkFrom_eq hs]

/-- A path gets somewhere if it is a text that paths can have and the walk along its pieces does. -/
theorem reach_ok_iff {follow : Bool} {path : String} {q : Place} :
    fs.reach follow path = .ok q ↔
      hasNull path = false ∧ path.toList ≠ [] ∧ byteLength path.toList < pathLimit ∧
        walkFrom fs follow greatestLinks (origin fs.here path.toList)
          (Path.pieces path.toList) = .ok q := by
  rw [reach_eq_ok, walk]
  by_cases hnil : path.toList = []
  · simp [hnil]
  · by_cases hlen : pathLimit ≤ byteLength path.toList
    · simp [hnil, hlen, Nat.not_lt.2 hlen]
    · simp [hnil, hlen, Nat.not_le.1 hlen]

theorem Extends.reach_ok (h : Extends fs fs') {follow : Bool} {path : String} {l : Location}
    {e : Entry} (hr : fs.reach follow path = .ok ⟨l, some e⟩) :
    fs'.reach follow path = .ok ⟨l, some e⟩ := by
  obtain ⟨hnull, hwalk⟩ := reach_eq_ok.1 hr
  exact reach_eq_ok.2 ⟨hnull, (h.walk_eq (hwalk ▸ settled_ok l e)).trans hwalk⟩

/-- A path that leads to nothing leads to a free place, and to what is put there afterwards. -/
theorem reach_free {follow : Bool} {path : String} {m : Location}
    (h : fs.reach follow path = .ok ⟨m, none⟩) :
    fs.find? m = none ∧ ∀ fs' e, Extends fs fs' → fs'.find? m = some e →
      (∀ target, e ≠ .link target) → fs'.reach follow path = .ok ⟨m, some e⟩ := by
  obtain ⟨hnull, hne, hlen, hwalk⟩ := reach_ok_iff.1 h
  refine ⟨walkFrom_entry hwalk (by simp), fun fs' e hext hm' he => ?_⟩
  have hfill := walkFrom_kept hwalk (by simp) (by simp) (fun k e hk _ => hext.kept k e hk)
    (by simpa [hm'] using he)
  rw [reach_ok_iff, hext.here]
  exact ⟨hnull, hne, hlen, hm' ▸ hfill⟩

theorem reach_false_none {path : String} {m : Location}
    (h : fs.reach false path = .ok ⟨m, none⟩) : fs.reach true path = .ok ⟨m, none⟩ := by
  obtain ⟨hnull, hne, hlen, hwalk⟩ := reach_ok_iff.1 h
  exact reach_ok_iff.2 ⟨hnull, hne, hlen, walkFrom_false_none hwalk⟩

end

section
variable {fs : FileSystem}

theorem leg_false_link {l m : Location} {ns : List Name} {target : List Char}
    (h : leg fs false l ns = .arrived ⟨m, some (.link target)⟩) :
    fs.find? m = some (.link target) ∧ leg fs true l ns = .link m.dropLast target [] := by
  induction l, ns using leg_induction fs with
  | nil l => simp [leg] at h
  | skip l n ns hn ih =>
    rw [leg_of_not_isName hn] at h ⊢
    exact ih h
  | up l ns ih =>
    rw [leg_up] at h ⊢
    exact ih h
  | long l n ns hn hup hs => simp [leg_long hn hup hs] at h
  | enter l n ns hn hup hs hf ih =>
    rw [leg_cons hn hup hs, hf] at h
    rw [leg_cons hn hup hs, hf]
    exact ih h
  | stop l n ns hn hup hs hf =>
    rw [leg_cons hn hup hs] at h
    rw [leg_cons hn hup hs]
    cases he : fs.find? (l ++ [n]) with
    | none => by_cases hns : ns = [] <;> simp [he, hns] at h
    | some e =>
      cases e with
      | dir => exact absurd he hf
      | file id => by_cases hns : ns = [] <;> simp [he, hns] at h
      | link target' =>
        by_cases hns : ns = []
        · obtain ⟨rfl, rfl⟩ : l ++ [n] = m ∧ target' = target := by simpa [he, hns] using h
          simp [he, hns]
        · simp [he, hns] at h

/-- A walk that may not follow a link at the end stops at the link, where one that may goes on from
the directory of the link; where no link is at the end, both are the same. -/
theorem walkFrom_follow (fs : FileSystem) (k : Nat) (l : Location) (ns : List Name) :
    (∃ m target, walkFrom fs false k l ns = .ok ⟨m, some (.link target)⟩ ∧
        fs.find? m = some (.link target) ∧
        (walkFrom fs true k l ns = .error .tooManyLinks ∨ ∃ k' ≤ k, walkFrom fs true k l ns =
          walkFrom fs true k' (origin m.dropLast target) (Path.pieces target))) ∨
      walkFrom fs true k l ns = walkFrom fs false k l ns := by
  induction k generalizing l ns with
  | zero =>
    by_cases hend : ∃ m target, leg fs false l ns = .arrived ⟨m, some (.link target)⟩
    · obtain ⟨m, target, hleg⟩ := hend
      obtain ⟨hm, hfollow⟩ := leg_false_link hleg
      exact .inl ⟨m, target, walkFrom_arrived hleg 0, hm, .inl (walkFrom_zero_link hfollow)⟩
    · have hfollow := leg_follow fun m target h => hend ⟨m, target, h⟩
      refine .inr ?_
      rw [walkFrom, walkFrom, hfollow]
  | succ k ih =>
    by_cases hend : ∃ m target, leg fs false l ns = .arrived ⟨m, some (.link target)⟩
    · obtain ⟨m, target, hleg⟩ := hend
      obtain ⟨hm, hfollow⟩ := leg_false_link hleg
      refine .inl ⟨m, target, walkFrom_arrived hleg _, hm, .inr ⟨k, Nat.le_succ k, ?_⟩⟩
      rw [walkFrom_succ_link hfollow, List.append_nil]
    · -- no link is at the end of the first stretch, so both follow what is on the way
      have hfollow := leg_follow fun m target h => hend ⟨m, target, h⟩
      cases hleg : leg fs false l ns with
      | arrived p =>
        exact .inr ((walkFrom_arrived (hfollow.trans hleg) _).trans (walkFrom_arrived hleg _).symm)
      | refused c =>
        exact .inr ((walkFrom_refused (hfollow.trans hleg) _).trans (walkFrom_refused hleg _).symm)
      | link l' target rest =>
        rw [walkFrom_succ_link hleg, walkFrom_succ_link (hfollow.trans hleg)]
        refine (ih _ _).imp_left ?_
        rintro ⟨m, target', hwalk, hm, hlink⟩
        refine ⟨m, target', hwalk, hm, hlink.imp_right ?_⟩
        rintro ⟨k', hk', h⟩
        exact ⟨k', Nat.le_succ_of_le hk', h⟩

/-- With one link less to follow a walk is the same, or ends for that. -/
theorem walkFrom_fewer (fs : FileSystem) (follow : Bool) (k : Nat) (l : Location) (ns : List Name) :
    walkFrom fs follow k l ns = .error .tooManyLinks ∨
      walkFrom fs follow (k + 1) l ns = walkFrom fs follow k l ns := by
  induction k generalizing l ns with
  | zero =>
    cases hleg : leg fs follow l ns with
    | arrived p => exact .inr (by rw [walkFrom_arrived hleg, walkFrom_arrived hleg])
    | refused c => exact .inr (by rw [walkFrom_refused hleg, walkFrom_refused hleg])
    | link l' target rest => exact .inl (walkFrom_zero_link hleg)
  | succ k ih =>
    cases hleg : leg fs follow l ns with
    | arrived p => exact .inr (by rw [walkFrom_arrived hleg, walkFrom_arrived hleg])
    | refused c => exact .inr (by rw [walkFrom_refused hleg, walkFrom_refused hleg])
    | link l' target rest =>
      rw [walkFrom_succ_link hleg, walkFrom_succ_link hleg]
      exact ih _ _

theorem Settled.of_fewer {follow : Bool} {j k : Nat} (hjk : j ≤ k) {l : Location} {ns : List Name}
    (h : Settled (walkFrom fs follow k l ns)) : Settled (walkFrom fs follow j l ns) := by
  induction hjk with
  | refl => exact h
  | step _ ih =>
    apply ih
    obtain hmany | hsame := walkFrom_fewer fs follow _ l ns
    · rw [hmany]
      exact settled_error (by simp)
    · exact hsame ▸ h

theorem walk_follow (fs : FileSystem) (path : String) :
    (∃ m target, fs.walk false path = .ok ⟨m, some (.link target)⟩ ∧
        fs.find? m = some (.link target) ∧
        (fs.walk true path = .error .tooManyLinks ∨ ∃ k ≤ greatestLinks, fs.walk true path =
          walkFrom fs true k (origin m.dropLast target) (Path.pieces target))) ∨
      fs.walk true path = fs.walk false path := by
  unfold walk
  dsimp only
  split
  · exact .inr rfl
  · split
    · exact .inr rfl
    · exact walkFrom_follow fs greatestLinks _ _

theorem leg_single (fs : FileSystem) (d : Location) (n : Name) :
    (∃ q, leg fs false d [n] = .arrived q) ∨ leg fs false d [n] = .refused .nameTooLong := by
  by_cases hn : Path.isName n = true
  · by_cases hup : n = ['.', '.']
    · subst hup
      exact .inl ⟨_, leg_up fs false d []⟩
    · by_cases hs : byteLength n ≤ greatestName
      · rw [leg_cons hn hup hs]
        match fs.find? (d ++ [n]) with
        | none | some .dir | some (.file id) | some (.link target) => exact .inl ⟨_, rfl⟩
      · exact .inr (leg_long hn hup (Nat.lt_of_not_le hs) fs false d [])
  · exact .inl ⟨_, leg_of_not_isName (by simpa using hn) fs false d []⟩

theorem walkFrom_single_ne_missing (fs : FileSystem) (k : Nat) (d : Location) (n : Name) :
    walkFrom fs false k d [n] ≠ .error .missing := by
  obtain ⟨q, hleg⟩ | hleg := leg_single fs d n
  · simp [walkFrom_arrived hleg]
  · simp [walkFrom_refused hleg]

theorem leg_append_settled {l : Location} {ns ms : List Name} {follow : Bool} (hms : ms ≠ [])
    (hmissing : leg fs true l ns ≠ .refused .missing)
    (hfree : ∀ d, leg fs true l ns ≠ .arrived ⟨d, none⟩)
    (hdir : ∀ d, leg fs true l ns ≠ .arrived ⟨d, some .dir⟩) :
    (∃ l' target rest, leg fs true l ns = .link l' target rest) ∨
      ∃ c, c ≠ .missing ∧ leg fs follow l (ns ++ ms) = .refused c := by
  rw [leg_append fs follow l ns hms]
  cases hleg : leg fs true l ns with
  | arrived q =>
    obtain ⟨d, e⟩ := q
    match e with
    | none => exact absurd hleg (hfree d)
    | some .dir => exact absurd hleg (hdir d)
    | some (.file id) | some (.link target) => exact .inr ⟨.notDirectory, by simp, rfl⟩
  | refused c => exact .inr ⟨c, fun hc => hmissing (hc ▸ hleg), rfl⟩
  | link l' target rest => exact .inl ⟨l', target, rest, rfl⟩

/-- What leads to no directory, though not for want of one, does not lead any further either. -/
theorem walkFrom_append_settled {k : Nat} {l : Location} {ns ms : List Name} {follow : Bool}
    (h : Settled (walkFrom fs true k l ns))
    (hdir : ∀ d, walkFrom fs true k l ns ≠ .ok ⟨d, some .dir⟩) (hms : ms ≠ []) :
    ∃ c, c ≠ .missing ∧ walkFrom fs follow k l (ns ++ ms) = .error c := by
  have hcases : ∀ (k : Nat) (l : Location) (ns : List Name), Settled (walkFrom fs true k l ns) →
      (∀ d, walkFrom fs true k l ns ≠ .ok ⟨d, some .dir⟩) →
      (∃ l' target rest, leg fs true l ns = .link l' target rest) ∨
        ∃ c, c ≠ .missing ∧ leg fs follow l (ns ++ ms) = .refused c := fun k l ns h hdir =>
    leg_append_settled hms (fun hleg => h.notMissing (walkFrom_refused hleg k))
      (fun d hleg => h.found d (walkFrom_arrived hleg k))
      (fun d hleg => hdir d (walkFrom_arrived hleg k))
  induction k generalizing l ns with
  | zero =>
    obtain ⟨l', target, rest, hleg⟩ | ⟨c, hc, hleg⟩ := hcases _ _ _ h hdir
    · have happ : leg fs follow l (ns ++ ms) = .link l' target (rest ++ ms) := by
        rw [leg_append _ _ _ _ hms, hleg]
      exact ⟨.tooManyLinks, by simp, walkFrom_zero_link happ⟩
    · exact ⟨c, hc, walkFrom_refused hleg _⟩
  | succ k ih =>
    obtain ⟨l', target, rest, hleg⟩ | ⟨c, hc, hleg⟩ := hcases _ _ _ h hdir
    · have happ : leg fs follow l (ns ++ ms) = .link l' target (rest ++ ms) := by
        rw [leg_append _ _ _ _ hms, hleg]
      -- the names that come after are put behind what is left of the link
      rw [walkFrom_succ_link hleg] at h hdir
      rw [walkFrom_succ_link happ, ← List.append_assoc]
      exact ih h hdir
    · exact ⟨c, hc, walkFrom_refused hleg _⟩

end

end ProfilerBootstrap.FileSystem

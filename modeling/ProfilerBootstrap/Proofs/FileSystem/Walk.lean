import ProfilerBootstrap.FileSystem.Walk
import ProfilerBootstrap.Proofs.Path

namespace ProfilerBootstrap.FileSystem

theorem leg_of_not_isName {n : Name} (h : Path.isName n = false) (fs : FileSystem) (follow : Bool)
    (l : Location) (rest : List Name) : leg fs follow l (n :: rest) = leg fs follow l rest := by
  rw [leg, if_pos (by simp [h])]

theorem leg_up (fs : FileSystem) (follow : Bool) (l : Location) (rest : List Name) :
    leg fs follow l (['.', '.'] :: rest) = leg fs follow l.dropLast rest := by
  rw [leg, if_neg (by decide), if_pos rfl]

/-- A name that a directory can hold. -/
structure IsPlain (n : Name) : Prop where
  name : Path.isName n = true
  noUp : n ≠ ['.', '.']
  noSlash : '/' ∉ n
  noNull : '\x00' ∉ n
  short : byteLength n ≤ greatestName

instance : DecidablePred IsPlain := fun n => decidable_of_iff
  (Path.isName n = true ∧ n ≠ ['.', '.'] ∧ '/' ∉ n ∧ '\x00' ∉ n ∧ byteLength n ≤ greatestName)
  ⟨fun ⟨hname, hup, hslash, hnull, hshort⟩ => ⟨hname, hup, hslash, hnull, hshort⟩,
    fun h => ⟨h.name, h.noUp, h.noSlash, h.noNull, h.short⟩⟩

theorem leg_cons {n : Name} (hn : Path.isName n = true) (hup : n ≠ ['.', '.'])
    (hs : byteLength n ≤ greatestName) (fs : FileSystem) (follow : Bool) (l : Location)
    (rest : List Name) :
    leg fs follow l (n :: rest) = match fs.find? (l ++ [n]) with
      | none => if rest = [] then .arrived ⟨l ++ [n], none⟩ else .refused .missing
      | some .dir => leg fs follow (l ++ [n]) rest
      | some (.file id) =>
        if rest = [] then .arrived ⟨l ++ [n], some (.file id)⟩ else .refused .notDirectory
      | some (.link target) =>
        if rest = [] && !follow then .arrived ⟨l ++ [n], some (.link target)⟩
        else .link l target rest := by
  rw [leg, if_neg (by simp [hn]), if_neg hup]
  exact if_neg (Nat.not_lt.2 hs)

theorem leg_long {n : Name} (hn : Path.isName n = true) (hup : n ≠ ['.', '.'])
    (hs : greatestName < byteLength n) (fs : FileSystem) (follow : Bool) (l : Location)
    (rest : List Name) : leg fs follow l (n :: rest) = .refused .nameTooLong := by
  rw [leg, if_neg (by simp [hn]), if_neg hup, if_pos hs]

/-- What is proved of a way name by name: the name is none at all, leads up, is too long, or is
looked up in the directory that the way has got to. -/
@[elab_as_elim]
theorem leg_induction (fs : FileSystem) {motive : Location → List Name → Prop}
    (nil : ∀ l, motive l [])
    (skip : ∀ l n ns, Path.isName n = false → motive l ns → motive l (n :: ns))
    (up : ∀ l ns, motive l.dropLast ns → motive l (['.', '.'] :: ns))
    (long : ∀ l n ns, Path.isName n = true → n ≠ ['.', '.'] → greatestName < byteLength n →
      motive l (n :: ns))
    (enter : ∀ l n ns, Path.isName n = true → n ≠ ['.', '.'] → byteLength n ≤ greatestName →
      fs.find? (l ++ [n]) = some .dir → motive (l ++ [n]) ns → motive l (n :: ns))
    (stop : ∀ l n ns, Path.isName n = true → n ≠ ['.', '.'] → byteLength n ≤ greatestName →
      fs.find? (l ++ [n]) ≠ some .dir → motive l (n :: ns))
    (l : Location) (ns : List Name) : motive l ns := by
  induction ns generalizing l with
  | nil => exact nil l
  | cons n ns ih =>
    by_cases hn : Path.isName n = true
    · by_cases hup : n = ['.', '.']
      · subst hup
        exact up l ns (ih _)
      · by_cases hs : byteLength n ≤ greatestName
        · by_cases hf : fs.find? (l ++ [n]) = some .dir
          · exact enter l n ns hn hup hs hf (ih _)
          · exact stop l n ns hn hup hs hf
        · exact long l n ns hn hup (Nat.lt_of_not_le hs)
    · exact skip l n ns (by simpa using hn) (ih l)

theorem leg_append (fs : FileSystem) (follow : Bool) (l : Location) (ns : List Name)
    {ms : List Name} (hms : ms ≠ []) :
    leg fs follow l (ns ++ ms) = match leg fs true l ns with
      | .arrived ⟨d, some .dir⟩ => leg fs follow d ms
      | .arrived ⟨_, none⟩ => .refused .missing
      | .arrived ⟨_, some _⟩ => .refused .notDirectory
      | .refused c => .refused c
      | .link l' target rest => .link l' target (rest ++ ms) := by
  induction l, ns using leg_induction fs with
  | nil l => rfl
  | skip l n ns hn ih => rw [List.cons_append, leg_of_not_isName hn, leg_of_not_isName hn, ih]
  | up l ns ih => rw [List.cons_append, leg_up, leg_up, ih]
  | long l n ns hn hup hs => rw [List.cons_append, leg_long hn hup hs, leg_long hn hup hs]
  | enter l n ns hn hup hs hf ih =>
    rw [List.cons_append, leg_cons hn hup hs, leg_cons hn hup hs, hf]
    exact ih
  | stop l n ns hn hup hs hf =>
    rw [List.cons_append, leg_cons hn hup hs, leg_cons hn hup hs]
    -- whether the names come to an end here matters before the others are added, but not after
    cases he : fs.find? (l ++ [n]) with
    | none => by_cases hns : ns = [] <;> simp [hns, hms]
    | some e =>
      cases e with
      | dir => exact absurd he hf
      | file id => by_cases hns : ns = [] <;> simp [hns, hms]
      | link target => simp [hms]

/-- What cannot be gone through is met before the names that come after it. -/
theorem leg_append_cases (fs : FileSystem) (follow : Bool) (l : Location) (ns : List Name)
    {ms : List Name} (hms : ms ≠ []) :
    (∃ d, leg fs true l ns = .arrived ⟨d, some .dir⟩) ∨
      (∃ l' target rest, leg fs true l ns = .link l' target rest) ∨
      ∃ c, leg fs follow l (ns ++ ms) = .refused c := by
  rw [leg_append fs follow l ns hms]
  cases leg fs true l ns with
  | arrived p =>
    obtain ⟨d, e⟩ := p
    cases e with
    | none => exact .inr (.inr ⟨_, rfl⟩)
    | some e =>
      cases e with
      | dir => exact .inl ⟨d, rfl⟩
      | link target => exact .inr (.inr ⟨_, rfl⟩)
      | file id => exact .inr (.inr ⟨_, rfl⟩)
  | refused c => exact .inr (.inr ⟨_, rfl⟩)
  | link l' target rest => exact .inr (.inl ⟨l', target, rest, rfl⟩)

theorem walkFrom_arrived {fs : FileSystem} {follow : Bool} {l : Location} {ns : List Name}
    {p : Place} (h : leg fs follow l ns = .arrived p) (k : Nat) :
    walkFrom fs follow k l ns = .ok p := by
  cases k <;> rw [walkFrom, h]

theorem walkFrom_refused {fs : FileSystem} {follow : Bool} {l : Location} {ns : List Name}
    {c : Cause} (h : leg fs follow l ns = .refused c) (k : Nat) :
    walkFrom fs follow k l ns = .error c := by
  cases k <;> rw [walkFrom, h]

theorem walkFrom_zero_link {fs : FileSystem} {follow : Bool} {l l' : Location} {ns rest : List Name}
    {target : List Char} (h : leg fs follow l ns = .link l' target rest) :
    walkFrom fs follow 0 l ns = .error .tooManyLinks := by
  rw [walkFrom, h]

theorem walkFrom_succ_link {fs : FileSystem} {follow : Bool} {l l' : Location} {ns rest : List Name}
    {target : List Char} (h : leg fs follow l ns = .link l' target rest) (k : Nat) :
    walkFrom fs follow (k + 1) l ns =
      walkFrom fs follow k (origin l' target) (Path.pieces target ++ rest) := by
  rw [walkFrom, h]

theorem walkFrom_congr {fs : FileSystem} {follow : Bool} {l l' : Location} {ns ns' : List Name}
    (h : leg fs follow l ns = leg fs follow l' ns') (k : Nat) :
    walkFrom fs follow k l ns = walkFrom fs follow k l' ns' := by
  cases k <;> rw [walkFrom, walkFrom, h]

/-- What is proved of a walk that gets somewhere: it does without links, or follows one and gets
there from the place that the link leads to. -/
@[elab_as_elim]
theorem walkFrom_ok_induction {fs : FileSystem} {follow : Bool} {p : Place}
    {motive : ∀ k l ns, walkFrom fs follow k l ns = .ok p → Prop}
    (arrived : ∀ k l ns (hleg : leg fs follow l ns = .arrived p),
      motive k l ns (walkFrom_arrived hleg k))
    (link : ∀ k l ns l' target rest (hleg : leg fs follow l ns = .link l' target rest)
      (h : walkFrom fs follow k (origin l' target) (Path.pieces target ++ rest) = .ok p),
      motive k _ _ h → motive (k + 1) l ns ((walkFrom_succ_link hleg k).trans h))
    {k : Nat} {l : Location} {ns : List Name} (h : walkFrom fs follow k l ns = .ok p) :
    motive k l ns h := by
  -- by the number of links that may still be followed
  induction k generalizing l ns with
  | zero =>
    cases hleg : leg fs follow l ns with
    | arrived q =>
      obtain rfl : q = p := by simpa [walkFrom_arrived hleg] using h
      exact arrived 0 l ns hleg
    | refused c => simp [walkFrom_refused hleg] at h
    | link l' target rest => simp [walkFrom_zero_link hleg] at h
  | succ k ih =>
    cases hleg : leg fs follow l ns with
    | arrived q =>
      obtain rfl : q = p := by simpa [walkFrom_arrived hleg] using h
      exact arrived (k + 1) l ns hleg
    | refused c => simp [walkFrom_refused hleg] at h
    | link l' target rest =>
      have hrest := (walkFrom_succ_link hleg k).symm.trans h
      exact link k l ns l' target rest hleg hrest (ih hrest)

theorem walkFrom_append {fs : FileSystem} {k : Nat} {l d : Location} {ns : List Name}
    (h : walkFrom fs true k l ns = .ok ⟨d, some .dir⟩) :
    ∃ k', ∀ (follow : Bool) (ms : List Name), ms ≠ [] →
      walkFrom fs follow k l (ns ++ ms) = walkFrom fs follow k' d ms := by
  induction h using walkFrom_ok_induction with
  | arrived k l ns hleg =>
    refine ⟨k, fun follow ms hms => walkFrom_congr ?_ k⟩
    rw [leg_append _ _ _ _ hms, hleg]
  | link k l ns l' target rest hleg h ih =>
    obtain ⟨k', hk'⟩ := ih
    refine ⟨k', fun follow ms hms => ?_⟩
    have happ : leg fs follow l (ns ++ ms) = .link l' target (rest ++ ms) := by
      rw [leg_append _ _ _ _ hms, hleg]
    rw [walkFrom_succ_link happ, ← List.append_assoc, hk' follow ms hms]

theorem walkFrom_init {fs : FileSystem} {follow : Bool} {k : Nat} {l : Location} {ns ms : List Name}
    (hms : ms ≠ []) {q : Place} (h : walkFrom fs follow k l (ns ++ ms) = .ok q) :
    ∃ d, walkFrom fs true k l ns = .ok ⟨d, some .dir⟩ := by
  induction k generalizing l ns with
  | zero =>
    obtain ⟨d, hleg⟩ | ⟨l', target, rest, hleg⟩ | ⟨c, hleg⟩ := leg_append_cases fs follow l ns hms
    · exact ⟨d, walkFrom_arrived hleg 0⟩
    · have happ : leg fs follow l (ns ++ ms) = .link l' target (rest ++ ms) := by
        rw [leg_append _ _ _ _ hms, hleg]
      simp [walkFrom_zero_link happ] at h
    · simp [walkFrom_refused hleg] at h
  | succ k ih =>
    obtain ⟨d, hleg⟩ | ⟨l', target, rest, hleg⟩ | ⟨c, hleg⟩ := leg_append_cases fs follow l ns hms
    · exact ⟨d, walkFrom_arrived hleg (k + 1)⟩
    · have happ : leg fs follow l (ns ++ ms) = .link l' target (rest ++ ms) := by
        rw [leg_append _ _ _ _ hms, hleg]
      rw [walkFrom_succ_link happ, ← List.append_assoc] at h
      rw [walkFrom_succ_link hleg]
      exact ih h
    · simp [walkFrom_refused hleg] at h

theorem walkFrom_single {fs : FileSystem} {follow : Bool} {d : Location} {n : Name}
    (hn : Path.isName n = true) (hup : n ≠ ['.', '.']) (hs : byteLength n ≤ greatestName)
    (hlink : follow = true → ∀ target, fs.find? (d ++ [n]) ≠ some (.link target)) (k : Nat) :
    walkFrom fs follow k d [n] = .ok ⟨d ++ [n], fs.find? (d ++ [n])⟩ := by
  apply walkFrom_arrived
  rw [leg_cons hn hup hs]
  cases hf : fs.find? (d ++ [n]) with
  | none => rfl
  | some e =>
    cases e with
    | dir => rfl
    | file id => rfl
    | link target =>
      cases follow with
      | false => rfl
      | true => exact absurd hf (hlink rfl target)

theorem walkFrom_single_long {fs : FileSystem} {follow : Bool} {d : Location} {n : Name}
    (hn : Path.isName n = true) (hup : n ≠ ['.', '.']) (hs : greatestName < byteLength n) (k : Nat) :
    walkFrom fs follow k d [n] = .error .nameTooLong :=
  walkFrom_refused (leg_long hn hup hs fs follow d []) k

/-- A walk to a directory or a link looks at nothing but directories and links. -/
theorem leg_mono {fs fs' : FileSystem} {follow : Bool} {l : Location} {ns : List Name}
    (hkeep : ∀ m e, fs.find? m = some e → (∀ id, e ≠ .file id) → fs'.find? m = some e) :
    (∀ d e, (∀ id, e ≠ .file id) → leg fs follow l ns = .arrived ⟨d, some e⟩ →
        leg fs' follow l ns = .arrived ⟨d, some e⟩) ∧
      ∀ l' target rest, leg fs follow l ns = .link l' target rest →
        leg fs' follow l ns = .link l' target rest := by
  induction l, ns using leg_induction fs with
  | nil l => exact ⟨fun d e _ h => h, fun l' target rest h => h⟩
  | skip l n ns hn ih =>
    rw [leg_of_not_isName hn, leg_of_not_isName hn]
    exact ih
  | up l ns ih =>
    rw [leg_up, leg_up]
    exact ih
  | long l n ns hn hup hs =>
    rw [leg_long hn hup hs]
    simp
  | enter l n ns hn hup hs hf ih =>
    rw [leg_cons hn hup hs, leg_cons hn hup hs, hf, hkeep _ _ hf (by simp)]
    exact ih
  | stop l n ns hn hup hs hf =>
    -- a file, or nothing, may be another one afterwards; a link may not
    rw [leg_cons hn hup hs, leg_cons hn hup hs]
    cases hold : fs.find? (l ++ [n]) with
    | none => by_cases hns : ns = [] <;> simp [hns]
    | some e =>
      cases e with
      | dir => exact absurd hold hf
      | file id =>
        by_cases hns : ns = []
        · simp only [hns, if_true, Leg.arrived.injEq, Place.mk.injEq, Option.some.injEq, reduceCtorEq,
            false_implies, implies_true, and_true]
          rintro d e hfile ⟨-, rfl⟩
          exact absurd rfl (hfile id)
        · simp [hns]
      | link target =>
        rw [hkeep _ _ hold (by simp)]
        exact ⟨fun d e _ h => h, fun l' target rest h => h⟩

theorem walkFrom_mono {fs fs' : FileSystem} {follow : Bool} {k : Nat} {l d : Location}
    {ns : List Name} {e : Entry} (he : ∀ id, e ≠ .file id)
    (hkeep : ∀ m e, fs.find? m = some e → (∀ id, e ≠ .file id) → fs'.find? m = some e)
    (h : walkFrom fs follow k l ns = .ok ⟨d, some e⟩) :
    walkFrom fs' follow k l ns = .ok ⟨d, some e⟩ := by
  induction h using walkFrom_ok_induction with
  | arrived k l ns hleg => exact walkFrom_arrived ((leg_mono hkeep).1 d e he hleg) k
  | link k l ns l' target rest hleg h ih =>
    rw [walkFrom_succ_link ((leg_mono hkeep).2 l' target rest hleg)]
    exact ih

/-- What a way gets to lies there, unless it is a directory that the way only began or turned back
in. -/
theorem leg_entry {fs : FileSystem} {follow : Bool} {l m : Location} {ns : List Name}
    {e : Option Entry} (h : leg fs follow l ns = .arrived ⟨m, e⟩) (he : e ≠ some .dir) :
    fs.find? m = e := by
  induction l, ns using leg_induction fs with
  | nil l =>
    obtain ⟨-, rfl⟩ := by simpa [leg] using h
    exact absurd rfl he
  | skip l n ns hn ih =>
    rw [leg_of_not_isName hn] at h
    exact ih h
  | up l ns ih =>
    rw [leg_up] at h
    exact ih h
  | long l n ns hn hup hs => simp [leg_long hn hup hs] at h
  | enter l n ns hn hup hs hf ih =>
    rw [leg_cons hn hup hs, hf] at h
    exact ih h
  | stop l n ns hn hup hs hf =>
    rw [leg_cons hn hup hs] at h
    cases hold : fs.find? (l ++ [n]) with
    | none =>
      by_cases hns : ns = []
      · obtain ⟨rfl, rfl⟩ := by simpa [hold, hns] using h
        exact hold
      · simp [hold, hns] at h
    | some e' =>
      cases e' with
      | dir => exact absurd hold hf
      | file id =>
        by_cases hns : ns = []
        · obtain ⟨rfl, rfl⟩ := by simpa [hold, hns] using h
          exact hold
        · simp [hold, hns] at h
      | link target =>
        by_cases hend : (decide (ns = []) && !follow) = true
        · simp only [hold, hend, if_true, Leg.arrived.injEq, Place.mk.injEq] at h
          obtain ⟨rfl, rfl⟩ := h
          exact hold
        · simp [hold, hend] at h

/-- A way to a file, or to where nothing is, depends on directories and links alone: it gets there
whatever has come to lie there, short of a link. -/
theorem leg_kept {fs fs' : FileSystem} {follow : Bool} {l m : Location} {ns : List Name}
    {e : Option Entry} (h : leg fs follow l ns = .arrived ⟨m, e⟩) (hdir : e ≠ some .dir)
    (hlink : ∀ target, e ≠ some (.link target))
    (hkeep : ∀ m e, fs.find? m = some e → (∀ id, e ≠ .file id) → fs'.find? m = some e)
    (hlink' : ∀ target, fs'.find? m ≠ some (.link target)) :
    leg fs' follow l ns = .arrived ⟨m, fs'.find? m⟩ := by
  induction l, ns using leg_induction fs with
  | nil l =>
    obtain ⟨-, rfl⟩ := by simpa [leg] using h
    exact absurd rfl hdir
  | skip l n ns hn ih =>
    rw [leg_of_not_isName hn] at h ⊢
    exact ih h
  | up l ns ih =>
    rw [leg_up] at h ⊢
    exact ih h
  | long l n ns hn hup hs => simp [leg_long hn hup hs] at h
  | enter l n ns hn hup hs hf ih =>
    rw [leg_cons hn hup hs, hf] at h
    rw [leg_cons hn hup hs, hkeep _ _ hf (by simp)]
    exact ih h
  | stop l n ns hn hup hs hf =>
    -- the way ends here, at the name itself
    obtain ⟨rfl, rfl⟩ : ns = [] ∧ l ++ [n] = m := by
      rw [leg_cons hn hup hs] at h
      cases hold : fs.find? (l ++ [n]) with
      | none => by_cases hns : ns = [] <;> simp_all
      | some e' =>
        cases e' with
        | dir => exact absurd hold hf
        | file id => by_cases hns : ns = [] <;> simp_all
        | link target =>
          by_cases hend : (decide (ns = []) && !follow) = true
          · simp only [hold, hend, if_true, Leg.arrived.injEq, Place.mk.injEq] at h
            exact absurd h.2.symm (hlink target)
          · simp [hold, hend] at h
    rw [leg_cons hn hup hs]
    cases hnew : fs'.find? (l ++ [n]) with
    | none => rfl
    | some e' =>
      cases e' with
      | dir => rfl
      | file id => rfl
      | link target => exact absurd hnew (hlink' target)

theorem walkFrom_entry {fs : FileSystem} {follow : Bool} {k : Nat} {l m : Location}
    {ns : List Name} {e : Option Entry} (h : walkFrom fs follow k l ns = .ok ⟨m, e⟩)
    (he : e ≠ some .dir) : fs.find? m = e := by
  induction h using walkFrom_ok_induction with
  | arrived k l ns hleg => exact leg_entry hleg he
  | link k l ns l' target rest hleg h ih => exact ih

theorem walkFrom_kept {fs fs' : FileSystem} {follow : Bool} {k : Nat} {l m : Location}
    {ns : List Name} {e : Option Entry} (h : walkFrom fs follow k l ns = .ok ⟨m, e⟩)
    (hdir : e ≠ some .dir) (hlink : ∀ target, e ≠ some (.link target))
    (hkeep : ∀ m e, fs.find? m = some e → (∀ id, e ≠ .file id) → fs'.find? m = some e)
    (hlink' : ∀ target, fs'.find? m ≠ some (.link target)) :
    walkFrom fs' follow k l ns = .ok ⟨m, fs'.find? m⟩ := by
  induction h using walkFrom_ok_induction with
  | arrived k l ns hleg => exact walkFrom_arrived (leg_kept hleg hdir hlink hkeep hlink') k
  | link k l ns l' target rest hleg h ih =>
    rw [walkFrom_succ_link ((leg_mono hkeep).2 l' target rest hleg)]
    exact ih

theorem leg_follow {fs : FileSystem} {l : Location} {ns : List Name}
    (h : ∀ m target, leg fs false l ns ≠ .arrived ⟨m, some (.link target)⟩) :
    leg fs true l ns = leg fs false l ns := by
  induction l, ns using leg_induction fs with
  | nil l => rfl
  | skip l n ns hn ih =>
    rw [leg_of_not_isName hn] at h
    rw [leg_of_not_isName hn, leg_of_not_isName hn, ih h]
  | up l ns ih =>
    rw [leg_up] at h
    rw [leg_up, leg_up, ih h]
  | long l n ns hn hup hs => rw [leg_long hn hup hs, leg_long hn hup hs]
  | enter l n ns hn hup hs hf ih =>
    rw [leg_cons hn hup hs, hf] at h
    rw [leg_cons hn hup hs, leg_cons hn hup hs, hf]
    exact ih h
  | stop l n ns hn hup hs hf =>
    rw [leg_cons hn hup hs] at h
    rw [leg_cons hn hup hs, leg_cons hn hup hs]
    cases he : fs.find? (l ++ [n]) with
    | none => rfl
    | some e =>
      cases e with
      | dir => exact absurd he hf
      | file id => rfl
      | link target =>
        by_cases hns : ns = []
        · exact absurd (by simp [he, hns]) (h (l ++ [n]) target)
        · simp [hns]

theorem walkFrom_false_none {fs : FileSystem} {k : Nat} {l m : Location} {ns : List Name}
    (h : walkFrom fs false k l ns = .ok ⟨m, none⟩) : walkFrom fs true k l ns = .ok ⟨m, none⟩ := by
  induction h using walkFrom_ok_induction with
  | arrived k l ns hleg =>
    have hfollow : leg fs true l ns = leg fs false l ns := leg_follow (by simp [hleg])
    exact walkFrom_arrived (hfollow.trans hleg) k
  | link k l ns l' target rest hleg h ih =>
    have hfollow : leg fs true l ns = leg fs false l ns := leg_follow (by simp [hleg])
    rw [walkFrom_succ_link (hfollow.trans hleg)]
    exact ih

end ProfilerBootstrap.FileSystem

import Mathlib.Data.List.Induction
import ProfilerBootstrap.Dotenv.Load
import ProfilerBootstrap.Proofs.Sequence

namespace ProfilerBootstrap

namespace Environment

/-- What is set in the one environment is set to the same in the other. -/
def Within (env env' : Environment) : Prop :=
  ∀ name value, env.get? name = some value → env'.get? name = some value

theorem Within.refl (env : Environment) : env.Within env := fun _ _ h => h

theorem Within.trans {env env' env'' : Environment} (h : env.Within env') (h' : env'.Within env'') :
    env.Within env'' := fun name value hset => h' name value (h name value hset)

theorem contains_eq_false_iff {env : Environment} {name : String} :
    env.contains name = false ↔ env.get? name = none :=
  Option.isSome_eq_false_iff.trans Option.isNone_iff_eq_none

theorem Within.contains {env env' : Environment} (h : env.Within env') {name : String}
    (hset : env.contains name = true) : env'.contains name = true := by
  obtain ⟨value, hvalue⟩ := Option.isSome_iff_exists.1 hset
  exact Option.isSome_iff_exists.2 ⟨value, h name value hvalue⟩

theorem eq_insert_of_set {env env' : Environment} {name value : String}
    (h : env.set name value = .ok env') : env' = env.insert name value := by
  unfold set at h
  split at h
  · cases h
  · split at h
    · cases h
    · split at h
      · cases h
      · exact (Except.ok.inj h).symm

theorem within_insert {env : Environment} {name : String} (h : env.contains name = false)
    (value : String) : env.Within (env.insert name value) := by
  intro m v hm
  rw [get?_insert, if_neg, hm]
  rintro rfl
  rw [contains_eq_false_iff.1 h] at hm
  cases hm

end Environment

namespace Dotenv

namespace Values

def Distinct (vs : Values) : Prop := vs.Pairwise (·.1 ≠ ·.1)

theorem Distinct.eq_of_mem {vs : Values} (h : vs.Distinct) {k : String} {v v' : Option String}
    (hv : (k, v) ∈ vs) (hv' : (k, v') ∈ vs) : v = v' := by
  induction vs with
  | nil => cases hv
  | cons e vs ih =>
    obtain ⟨hfirst, hrest⟩ := List.pairwise_cons.1 h
    rcases List.mem_cons.1 hv with rfl | hmem <;> rcases List.mem_cons.1 hv' with heq | hmem'
    · exact (Prod.mk.inj heq).2.symm
    · exact absurd rfl (hfirst (k, v') hmem')
    · subst heq
      exact absurd rfl (hfirst (k, v) hmem)
    · exact ih hrest hmem hmem'

theorem mem_set_iff {vs : Values} (hvs : vs.Distinct) {k k' : String} {v v' : Option String} :
    (k', v') ∈ vs.set k v ↔ (k' = k ∧ v' = v) ∨ (k' ≠ k ∧ (k', v') ∈ vs) := by
  induction vs with
  | nil => simp [set]
  | cons e vs ih =>
    obtain ⟨m, w⟩ := e
    obtain ⟨hfirst, hrest⟩ := List.pairwise_cons.1 hvs
    unfold set
    split
    · rename_i hm
      subst hm
      have hother (h : (k', v') ∈ vs) : k' ≠ m := (hfirst _ h).symm
      rw [List.mem_cons, List.mem_cons, Prod.mk.injEq, Prod.mk.injEq]
      constructor
      · rintro (h | h)
        · exact .inl h
        · exact .inr ⟨hother h, .inr h⟩
      · rintro (h | ⟨hne, ⟨h, -⟩ | h⟩)
        · exact .inl h
        · exact absurd h hne
        · exact .inr h
    · rename_i hm
      rw [List.mem_cons, List.mem_cons, Prod.mk.injEq, ih hrest]
      constructor
      · rintro (⟨rfl, rfl⟩ | h | ⟨hne, h⟩)
        · exact .inr ⟨hm, .inl ⟨rfl, rfl⟩⟩
        · exact .inl h
        · exact .inr ⟨hne, .inr h⟩
      · rintro (h | ⟨hne, h | h⟩)
        · exact .inr (.inl h)
        · exact .inl h
        · exact .inr (.inr ⟨hne, h⟩)

theorem Distinct.set {vs : Values} (h : vs.Distinct) (k : String) (v : Option String) :
    (vs.set k v).Distinct := by
  induction vs with
  | nil => exact List.pairwise_singleton _ _
  | cons e vs ih =>
    obtain ⟨m, w⟩ := e
    obtain ⟨hfirst, hrest⟩ := List.pairwise_cons.1 h
    unfold Values.set
    split
    · exact List.pairwise_cons.2 ⟨hfirst, hrest⟩
    · rename_i hm
      refine List.pairwise_cons.2 ⟨fun e he => ?_, ih hrest⟩
      rcases (mem_set_iff hrest).1 he with ⟨hk, -⟩ | ⟨-, he⟩
      · exact hk ▸ hm
      · exact hfirst _ he

end Values

theorem values_concat (env : Environment) (es : List Entry) (e : Entry) :
    values env (es ++ [e]) =
      (values env es).set e.key (e.value.map (expand env (values env es))) := by
  rw [values, List.foldl_append]
  rfl

theorem distinct_values (env : Environment) (es : List Entry) : (values env es).Distinct := by
  induction es using List.reverseRecOn with
  | nil => exact .nil
  | append_singleton es e ih =>
    rw [values_concat]
    exact ih.set _ _

/-- Entries give a key its value: the last entry of the key has one, in which references stand for
what the environment and the entries before say. -/
def Gives (env : Environment) (es : List Entry) (k v : String) : Prop :=
  ∃ before raw after, es = before ++ ⟨k, some raw⟩ :: after ∧ (∀ e ∈ after, e.key ≠ k) ∧
    v = expand env (values env before) raw

/-- Which keys are given a value is the same in every environment. -/
theorem Gives.exists_of_env {env : Environment} {es : List Entry} {k v : String}
    (h : Gives env es k v) (env' : Environment) : ∃ w, Gives env' es k w := by
  obtain ⟨before, raw, after, hes, hafter, -⟩ := h
  exact ⟨_, before, raw, after, hes, hafter, rfl⟩

theorem gives_concat_iff {env : Environment} {es : List Entry} {e : Entry} {k v : String} :
    Gives env (es ++ [e]) k v ↔
      (k = e.key ∧ some v = e.value.map (expand env (values env es))) ∨
        (k ≠ e.key ∧ Gives env es k v) := by
  constructor
  · rintro ⟨before, raw, after, hes, hafter, rfl⟩
    rcases after.eq_nil_or_concat with rfl | ⟨after, last, rfl⟩
    · obtain ⟨rfl, hlast⟩ := List.append_inj' hes rfl
      obtain rfl := List.singleton_inj.1 hlast
      exact .inl ⟨rfl, rfl⟩
    · rw [List.concat_eq_append] at hes hafter
      rw [← List.cons_append, ← List.append_assoc] at hes
      obtain ⟨rfl, hlast⟩ := List.append_inj' hes rfl
      obtain rfl := List.singleton_inj.1 hlast
      exact .inr ⟨(hafter e (by simp)).symm, before, raw, after, rfl,
        fun d hd => hafter d (List.mem_append_left _ hd), rfl⟩
  · rintro (⟨rfl, hv⟩ | ⟨hne, before, raw, after, rfl, hafter, rfl⟩)
    · obtain ⟨key, value⟩ := e
      obtain ⟨raw, rfl, rfl⟩ := Option.map_eq_some_iff.1 hv.symm
      exact ⟨es, raw, [], rfl, by simp, rfl⟩
    · refine ⟨before, raw, after ++ [e], by simp, fun d hd => ?_, rfl⟩
      rcases List.mem_append.1 hd with hd | hd
      · exact hafter d hd
      · obtain rfl := List.mem_singleton.1 hd
        exact hne.symm

theorem mem_values_iff {env : Environment} {es : List Entry} {k v : String} :
    (k, some v) ∈ values env es ↔ Gives env es k v := by
  induction es using List.reverseRecOn with
  | nil => simp [values, Gives]
  | append_singleton es e ih =>
    rw [values_concat, Values.mem_set_iff (distinct_values env es), gives_concat_iff, ih]

theorem Gives.unique {env : Environment} {es : List Entry} {k v w : String}
    (h : Gives env es k v) (h' : Gives env es k w) : v = w := by
  have := (distinct_values env es).eq_of_mem (mem_values_iff.2 h) (mem_values_iff.2 h')
  exact Option.some.inj this

section
variable {env : Environment} {vs : Values}

theorem setAll_given (env : Environment) (k v : String) (rest : Values) :
    (env.contains k = true ∧ setAll env ((k, some v) :: rest) = setAll env rest) ∨
      (env.contains k = false ∧ ∃ e, env.set k v = .error e ∧
        setAll env ((k, some v) :: rest) = (env, some e)) ∨
      (env.contains k = false ∧ env.set k v = .ok (env.insert k v) ∧
        setAll env ((k, some v) :: rest) = setAll (env.insert k v) rest) := by
  cases hk : env.contains k with
  | true => exact .inl ⟨rfl, by simp [setAll, hk]⟩
  | false =>
    cases hset : env.set k v with
    | error e => exact .inr (.inl ⟨rfl, e, rfl, by simp [setAll, hk, hset]⟩)
    | ok env' =>
      obtain rfl := Environment.eq_insert_of_set hset
      exact .inr (.inr ⟨rfl, rfl, by simp [setAll, hk, hset]⟩)

theorem within_setAll (env : Environment) (vs : Values) : env.Within (setAll env vs).1 := by
  induction vs generalizing env with
  | nil => exact .refl env
  | cons e vs ih =>
    obtain ⟨k, v | v⟩ := e
    · exact ih env
    · obtain ⟨-, heq⟩ | ⟨-, e, -, heq⟩ | ⟨hk, -, heq⟩ := setAll_given env k v vs
      · exact heq ▸ ih env
      · exact heq ▸ .refl env
      · rw [heq]
        exact (Environment.within_insert hk v).trans (ih _)

theorem mem_of_added {k v : String} (h : env.get? k = none)
    (h' : (setAll env vs).1.get? k = some v) : (k, some v) ∈ vs := by
  induction vs generalizing env with
  | nil =>
    rw [setAll, h] at h'
    cases h'
  | cons e vs ih =>
    obtain ⟨m, w | w⟩ := e
    · exact List.mem_cons_of_mem _ (ih h h')
    · obtain ⟨-, heq⟩ | ⟨-, e, -, heq⟩ | ⟨-, -, heq⟩ := setAll_given env m w vs
      · exact List.mem_cons_of_mem _ (ih h (heq ▸ h'))
      · rw [heq, h] at h'
        cases h'
      · rw [heq] at h'
        by_cases hk : k = m
        · -- what has been set here stays
          subst hk
          have hset : (env.insert k w).get? k = some w := by rw [Environment.get?_insert, if_pos rfl]
          have hself := within_setAll (env.insert k w) vs k w hset
          obtain rfl := Option.some.inj (hself.symm.trans h')
          exact List.mem_cons_self
        · refine List.mem_cons_of_mem _ (ih ?_ h')
          rw [Environment.get?_insert, if_neg hk, h]

theorem contains_of_setAll (h : (setAll env vs).2 = none) {k v : String} (hmem : (k, some v) ∈ vs) :
    (setAll env vs).1.contains k = true := by
  induction vs generalizing env with
  | nil => cases hmem
  | cons e vs ih =>
    obtain ⟨m, w | w⟩ := e
    · exact ih h ((List.mem_cons.1 hmem).resolve_left (by simp))
    · obtain ⟨hm, heq⟩ | ⟨-, e, -, heq⟩ | ⟨-, -, heq⟩ := setAll_given env m w vs
      · rw [heq] at h ⊢
        rcases List.mem_cons.1 hmem with hfirst | hmem
        · obtain ⟨rfl, -⟩ := Prod.mk.inj hfirst
          exact (within_setAll env vs).contains hm
        · exact ih h hmem
      · rw [heq] at h
        cases h
      · rw [heq] at h ⊢
        rcases List.mem_cons.1 hmem with hfirst | hmem
        · obtain ⟨rfl, -⟩ := Prod.mk.inj hfirst
          refine (within_setAll _ vs).contains ?_
          rw [Environment.contains, Environment.get?_insert, if_pos rfl]
          rfl
        · exact ih h hmem

theorem setAll_of_contains (h : ∀ k v, (k, some v) ∈ vs → env.contains k = true) :
    setAll env vs = (env, none) := by
  induction vs with
  | nil => rfl
  | cons e vs ih =>
    have hrest := ih fun k v hmem => h k v (List.mem_cons_of_mem _ hmem)
    obtain ⟨k, v | v⟩ := e
    · exact hrest
    · rw [setAll, if_pos (h k v List.mem_cons_self), hrest]

end

/-- The bytes of the file that a path leads to, if it leads to a file. -/
def source (m : Platform) (env : Environment) (fs : FileSystem) (path : String) :
    Except LoadError (Option (List UInt8)) :=
  match expandHome m env (.ofText path) with
  | .error e => .error e
  | .ok p =>
    match fs.status p.text with
    | .error e => .error (.files e)
    | .ok (some (.file id)) => .ok (some (fs.read id).toList)
    | .ok _ => .ok none

def outcomeOf (env : Environment) : Except LoadError (Option (List UInt8)) → Outcome
  | .error e => ⟨env, [], .error e⟩
  | .ok none => ⟨env, [], .ok false⟩
  | .ok (some bytes) => if isDisabled env then ⟨env, [], .ok true⟩ else setFromBytes env bytes

theorem value_load (m : Platform) (env : Environment) (fs : FileSystem) (path : String) :
    (load m env fs path).value = outcomeOf env (source m env fs path) := by
  unfold load source
  cases expandHome m env (.ofText path) with
  | error e => rfl
  | ok p =>
    simp only
    unfold loadPath
    cases fs.status p.text with
    | error e => rfl
    | ok e =>
      rcases e with _ | _ | target | id
      · rfl
      · rfl
      · rfl
      · -- only the record depends on whether the file could be loaded
        have hrecord (c : Bool) (o : Outcome) (message : String) :
            (if c = true then Logged.write .debug message >>= fun _ => pure o
              else pure o : Logged Outcome).value = o := by cases c <;> rfl
        exact hrecord _ _ _

section
variable {env : Environment} {bytes : List UInt8} {cs : List Char}
  {src : Except LoadError (Option (List UInt8))}

theorem setFromBytes_eq (env : Environment) (hcs : Decoding.decode .utf8 bytes = .ok cs) :
    ∃ bad, setFromBytes env bytes = ⟨(setAll env (values env (read cs).entries)).1, bad,
      (setAll env (values env (read cs).entries)).2.elim (.ok true) fun e =>
        .error (.variable_ e)⟩ := by
  unfold setFromBytes
  rw [hcs]
  simp only
  rcases setAll env (values env (read cs).entries) with ⟨env', _ | e⟩ <;> exact ⟨_, rfl⟩

theorem outcomeOf_cases (env : Environment) (src : Except LoadError (Option (List UInt8))) :
    (outcomeOf env src).env = env ∨
      ∃ bytes cs, src = .ok (some bytes) ∧ Decoding.decode .utf8 bytes = .ok cs ∧
        (outcomeOf env src).env = (setAll env (values env (read cs).entries)).1 := by
  rcases src with e | _ | bytes
  · exact .inl rfl
  · exact .inl rfl
  · unfold outcomeOf
    simp only
    split
    · exact .inl rfl
    · cases hcs : Decoding.decode .utf8 bytes with
      | error f =>
        left
        rw [setFromBytes, hcs]
      | ok cs =>
        obtain ⟨bad, heq⟩ := setFromBytes_eq env hcs
        exact .inr ⟨bytes, cs, rfl, hcs, by rw [heq]⟩

theorem within_outcomeOf (env : Environment) (src : Except LoadError (Option (List UInt8))) :
    env.Within (outcomeOf env src).env := by
  obtain h | ⟨bytes, cs, -, -, h⟩ := outcomeOf_cases env src
  · rw [h]
    exact .refl env
  · rw [h]
    exact within_setAll env _

theorem gives_of_added {k v : String} (h : env.get? k = none)
    (h' : (outcomeOf env src).env.get? k = some v) :
    ∃ bytes cs, src = .ok (some bytes) ∧ Decoding.decode .utf8 bytes = .ok cs ∧
      Gives env (read cs).entries k v := by
  obtain heq | ⟨bytes, cs, hsrc, hcs, heq⟩ := outcomeOf_cases env src
  · rw [heq, h] at h'
    cases h'
  · exact ⟨bytes, cs, hsrc, hcs, mem_values_iff.1 (mem_of_added h (heq ▸ h'))⟩

theorem get?_of_gives (hcs : Decoding.decode .utf8 bytes = .ok cs) (hon : isDisabled env = false)
    (hok : (outcomeOf env (.ok (some bytes))).result = .ok true) {k v : String}
    (hgives : Gives env (read cs).entries k v) (h : env.get? k = none) :
    (outcomeOf env (.ok (some bytes))).env.get? k = some v := by
  obtain ⟨bad, heq⟩ := setFromBytes_eq env hcs
  have hout : outcomeOf env (.ok (some bytes)) = setFromBytes env bytes := by
    rw [outcomeOf, hon, if_neg Bool.false_ne_true]
  rw [hout, heq] at hok ⊢
  cases hall : (setAll env (values env (read cs).entries)).2 with
  | some e =>
    rw [hall] at hok
    cases hok
  | none =>
    obtain ⟨w, hw⟩ := Option.isSome_iff_exists.1 (contains_of_setAll hall (mem_values_iff.2 hgives))
    obtain rfl := hgives.unique (mem_values_iff.1 (mem_of_added h hw))
    exact hw

/-- The values of a file that have all been set are not set again: in the environment as it is then
they may be others, but they belong to the same keys. -/
theorem setFromBytes_twice {b : Bool} {env' : Environment} (h : (setFromBytes env bytes).env = env')
    (hok : (setFromBytes env bytes).result = .ok b) :
    b = true ∧ (setFromBytes env' bytes).env = env' ∧ (setFromBytes env' bytes).result = .ok true := by
  cases hcs : Decoding.decode .utf8 bytes with
  | error f =>
    rw [setFromBytes, hcs] at hok
    cases hok
  | ok cs =>
    obtain ⟨bad, hfirst⟩ := setFromBytes_eq env hcs
    obtain ⟨bad', hsecond⟩ := setFromBytes_eq env' hcs
    rw [hfirst] at h hok
    cases hall : (setAll env (values env (read cs).entries)).2 with
    | some e =>
      rw [hall] at hok
      cases hok
    | none =>
      have hagain : setAll env' (values env' (read cs).entries) = (env', none) := by
        refine setAll_of_contains fun k v hmem => ?_
        obtain ⟨w, hw⟩ := (mem_values_iff.1 hmem).exists_of_env env
        exact h ▸ contains_of_setAll hall (mem_values_iff.2 hw)
      rw [hall] at hok
      rw [hsecond, hagain]
      exact ⟨(Except.ok.inj hok).symm, rfl, rfl⟩

theorem outcomeOf_twice {b : Bool} (h : (outcomeOf env src).result = .ok b) :
    (outcomeOf (outcomeOf env src).env src).env = (outcomeOf env src).env ∧
      (outcomeOf (outcomeOf env src).env src).result = .ok b := by
  rcases src with e | _ | bytes
  · cases h
  · exact ⟨rfl, h⟩
  · have heq (env : Environment) : outcomeOf env (.ok (some bytes)) =
        if isDisabled env then ⟨env, [], .ok true⟩ else setFromBytes env bytes := rfl
    rw [heq] at h
    rw [heq env]
    by_cases hoff : isDisabled env = true
    · rw [if_pos hoff] at h ⊢
      rw [heq, if_pos hoff]
      exact ⟨rfl, h⟩
    · rw [if_neg hoff] at h ⊢
      obtain ⟨rfl, henv, hresult⟩ := setFromBytes_twice rfl h
      rw [heq]
      split
      · exact ⟨rfl, rfl⟩
      · exact ⟨henv, hresult⟩

end

section
variable {m : Platform} {env env' : Environment}

theorem expandHome_congr {p : Path}
    (h : ∀ n, p.names.head? = some n → homeOf m env' n = homeOf m env n) :
    expandHome m env' p = expandHome m env p := by
  rcases p with ⟨_ | s, _ | ⟨n, rest⟩⟩
  · rfl
  · unfold expandHome
    simp only
    rw [h n rfl]
  · rfl
  · rfl

/-- What a path leads to depends on the environment only where the path begins at the home that it
tells. -/
theorem source_congr {path : String}
    (h : (Path.ofText path).names.head? ≠ some ['~'] ∨ env'.get? "HOME" = env.get? "HOME")
    (fs : FileSystem) : source m env' fs path = source m env fs path := by
  have hexpand : expandHome m env' (.ofText path) = expandHome m env (.ofText path) := by
    refine expandHome_congr fun n hn => ?_
    unfold homeOf
    rcases h with h | h
    · have hne : n ≠ ['~'] := fun heq => h (hn.trans (congrArg some heq))
      rw [if_neg hne, if_neg hne]
    · rw [h]
  unfold source
  rw [hexpand]

end

/-- Whatever comes of loading a file, it takes nothing from the environment and changes nothing that
is set, and what it adds are values of the file; when all went well, it has added all that were
missing. Loading the same contents again, from wherever, then changes nothing. They lie at the same
path as before, unless that begins at a home that the file itself has set. A file that is loaded
later leaves what has been added as it is. -/
theorem load_adds_only (m : Platform) (env : Environment) (fs : FileSystem) (path : String) :
    let after := (load m env fs path).value
    env.Within after.env ∧
    (∀ k v, env.get? k = none → after.env.get? k = some v →
      ∃ bytes cs, source m env fs path = .ok (some bytes) ∧ Decoding.decode .utf8 bytes = .ok cs ∧
        Gives env (read cs).entries k v) ∧
    (∀ bytes cs, source m env fs path = .ok (some bytes) → Decoding.decode .utf8 bytes = .ok cs →
      isDisabled env = false → after.result = .ok true →
        ∀ k v, Gives env (read cs).entries k v → env.get? k = none → after.env.get? k = some v) ∧
    (∀ b, after.result = .ok b →
      (∀ fs' path', source m after.env fs' path' = source m env fs path →
        (load m after.env fs' path').value.env = after.env ∧
          (load m after.env fs' path').value.result = .ok b) ∧
      ((Path.ofText path).names.head? ≠ some ['~'] ∨ after.env.get? "HOME" = env.get? "HOME" →
        source m after.env fs path = source m env fs path)) ∧
    ∀ fs' path' k v, env.get? k = none → after.env.get? k = some v →
      (load m after.env fs' path').value.env.get? k = some v := by
  simp only [value_load]
  refine ⟨within_outcomeOf env _, fun k v => gives_of_added, fun bytes cs hsrc hcs hon hok k v => ?_,
    fun b hok => ⟨fun fs' path' hsame => ?_, fun hhome => source_congr hhome fs⟩,
    fun fs' path' k v _ => within_outcomeOf _ _ k v⟩
  · rw [hsrc] at hok ⊢
    exact get?_of_gives hcs hon hok
  · rw [hsame]
    exact outcomeOf_twice hok

/-- A variable that is set to nothing stays so, and an entry refers to it. The file is loaded twice,
and then another one that has a value for the same key. -/
theorem load_adds_only_empty :
    let m : Platform := ⟨"Linux", "64", "/var/log", fun _ => none⟩
    let text := "A=1\nB=x\nB=y$\x7bA\x7dz\n"
    let fs : FileSystem := ((FileSystem.fresh [['r']]).writeFile "e.env" text.toUTF8).toOption.getD
      (.fresh [])
    let fs' : FileSystem := (fs.writeFile "f.env" "B=2\n".toUTF8).toOption.getD (.fresh [])
    let after := (load m (.ofList [("A", "")]) fs "e.env").value
    after.env.get? "A" = some "" ∧ after.env.get? "B" = some "yz" ∧
      (load m after.env fs "e.env").value.env = after.env ∧
      (load m after.env fs' "f.env").value.env.get? "B" = some "yz" := by
  intro m text fs fs' after
  obtain ⟨hkeeps, -, hadds, hagain, hlater⟩ := load_adds_only m (.ofList [("A", "")]) fs "e.env"
  have hsource : source m (.ofList [("A", "")]) fs "e.env" = .ok (some text.toUTF8.toList) :=
    eq_ok_of_toOption (by decide +kernel)
  have htext : Decoding.decode .utf8 text.toUTF8.toList = .ok text.toList :=
    eq_ok_of_toOption (by decide +kernel)
  have hgives : Gives (.ofList [("A", "")]) (read text.toList).entries "B" "yz" :=
    ⟨[⟨"A", some "1"⟩, ⟨"B", some "x"⟩], "y$\x7bA\x7dz", [], by decide +kernel, nofun,
      by decide +kernel⟩
  have hok : after.result = .ok true := eq_ok_of_toOption (by decide +kernel)
  have hB := hadds _ _ hsource htext (by decide +kernel) hok "B" "yz" hgives (by decide +kernel)
  obtain ⟨hsame, hplace⟩ := hagain true hok
  exact ⟨hkeeps "A" "" (by decide +kernel), hB,
    (hsame fs "e.env" (hplace (.inl (by decide +kernel)))).1,
    hlater fs' "f.env" "B" "yz" (by decide +kernel) hB⟩

end Dotenv

end ProfilerBootstrap

import ProfilerBootstrap.Logging.Host
import ProfilerBootstrap.Proofs.Logging.Handlers
import ProfilerBootstrap.Proofs.Sequence

namespace ProfilerBootstrap

namespace Host

/-- What holds between steps: the numbers of the handlers belong to one handle each, and the newest
handle owns the logger. -/
structure Owned (s : Host) : Prop where
  given : ∀ h ∈ s.handles, ∀ id ∈ h.handlerIds, id < s.logger.nextId
  apart : s.handles.Pairwise fun h h' => ∀ id ∈ h'.handlerIds, id ∉ h.handlerIds
  newest : ∀ h, s.handles.getLast? = some h → h.Owns s.logger

/-- A step sets logging up and keeps the new handle, or it shuts a handle down or logs. -/
theorem step_ok {s s' : Host} {st : Step} (h : s.step st = .ok s') :
    (st.setsUp = true ∧ ∃ (c : LogConfig) (m l : Logger) (k : LogHandle),
      s.logger.nextId ≤ m.nextId ∧ c.install m = (l, .ok k) ∧ s' = ⟨l, s.handles ++ [k]⟩) ∨
    (st.setsUp = false ∧
      ((∃ n, s' = s.shutdown n) ∨ s' = s ∨ ∃ now r, s' = s.log now r)) := by
  cases st with
  | install c =>
    left
    simp only [step, keep] at h
    cases hc : c.install s.logger with
    | mk l r =>
      cases r with
      | error e => simp [hc, Except.map] at h
      | ok k =>
        obtain rfl : _ = s' := by simpa [hc, Except.map] using h
        exact ⟨rfl, c, s.logger, l, k, Nat.le_refl _, hc, rfl⟩
  | initialise env p process pid system =>
    left
    simp only [step, keep] at h
    cases hi : s.logger.initialise env p process pid system with
    | mk l r =>
      cases r with
      | error e => simp [hi, Except.map] at h
      | ok k =>
        obtain rfl : _ = s' := by simpa [hi, Except.map] using h
        obtain ⟨c, m, hm, hc⟩ := Logger.initialise_ok hi
        exact ⟨rfl, c, m, l, k, hm, hc, rfl⟩
  | shutdown n => exact .inr ⟨rfl, .inl ⟨n, (Except.ok.inj h).symm⟩⟩
  | flush n => exact .inr ⟨rfl, .inr (.inl (Except.ok.inj h).symm)⟩
  | log now r => exact .inr ⟨rfl, .inr (.inr ⟨now, r, (Except.ok.inj h).symm⟩)⟩

theorem Owned.install {s : Host} (hs : s.Owned) {c : LogConfig} {m l : Logger} {h : LogHandle}
    (hm : s.logger.nextId ≤ m.nextId) (hc : c.install m = (l, .ok h)) :
    Owned ⟨l, s.handles ++ [h]⟩ := by
  obtain ⟨howns, -, hle, hnew⟩ := LogConfig.install_spec hc
  refine ⟨?_, ?_, ?_⟩
  · intro k hk id hid
    rcases List.mem_append.1 hk with hk | hk
    · have := hs.given k hk id hid
      simp only
      omega
    · obtain rfl := List.mem_singleton.1 hk
      exact (hnew id hid).2
  · refine List.pairwise_append.2 ⟨hs.apart, List.pairwise_singleton _ _, ?_⟩
    intro k hk k' hk' id hid hold
    obtain rfl := List.mem_singleton.1 hk'
    have := hs.given k hk id hold
    have := hnew id hid
    omega
  · intro k hk
    obtain rfl : h = k := by simpa using hk
    exact howns

theorem shutdown_of_getElem? {s : Host} {n : Nat} {h : LogHandle} (hn : s.handles[n]? = some h) :
    s.shutdown n = ⟨(h.shutdown s.logger).2, s.handles.set n (h.shutdown s.logger).1⟩ := by
  simp [shutdown, hn]

theorem shutdown_of_none {s : Host} {n : Nat} (hn : s.handles[n]? = none) : s.shutdown n = s := by
  simp [shutdown, hn]

/-- The numbers of a handle that is not the newest are not in use, so its shutdown removes nothing.
-/
theorem Owned.handlers_shutdown_superseded {s : Host} (hs : s.Owned) {n : Nat}
    (hn : n + 1 < s.handles.length) : (s.shutdown n).logger.handlers = s.logger.handlers := by
  have hget : s.handles[n]? = some s.handles[n] := List.getElem?_eq_getElem (by omega)
  have hlast : s.handles.getLast? = some s.handles[s.handles.length - 1] := by
    rw [List.getLast?_eq_getElem?, List.getElem?_eq_getElem]
  have hids := (hs.newest _ hlast).ids
  have hapart := List.pairwise_iff_getElem.1 hs.apart n (s.handles.length - 1) (by omega) (by omega)
    (by omega)
  rw [shutdown_of_getElem? hget, Logger.handlers_shutdown, List.filter_eq_self]
  intro k hk
  have hid : k.id ∈ s.handles[s.handles.length - 1].handlerIds :=
    hids ▸ List.mem_map_of_mem hk
  simpa using hapart k.id hid

theorem Owned.handlers_shutdown_newest {s : Host} (hs : s.Owned) (hne : s.handles ≠ []) :
    (s.shutdown (s.handles.length - 1)).logger.handlers = [] := by
  obtain ⟨k, hk⟩ : ∃ k, s.handles.getLast? = some k := ⟨_, List.getLast?_eq_some_getLast hne⟩
  have hget := hk
  rw [List.getLast?_eq_getElem?] at hget
  rw [shutdown_of_getElem? hget]
  exact List.map_eq_nil_iff.1 (hs.newest k hk).shutdown.ids

theorem ids_subset_shutdown {s : Host} {n i : Nat} {k : LogHandle}
    (h : (s.shutdown n).handles[i]? = some k) :
    ∃ k', s.handles[i]? = some k' ∧ k.handlerIds ⊆ k'.handlerIds := by
  cases hn : s.handles[n]? with
  | none =>
    rw [shutdown_of_none hn] at h
    exact ⟨k, h, List.Subset.refl _⟩
  | some k' =>
    rw [shutdown_of_getElem? hn, List.getElem?_set] at h
    split at h
    · rename_i hni
      obtain ⟨-, rfl⟩ : _ ∧ (k'.shutdown s.logger).1 = k := by simpa using h
      exact ⟨k', hni ▸ hn, List.nil_subset _⟩
    · exact ⟨k, h, List.Subset.refl _⟩

theorem Owned.newest_shutdown {s : Host} (hs : s.Owned) {n : Nat} {k : LogHandle}
    (hk : (s.shutdown n).handles.getLast? = some k) : k.Owns (s.shutdown n).logger := by
  cases hn : s.handles[n]? with
  | none =>
    rw [shutdown_of_none hn] at hk ⊢
    exact hs.newest k hk
  | some h =>
    have hlt : n < s.handles.length := (List.getElem?_eq_some_iff.1 hn).1
    have hsuper := hs.handlers_shutdown_superseded (n := n)
    rw [shutdown_of_getElem? hn] at hk hsuper ⊢
    rw [List.getLast?_eq_getElem?, List.length_set, List.getElem?_set] at hk
    split at hk
    · rename_i hnl
      obtain rfl : (h.shutdown s.logger).1 = k := by simpa [← hnl, hlt] using hk
      refine (hs.newest h ?_).shutdown
      rw [List.getLast?_eq_getElem?, ← hnl, hn]
    · rename_i hnl
      rw [← List.getLast?_eq_getElem?] at hk
      exact (hs.newest k hk).congr (congrArg (List.map Handler.identity) (hsuper (by omega)))

theorem nextId_shutdown (s : Host) (n : Nat) : (s.shutdown n).logger.nextId = s.logger.nextId := by
  cases hn : s.handles[n]? with
  | none => rw [shutdown_of_none hn]
  | some h => rw [shutdown_of_getElem? hn, LogHandle.nextId_shutdown]

theorem Owned.shutdown {s : Host} (hs : s.Owned) (n : Nat) : (s.shutdown n).Owned where
  given k hk id hid := by
    obtain ⟨i, hi⟩ := List.mem_iff_getElem?.1 hk
    obtain ⟨k', hk', hsub⟩ := ids_subset_shutdown hi
    rw [nextId_shutdown]
    exact hs.given k' (List.mem_of_getElem? hk') id (hsub hid)
  apart := by
    rw [List.pairwise_iff_getElem]
    intro i j hi hj hij id hid hold
    obtain ⟨k, hk, hik⟩ := ids_subset_shutdown (List.getElem?_eq_getElem hi)
    obtain ⟨k', hk', hjk⟩ := ids_subset_shutdown (List.getElem?_eq_getElem hj)
    obtain ⟨hi', rfl⟩ := List.getElem?_eq_some_iff.1 hk
    obtain ⟨hj', rfl⟩ := List.getElem?_eq_some_iff.1 hk'
    exact List.pairwise_iff_getElem.1 hs.apart i j hi' hj' hij id (hjk hid) (hik hold)
  newest k hk := hs.newest_shutdown hk

theorem Owned.log {s : Host} (hs : s.Owned) (now : String) (r : LogRecord) : (s.log now r).Owned where
  given h hh id hid := by
    rw [Host.log, Logger.nextId_emit]
    exact hs.given h hh id hid
  apart := hs.apart
  newest h hh := (hs.newest h hh).congr (Logger.identities_emit ..)

theorem owned_of_no_handles {s : Host} (hs : s.handles = []) : s.Owned := by
  refine ⟨?_, ?_, ?_⟩ <;> simp [hs]

theorem Owned.step {s s' : Host} (hs : s.Owned) {st : Step} (h : s.step st = .ok s') : s'.Owned := by
  obtain ⟨-, c, m, l, k, hm, hc, rfl⟩ | ⟨-, ⟨n, rfl⟩ | rfl | ⟨now, r, rfl⟩⟩ := step_ok h
  · exact hs.install hm hc
  · exact hs.shutdown n
  · exact hs
  · exact hs.log now r

theorem Owned.run {s s' : Host} (hs : s.Owned) {steps : List Step} (h : s.run steps = .ok s') :
    s'.Owned := by
  induction steps generalizing s with
  | nil =>
    obtain rfl := Except.ok.inj h
    exact hs
  | cons st rest ih =>
    obtain ⟨t, ht, hrest⟩ := run_cons_ok h
    exact ih (hs.step ht) hrest

theorem logFiles_step {s s' : Host} {st : Step} (h : s.step st = .ok s') (hst : st.setsUp = false) :
    s'.handles.map (·.logFile) = s.handles.map (·.logFile) := by
  obtain ⟨hup, -⟩ | ⟨-, ⟨n, rfl⟩ | rfl | ⟨now, r, rfl⟩⟩ := step_ok h
  · simp [hst] at hup
  · cases hn : s.handles[n]? with
    | none => rw [shutdown_of_none hn]
    | some k =>
      obtain ⟨hlt, rfl⟩ := List.getElem?_eq_some_iff.1 hn
      rw [shutdown_of_getElem? hn, List.map_set]
      refine List.ext_getElem (by simp) fun i hi _ => ?_
      rw [List.getElem_set]
      split
      · rename_i hni
        subst hni
        simp [LogHandle.shutdown]
      · rfl
  · rfl
  · rfl

theorem logFiles_run {s s' : Host} {steps : List Step} (h : s.run steps = .ok s')
    (hsteps : ∀ st ∈ steps, st.setsUp = false) :
    s'.handles.map (·.logFile) = s.handles.map (·.logFile) := by
  induction steps generalizing s with
  | nil =>
    obtain rfl := Except.ok.inj h
    rfl
  | cons st rest ih =>
    obtain ⟨t, ht, hrest⟩ := run_cons_ok h
    rw [ih hrest fun st hst => hsteps st (List.mem_cons_of_mem _ hst),
      logFiles_step ht (hsteps st List.mem_cons_self)]

theorem shutdown_shutdown (s : Host) (n : Nat) : (s.shutdown n).shutdown n = s.shutdown n := by
  cases hn : s.handles[n]? with
  | none => rw [shutdown_of_none hn, shutdown_of_none hn]
  | some h =>
    have hlt : n < s.handles.length := (List.getElem?_eq_some_iff.1 hn).1
    have hget : (s.shutdown n).handles[n]? = some (h.shutdown s.logger).1 := by
      rw [shutdown_of_getElem? hn, List.getElem?_set_self hlt]
    rw [shutdown_of_getElem? hget, shutdown_of_getElem? hn, List.set_set]
    rfl

theorem ids_subset_step {s s' : Host} {st : Step} (h : s.step st = .ok s')
    (hst : st.setsUp = false) :
    s'.logger.handlers.map (·.id) ⊆ s.logger.handlers.map (·.id) := by
  obtain ⟨hup, -⟩ | ⟨-, ⟨n, rfl⟩ | rfl | ⟨now, r, rfl⟩⟩ := step_ok h
  · simp [hst] at hup
  · cases hn : s.handles[n]? with
    | none =>
      rw [shutdown_of_none hn]
      exact List.Subset.refl _
    | some k =>
      rw [shutdown_of_getElem? hn, Logger.handlers_shutdown]
      exact List.map_subset _ (List.filter_sublist.subset)
  · exact List.Subset.refl _
  · rw [log, ← Logger.map_fst_identities, Logger.identities_emit, Logger.map_fst_identities]
    exact List.Subset.refl _

theorem ids_subset_run {s s' : Host} {steps : List Step} (h : s.run steps = .ok s')
    (hsteps : ∀ st ∈ steps, st.setsUp = false) :
    s'.logger.handlers.map (·.id) ⊆ s.logger.handlers.map (·.id) := by
  induction steps generalizing s with
  | nil =>
    obtain rfl := Except.ok.inj h
    exact List.Subset.refl _
  | cons st rest ih =>
    obtain ⟨t, ht, hrest⟩ := run_cons_ok h
    exact List.Subset.trans (ih hrest fun st hst => hsteps st (List.mem_cons_of_mem _ hst))
      (ids_subset_step ht (hsteps st List.mem_cons_self))

/-- At any time after logging was last set up, in whatever way the run went on, the handlers are
those of the newest handle and were all added by that set-up. What the handle tells of its targets
is true, and it has a log file where a file was installed. The shutdown of the newest handle leaves
no handler, that of any other leaves all, and a second one changes nothing. -/
theorem handlers_of_newest_handle {s s' : Host} {before after : List Step} {st : Step}
    (hs : s.handles = []) (hst : st.setsUp = true) (hafter : ∀ st ∈ after, st.setsUp = false)
    (h : s.run (before ++ st :: after) = .ok s') :
    ∃ (s₀ s₁ : Host) (k : LogHandle), s.run before = .ok s₀ ∧ s₀.step st = .ok s₁ ∧
      s'.handles.getLast? = some k ∧ k.Owns s'.logger ∧
      (∀ p ∈ s'.logger.handlers, s₀.logger.nextId ≤ p.id) ∧
      (k.logFile = none ↔ ∀ p ∈ s₁.logger.handlers, p.sink.target? ≠ some .file) ∧
      (s'.shutdown (s'.handles.length - 1)).logger.handlers = [] ∧
      (∀ n, n + 1 < s'.handles.length → (s'.shutdown n).logger.handlers = s'.logger.handlers) ∧
      ∀ n, (s'.shutdown n).shutdown n = s'.shutdown n := by
  obtain ⟨s₀, h₀, h⟩ := run_append_ok h
  obtain ⟨s₁, h₁, h₂⟩ := run_cons_ok h
  have howned₀ : s₀.Owned := (owned_of_no_handles hs).run h₀
  have howned : s'.Owned := (howned₀.step h₁).run h₂
  obtain ⟨c, m, l, k₁, hm, hc, hs₁⟩ := ((step_ok h₁).resolve_right fun hno => by
    simp [hst] at hno).2
  obtain ⟨howns₁, hfile, -, hnew⟩ := LogConfig.install_spec hc
  -- the newest handle is still the one that the set-up gave, save for its shutdown
  have hlogs := logFiles_run h₂ hafter
  rw [hs₁, List.map_append] at hlogs
  have hlast : (s'.handles.map (·.logFile)).getLast? = some k₁.logFile := by simp [hlogs]
  obtain ⟨k, hk, hkfile⟩ : ∃ k, s'.handles.getLast? = some k ∧ k.logFile = k₁.logFile := by
    simpa using hlast
  have hne : s'.handles ≠ [] := fun hn => by simp [hn] at hk
  refine ⟨s₀, s₁, k, h₀, h₁, hk, howned.newest k hk, ?_, ?_, ?_, ?_, s'.shutdown_shutdown⟩
  · intro p hp
    have hid := ids_subset_run h₂ hafter (List.mem_map_of_mem hp)
    rw [hs₁, howns₁.ids] at hid
    exact Nat.le_trans hm (hnew p.id hid).1
  · rw [hkfile, hfile, howns₁.targets, hs₁]
    simp
  · exact howned.handlers_shutdown_newest hne
  · exact fun n hn => howned.handlers_shutdown_superseded hn

/-- The log file of the second set-up is a directory, so that only the standard output is installed;
then the handle of the first one is shut down. -/
theorem handlers_of_newest_handle_without_file :
    let r : Roller := ⟨"b_\x7b\x7d", 1, 0, by decide⟩
    let s : Host := ⟨⟨.fresh [['r']], [⟨0, 0, .stderr⟩], 1, "", [], "", "", fun _ _ => default⟩, []⟩
    let second : LogConfig := ⟨.info, [.stdout, .file "." 0 r]⟩
    ∃ (s' : Host) (k : LogHandle),
      s.run ([.install ⟨.warn, [.stdout]⟩] ++ .install second ::
        [.shutdown 0, .log "T" ⟨.error, "m"⟩]) = .ok s' ∧
      s'.handles.getLast? = some k ∧ k.Owns s'.logger := by
  intro r s second
  obtain ⟨s', hs'⟩ := exists_of_isOk (x := s.run ([.install ⟨.warn, [.stdout]⟩] ++
    .install second :: [.shutdown 0, .log "T" ⟨.error, "m"⟩])) (by decide +kernel)
  obtain ⟨-, -, k, -, -, hk, howns, -⟩ := handlers_of_newest_handle rfl rfl (by decide) hs'
  exact ⟨s', k, hs', hk, howns⟩

end Host

end ProfilerBootstrap

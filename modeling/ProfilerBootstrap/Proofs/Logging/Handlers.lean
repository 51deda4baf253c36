import ProfilerBootstrap.Logging.Logger

namespace ProfilerBootstrap

def HandlerSink.target? : HandlerSink → Option LogTarget
  | .stdout => some .stdout
  | .file _ => some .file
  | .capture | .stderr => none

/-- What stays the same of a handler while it writes. -/
def Handler.identity (k : Handler) : Nat × Option LogTarget := (k.id, k.sink.target?)

namespace Logger

def identities (l : Logger) : List (Nat × Option LogTarget) := l.handlers.map Handler.identity

theorem map_fst_identities (l : Logger) : l.identities.map (·.1) = l.handlers.map (·.id) := by
  simp [identities, Handler.identity, Function.comp_def]

theorem exists_target_iff (l : Logger) (t : LogTarget) :
    (∃ k ∈ l.handlers, k.sink.target? = some t) ↔ ∃ p ∈ l.identities, p.2 = some t := by
  constructor
  · rintro ⟨k, hk, ht⟩
    exact ⟨k.identity, List.mem_map_of_mem hk, ht⟩
  · rintro ⟨p, hp, ht⟩
    obtain ⟨k, hk, rfl⟩ := List.mem_map.1 hp
    exact ⟨k, hk, ht⟩

theorem identities_eq_nil_iff (l : Logger) : l.identities = [] ↔ l.handlers = [] := by
  simp [identities]

theorem identity_handle (l : Logger) (k : Handler) (r : LogRecord) :
    (l.handle k r).2.identity = k.identity := by
  obtain ⟨id, threshold, sink⟩ := k
  unfold handle
  split
  · rfl
  · cases sink <;> rfl

theorem nextId_handle (l : Logger) (k : Handler) (r : LogRecord) :
    (l.handle k r).1.nextId = l.nextId := by
  obtain ⟨id, threshold, sink⟩ := k
  unfold handle
  split
  · rfl
  · cases sink <;> rfl

theorem clock_handle (l : Logger) (k : Handler) (r : LogRecord) :
    (l.handle k r).1.clock = l.clock := by
  obtain ⟨id, threshold, sink⟩ := k
  unfold handle
  split
  · rfl
  · cases sink <;> rfl

theorem handleAll_cons (l : Logger) (r : LogRecord) (k : Handler) (ks : List Handler) :
    l.handleAll r (k :: ks) = (((l.handle k r).1.handleAll r ks).1,
      (l.handle k r).2 :: ((l.handle k r).1.handleAll r ks).2) := rfl

theorem identities_handleAll (l : Logger) (r : LogRecord) (ks : List Handler) :
    (l.handleAll r ks).2.map Handler.identity = ks.map Handler.identity := by
  induction ks generalizing l with
  | nil => rfl
  | cons k ks ih =>
    rw [handleAll_cons, List.map_cons, List.map_cons, identity_handle, ih]

theorem nextId_handleAll (l : Logger) (r : LogRecord) (ks : List Handler) :
    (l.handleAll r ks).1.nextId = l.nextId := by
  induction ks generalizing l with
  | nil => rfl
  | cons k ks ih => rw [handleAll_cons, ih, nextId_handle]

theorem identities_emit (l : Logger) (r : LogRecord) : (l.emit r).identities = l.identities :=
  identities_handleAll l r l.handlers

theorem nextId_emit (l : Logger) (r : LogRecord) : (l.emit r).nextId = l.nextId :=
  nextId_handleAll l r l.handlers

theorem clock_handleAll (l : Logger) (r : LogRecord) (ks : List Handler) :
    (l.handleAll r ks).1.clock = l.clock := by
  induction ks generalizing l with
  | nil => rfl
  | cons k ks ih => rw [handleAll_cons, ih, clock_handle]

theorem clock_emitAll (l : Logger) (rs : List LogRecord) : (l.emitAll rs).clock = l.clock := by
  induction rs generalizing l with
  | nil => rfl
  | cons r rs ih => exact (ih (l.emit r)).trans (clock_handleAll l r l.handlers)

theorem nextId_emitAll (l : Logger) (rs : List LogRecord) : (l.emitAll rs).nextId = l.nextId := by
  induction rs generalizing l with
  | nil => rfl
  | cons r rs ih => exact (ih (l.emit r)).trans (nextId_emit l r)

theorem handlers_openSink (l : Logger) (k : LogSink) : (l.openSink k).1.handlers = l.handlers := by
  cases k <;> rfl

theorem nextId_openSink (l : Logger) (k : LogSink) : (l.openSink k).1.nextId = l.nextId := by
  cases k <;> rfl

theorem target_openSink {l l' : Logger} {k : LogSink} {opened : HandlerSink}
    (h : l.openSink k = (l', .ok opened)) : opened.target? = some k.target := by
  cases k with
  | stdout =>
    obtain ⟨-, rfl⟩ := by simpa [openSink] using h
    rfl
  | file path maxSize roller =>
    have hmap := congrArg Prod.snd h
    simp only [openSink] at hmap
    cases hopen : (LogFile.open? l.fs (l.clock l.nextId 0).time path).2 with
    | error e => simp [hopen, Except.map] at hmap
    | ok f =>
      simp only [hopen, Except.map, Except.ok.injEq] at hmap
      rw [← hmap]
      rfl

theorem identities_add (l : Logger) (threshold : Nat) (k : HandlerSink) :
    (l.add threshold k).identities = l.identities ++ [(l.nextId, k.target?)] := by
  simp [identities, add, Handler.identity]

theorem addAll_cons_ok {l l' : Logger} {k : LogSink} {s : Severity}
    {rest : List (LogSink × Severity)} {ids : List Nat}
    (h : l.addAll ((k, s) :: rest) = (l', .ok ids)) :
    ∃ m opened more, l.openSink k = (m, .ok opened) ∧
      (m.add s.number opened).addAll rest = (l', .ok more) ∧ ids = m.nextId :: more := by
  rw [addAll.eq_2] at h
  split at h
  · simp at h
  · rename_i m opened hopen
    cases hrest : (m.add s.number opened).addAll rest with
    | mk m' r =>
      cases r with
      | error e => simp [hrest, Except.map] at h
      | ok more =>
        simp only [hrest, Except.map, Prod.mk.injEq, Except.ok.injEq] at h
        obtain ⟨rfl, rfl⟩ := h
        exact ⟨m, opened, more, hopen, hrest, rfl⟩

/-- The numbers are given out one after the other, each to a handler for its sink. -/
theorem addAll_ok {l l' : Logger} {hs : List (LogSink × Severity)} {ids : List Nat}
    (h : l.addAll hs = (l', .ok ids)) :
    ids = List.range' l.nextId hs.length ∧ l'.nextId = l.nextId + hs.length ∧
      l'.identities = l.identities ++ ids.zip (hs.map fun k => some k.1.target) := by
  induction hs generalizing l ids with
  | nil =>
    obtain ⟨rfl, rfl⟩ := by simpa [addAll] using h
    simp
  | cons k rest ih =>
    obtain ⟨sink, s⟩ := k
    obtain ⟨m, opened, more, hopen, hrest, rfl⟩ := addAll_cons_ok h
    have hm : m.nextId = l.nextId := by
      have hn := nextId_openSink l sink
      rwa [hopen] at hn
    have hidm : m.identities = l.identities := by
      have hn := handlers_openSink l sink
      rw [hopen] at hn
      exact congrArg (List.map Handler.identity) hn
    obtain ⟨hmore, hnext, hids⟩ := ih hrest
    have hadd : (m.add s.number opened).nextId = l.nextId + 1 := congrArg (· + 1) hm
    rw [identities_add, hidm, hm, target_openSink hopen] at hids
    rw [hadd] at hmore hnext
    refine ⟨?_, ?_, ?_⟩
    · rw [hmore, hm, List.length_cons, List.range'_succ]
    · rw [hnext, List.length_cons]
      omega
    · rw [hids, hm, List.append_assoc]
      rfl

theorem nextId_le_addAll (l : Logger) (hs : List (LogSink × Severity)) :
    l.nextId ≤ (l.addAll hs).1.nextId := by
  induction hs generalizing l with
  | nil => exact Nat.le_refl _
  | cons k rest ih =>
    obtain ⟨sink, s⟩ := k
    have hopen := nextId_openSink l sink
    rw [addAll.eq_2]
    split
    · rename_i m e hm
      rw [hm] at hopen
      exact Nat.le_trans (Nat.le_of_eq hopen.symm) (Nat.le_succ _)
    · rename_i m opened hm
      rw [hm] at hopen
      have hadd : (m.add s.number opened).nextId = l.nextId + 1 := congrArg (· + 1) hopen
      have h := ih (m.add s.number opened)
      exact Nat.le_trans (by omega) h

theorem configure_ok {l l' : Logger} {hs : List (LogSink × Severity)} {ids : List Nat}
    (h : l.configure hs = (l', .ok ids)) :
    ids = List.range' l.nextId hs.length ∧ l'.nextId = l.nextId + hs.length ∧
      l'.identities = ids.zip (hs.map fun k => some k.1.target) := by
  simpa [removeAll, identities] using addAll_ok h

theorem nextId_le_configure (l : Logger) (hs : List (LogSink × Severity)) :
    l.nextId ≤ (l.configure hs).1.nextId :=
  nextId_le_addAll l.removeAll hs

theorem handlers_shutdown (h : LogHandle) (l : Logger) :
    (h.shutdown l).2.handlers = l.handlers.filter fun k => !h.handlerIds.contains k.id := by
  suffices ∀ ids : List Nat, (ids.foldl remove l).handlers =
      l.handlers.filter fun k => !ids.contains k.id from this h.handlerIds
  intro ids
  induction ids generalizing l with
  | nil => exact (List.filter_eq_self.2 fun _ _ => rfl).symm
  | cons id ids ih =>
    rw [List.foldl_cons, ih, remove, List.filter_filter]
    congr 1
    funext k
    simp [Bool.and_comm]

end Logger

namespace LogConfig

theorem mem_targets (c : LogConfig) (t : LogTarget) :
    t ∈ c.targets ↔ ∃ k ∈ c.sinks, k.target = t := by
  cases t <;> simp [targets, LogTarget.all]

theorem logFile_eq_none_iff (c : LogConfig) : c.logFile = none ↔ .file ∉ c.targets := by
  rw [mem_targets, logFile, List.findSome?_eq_none_iff]
  constructor
  · rintro h ⟨k, hk, ht⟩
    cases k with
    | stdout => simp [LogSink.target] at ht
    | file path maxSize roller => simpa using h _ hk
  · intro h k hk
    cases k with
    | stdout => rfl
    | file path maxSize roller => exact absurd ⟨_, hk, rfl⟩ h

theorem handlers_of_ne_nil {c : LogConfig} (h : c.handlers ≠ []) :
    c.level ≠ .off ∧ ∃ s, c.handlers = c.sinks.map (·, s) := by
  unfold handlers at h ⊢
  cases hs : c.level.severity? with
  | none => simp [hs] at h
  | some s =>
    refine ⟨fun hl => ?_, s, rfl⟩
    simp [hl, Level.severity?] at hs

end LogConfig

/-- A handle owns the handlers of a logger: they are the ones that it names, and what it tells of
logging is true of them. -/
structure LogHandle.Owns (h : LogHandle) (l : Logger) : Prop where
  ids : l.handlers.map (·.id) = h.handlerIds
  nodup : h.handlerIds.Nodup
  logging : h.isLogging = true ↔ l.handlers ≠ []
  targets : ∀ t, t ∈ h.activeTargets ↔ ∃ k ∈ l.handlers, k.sink.target? = some t

namespace LogHandle

theorem Owns.congr {h : LogHandle} {l l' : Logger} (ho : h.Owns l)
    (hl : l'.identities = l.identities) : h.Owns l' where
  ids := by rw [← Logger.map_fst_identities, hl, Logger.map_fst_identities, ho.ids]
  nodup := ho.nodup
  logging := by
    rw [ho.logging, ne_eq, ne_eq, ← Logger.identities_eq_nil_iff, ← Logger.identities_eq_nil_iff, hl]
  targets t := by rw [ho.targets, Logger.exists_target_iff, Logger.exists_target_iff, hl]

/-- What a new handle tells is true of the handlers that were added for it. -/
theorem owns_ofConfig {c : LogConfig} {l l' : Logger} {ids : List Nat}
    (h : l.configure c.handlers = (l', .ok ids)) : (ofConfig c ids).Owns l' := by
  obtain ⟨hids, -, hl⟩ := Logger.configure_ok h
  by_cases hempty : c.handlers = []
  · have hnil : l'.handlers = [] := by
      rw [← Logger.identities_eq_nil_iff, hl, hempty]
      simp
    refine ⟨?_, ?_, ?_, fun t => ?_⟩ <;> simp_all [ofConfig, isLogging]
  · obtain ⟨hlevel, s, hsome⟩ := LogConfig.handlers_of_ne_nil hempty
    have hfst : l'.handlers.map (·.id) = ids := by
      rw [← l'.map_fst_identities, hl, List.map_fst_zip (by simp [hids])]
    have hsnd : l'.identities.map (·.2) = c.sinks.map (some ·.target) := by
      rw [hl, List.map_snd_zip (by simp [hids]), hsome, List.map_map]
      rfl
    have htargets : ∀ t, t ∈ c.targets ↔ ∃ k ∈ l'.handlers, k.sink.target? = some t := by
      intro t
      have hmem : some t ∈ l'.identities.map (·.2) ↔ ∃ k ∈ c.sinks, k.target = t := by
        rw [hsnd]
        simp
      rw [Logger.exists_target_iff, c.mem_targets, ← hmem]
      simp
    have hof : ofConfig c ids = ⟨c.level, c.targets, c.logFile, ids⟩ := by
      simp [ofConfig, hempty]
    rw [hof]
    refine ⟨hfst, hids ▸ List.nodup_range', ?_, htargets⟩
    -- a configuration that has handlers has sinks, and so targets
    have hsinks : c.sinks ≠ [] := fun hn => hempty (by rw [hsome, hn]; rfl)
    obtain ⟨k, hk⟩ := List.exists_mem_of_ne_nil _ hsinks
    have hne : c.targets ≠ [] := List.ne_nil_of_mem ((c.mem_targets k.target).2 ⟨k, hk, rfl⟩)
    obtain ⟨k', hk', -⟩ := (htargets k.target).1 ((c.mem_targets k.target).2 ⟨k, hk, rfl⟩)
    simp [isLogging, hlevel, hne, List.ne_nil_of_mem hk']

theorem logFile_ofConfig (c : LogConfig) (ids : List Nat) :
    (ofConfig c ids).logFile = none ↔ .file ∉ (ofConfig c ids).activeTargets := by
  unfold ofConfig
  split
  · simp
  · exact c.logFile_eq_none_iff

theorem handlerIds_ofConfig (c : LogConfig) (ids : List Nat) :
    (ofConfig c ids).handlerIds = ids := by
  unfold ofConfig
  split <;> rfl

theorem nextId_shutdown (h : LogHandle) (l : Logger) : (h.shutdown l).2.nextId = l.nextId := by
  suffices ∀ ids : List Nat, (ids.foldl Logger.remove l).nextId = l.nextId from this h.handlerIds
  intro ids
  induction ids generalizing l with
  | nil => rfl
  | cons id ids ih => exact ih (l.remove id)

/-- After its shutdown a handle owns nothing more, and nothing is left of what it owned. -/
theorem Owns.shutdown {h : LogHandle} {l : Logger} (ho : h.Owns l) :
    (h.shutdown l).1.Owns (h.shutdown l).2 := by
  have hnil : (h.shutdown l).2.handlers = [] := by
    rw [Logger.handlers_shutdown, List.filter_eq_nil_iff]
    intro k hk
    have hid : k.id ∈ h.handlerIds := ho.ids ▸ List.mem_map_of_mem hk
    simpa using hid
  refine ⟨?_, ?_, ?_, fun t => ?_⟩
  · rw [hnil]
    rfl
  · exact .nil
  · rw [hnil]
    simp [LogHandle.shutdown, isLogging]
  · rw [hnil]
    simp [LogHandle.shutdown]

end LogHandle

namespace LogConfig

/-- What a configuration that was installed leaves behind: handlers of that configuration, or of the
one without the file. -/
theorem install_ok {c : LogConfig} {l l' : Logger} {h : LogHandle}
    (hi : c.install l = (l', .ok h)) :
    ∃ (c' : LogConfig) (ids : List Nat) (m m' : Logger), (c' = c ∨ c' = c.without .file) ∧
      l.nextId ≤ m.nextId ∧ m.configure c'.handlers = (m', .ok ids) ∧
      h = .ofConfig c' ids ∧ l'.identities = m'.identities ∧ l'.nextId = m'.nextId := by
  unfold install at hi
  split at hi
  · rename_i m ids hm
    obtain ⟨rfl, rfl⟩ := by simpa using hi
    exact ⟨c, ids, l, m, .inl rfl, Nat.le_refl _, hm, rfl, rfl, rfl⟩
  · rename_i m r hm
    have hle := Logger.nextId_le_configure l c.handlers
    rw [hm] at hle
    simp only at hi
    split at hi
    · simp at hi
    · rename_i m' ids hm'
      simp only [Prod.mk.injEq, Except.ok.injEq] at hi
      obtain ⟨rfl, rfl⟩ := hi
      exact ⟨c.without .file, ids, m, m', .inr rfl, hle, hm', rfl, Logger.identities_emit ..,
        Logger.nextId_emit ..⟩
  · simp at hi

/-- A handle that was given for a configuration owns the logger; its handlers are new ones, and it
has a log file where the file is one of its targets. -/
theorem install_spec {c : LogConfig} {l l' : Logger} {h : LogHandle}
    (hi : c.install l = (l', .ok h)) :
    h.Owns l' ∧ (h.logFile = none ↔ .file ∉ h.activeTargets) ∧ l.nextId ≤ l'.nextId ∧
      ∀ id ∈ h.handlerIds, l.nextId ≤ id ∧ id < l'.nextId := by
  obtain ⟨c', ids, m, m', -, hle, hconf, rfl, hl, hnext⟩ := install_ok hi
  obtain ⟨hids, hm', -⟩ := Logger.configure_ok hconf
  refine ⟨(LogHandle.owns_ofConfig hconf).congr hl, LogHandle.logFile_ofConfig c' ids, by omega, ?_⟩
  intro id hid
  rw [LogHandle.handlerIds_ofConfig, hids, List.mem_range'_1] at hid
  omega

end LogConfig

theorem Logger.initialise_ok {l l' : Logger} {env : Environment} {p : Platform} {process : String}
    {pid : Int} {system : Option String} {h : LogHandle}
    (hi : l.initialise env p process pid system = (l', .ok h)) :
    ∃ (c : LogConfig) (m : Logger), l.nextId ≤ m.nextId ∧ c.install m = (l', .ok h) := by
  simp only [initialise] at hi
  split at hi
  · simp at hi
  · rename_i c hc
    split at hi
    · rename_i m k hk
      simp only [Prod.mk.injEq, Except.ok.injEq] at hi
      obtain ⟨rfl, rfl⟩ := hi
      refine ⟨c, _, ?_, hk⟩
      rw [nextId_emitAll]
      exact Nat.le_of_eq (nextId_emitAll ..).symm
    · simp at hi

end ProfilerBootstrap

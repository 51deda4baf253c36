import ProfilerBootstrap.Process
import ProfilerBootstrap.Proofs.Variables

namespace ProfilerBootstrap

theorem Environment.records_readBool (env : Environment) (key : String) (default : Bool) :
    ((env.readBool key default).records = [] ↔
      ∃ raw b, env.get? key = some raw ∧ TruthText b raw) ∧
    (env.readBool key default).records.length ≤ 1 ∧
    ∀ r ∈ (env.readBool key default).records, r.severity = .info := by
  have hone (message : String) : (Logged.info message).records ++ [] ≠ [] ∧
      ((Logged.info message).records ++ []).length ≤ 1 ∧
      ∀ r ∈ (Logged.info message).records ++ [], r.severity = .info :=
    ⟨List.cons_ne_nil _ _, Nat.le_refl 1, by simp [Logged.info, Logged.write]⟩
  unfold readBool
  cases hraw : env.get? key with
  | none => exact ⟨iff_of_false (hone _).1 (by simp), (hone _).2⟩
  | some raw =>
    simp only
    cases hb : parseBool? raw with
    | none =>
      refine ⟨iff_of_false (hone _).1 fun ⟨raw', b, h, htext⟩ => ?_, (hone _).2⟩
      cases h
      rw [parseBool?_eq_some_iff.2 htext] at hb
      cases hb
    | some b =>
      exact ⟨iff_of_true rfl ⟨raw, b, rfl, parseBool?_eq_some_iff.1 hb⟩, Nat.zero_le 1, nofun⟩

theorem Settings.records_read (env : Environment) (flags : Flags) (inlining : Bool)
    (directory : LogDirectory.Resolution) : (read env flags inlining directory).records =
      (env.logLevel .warn).records ++ (flags.logIl.read env).records ++
        (flags.callTarget.read env).records ++
        ((env.enableInlining inlining).records ++ env.disableOptimizations.records) := by
  unfold read
  simp only [Logged.records_bind, Logged.records_pure, List.append_nil, List.append_assoc]

namespace Flag

theorem read_of_resolved {f : Flag} {b : Bool} (h : f.value? = some b) (env : Environment) :
    f.read env = pure (b, f) := by
  unfold read
  rw [h]

theorem read_of_unresolved {f : Flag} (h : f.value? = none) (env : Environment) :
    f.read env = ⟨((env.readBool f.key f.default).value,
      { f with value? := some (env.readBool f.key f.default).value }),
      (env.readBool f.key f.default).records⟩ := by
  unfold read
  rw [h]
  exact congrArg (Logged.mk _) (List.append_nil _)

theorem value?_read (f : Flag) (env : Environment) :
    (f.read env).value.2.value? = some (f.read env).value.1 := by
  cases h : f.value? with
  | none => rw [read_of_unresolved h]
  | some b =>
    rw [read_of_resolved h]
    exact h

theorem records_read_read (f : Flag) (env env' : Environment) :
    ((f.read env).value.2.read env').records = [] := by
  rw [read_of_resolved (value?_read f env)]
  rfl

end Flag

namespace Process

theorem flags_setFlag (s : Process) (f : FlagName) (flag : Flag) (g : FlagName) :
    (s.setFlag f flag).flags g = if g = f then flag else s.flags g := rfl

@[simp] theorem env_setFlag (s : Process) (f : FlagName) (flag : Flag) :
    (s.setFlag f flag).env = s.env := rfl

theorem step_setVariable (s : Process) (name value : String) :
    (s.step (.setVariable name value)).1.flags = s.flags ∧
      (s.step (.setVariable name value)).2.records = [] := by
  unfold step
  dsimp only
  cases s.env.set name value <;> exact ⟨rfl, rfl⟩

section
variable {s : Process} {p : Platform} {system : Option String} {fs : FileSystem}
  {records : List LogRecord}

theorem step_loadSettings_error {e : FileSystem.Error}
    (h : LogDirectory.resolve s.env s.fs p system = (fs, ⟨.error e, records⟩)) (inlining : Bool) :
    s.step (.loadSettings p inlining system) =
      ({ s with fs := fs }, ⟨.settings (.error e), records⟩) := by
  unfold step Settings.load
  dsimp only
  rw [h]

theorem step_loadSettings_ok {directory : LogDirectory.Resolution}
    (h : LogDirectory.resolve s.env s.fs p system = (fs, ⟨.ok directory, records⟩))
    (inlining : Bool) : s.step (.loadSettings p inlining system) =
      (({ s with fs := fs }.setFlag .logIl ((s.flags .logIl).read s.env).value.2).setFlag
          .callTarget ((s.flags .callTarget).read s.env).value.2,
        let found := Settings.read s.env ⟨s.flags .logIl, s.flags .callTarget⟩ inlining directory
        ⟨.settings (.ok found.value.1), records ++ found.records⟩) := by
  unfold step Settings.load
  dsimp only
  rw [h]
  rfl

theorem records_loadSettings {directory : LogDirectory.Resolution}
    (h : LogDirectory.resolve s.env s.fs p system = (fs, ⟨.ok directory, records⟩))
    (inlining : Bool) : (s.step (.loadSettings p inlining system)).2.records =
      (records ++ (s.env.logLevel .warn).records) ++ ((s.flags .logIl).read s.env).records ++
        ((s.flags .callTarget).read s.env).records ++
        ((s.env.enableInlining inlining).records ++ s.env.disableOptimizations.records) := by
  rw [step_loadSettings_ok h]
  simp only [Settings.records_read, List.append_assoc]

end

namespace Event

def reading (e : Event) (f : FlagName) : Logged (Bool × Flag) :=
  (e.process.flags f).read e.process.env

def ownRecords (e : Event) (f : FlagName) : List LogRecord :=
  if e.uses f then (e.reading f).records else []

/-- The same step of a process where the flag has been resolved just before. -/
def resolved (e : Event) (f : FlagName) : Event :=
  ⟨e.process.setFlag f (e.reading f).value.2, e.step⟩

theorem uses_useFlag (s : Process) (g f : FlagName) :
    (⟨s, .useFlag g⟩ : Event).uses f = decide (g = f) := by
  show (if g = f then some ((s.flags g).read s.env).value.1 else none).isSome = decide (g = f)
  by_cases hg : g = f
  · rw [if_pos hg, decide_eq_true hg]
    rfl
  · rw [if_neg hg, decide_eq_false hg]
    rfl

theorem uses_loadSettings {s : Process} {p : Platform} {system : Option String}
    {fs : FileSystem} {records : List LogRecord} {directory : LogDirectory.Resolution}
    (h : LogDirectory.resolve s.env s.fs p system = (fs, ⟨.ok directory, records⟩))
    (inlining : Bool) (f : FlagName) : (⟨s, .loadSettings p inlining system⟩ : Event).uses f =
      match f with
      | .logIl | .callTarget => true
      | .own _ => false := by
  simp only [uses, value?, answer, step_loadSettings_ok h]
  cases f <;> rfl

/-- An event that uses a flag reads it; any other leaves it as it is. -/
theorem uses_cases (e : Event) (f : FlagName) :
    (e.value? f = none ∧ e.after.flags f = e.process.flags f) ∨
      (e.value? f = some (e.reading f).value.1 ∧ e.after.flags f = (e.reading f).value.2) := by
  obtain ⟨s, st⟩ := e
  cases st with
  | setVariable name value =>
    left
    exact ⟨rfl, congrFun (step_setVariable s name value).1 f⟩
  | unsetVariable name => exact .inl ⟨rfl, rfl⟩
  | loadVariables p path => exact .inl ⟨rfl, rfl⟩
  | showFlag g => exact .inl ⟨rfl, rfl⟩
  | useFlag g =>
    by_cases hg : f = g
    · subst hg
      exact .inr ⟨if_pos rfl, if_pos rfl⟩
    · exact .inl ⟨if_neg (Ne.symm hg), if_neg hg⟩
  | loadSettings p inlining system =>
    rcases h : LogDirectory.resolve s.env s.fs p system with ⟨fs, ⟨e | directory, records⟩⟩
    · left
      simp only [value?, after, answer, step_loadSettings_error h]
      exact ⟨trivial, trivial⟩
    · simp only [value?, after, answer, step_loadSettings_ok h]
      cases f with
      | logIl => exact .inr ⟨rfl, rfl⟩
      | callTarget => exact .inr ⟨rfl, rfl⟩
      | own n => exact .inl ⟨rfl, rfl⟩

theorem uses_eq_false_iff {e : Event} {f : FlagName} : e.uses f = false ↔ e.value? f = none :=
  Option.isSome_eq_false_iff.trans Option.isNone_iff_eq_none

theorem flags_of_uses_eq_false {e : Event} {f : FlagName} (h : e.uses f = false) :
    e.after.flags f = e.process.flags f := by
  rcases e.uses_cases f with ⟨-, hflag⟩ | ⟨hvalue, -⟩
  · exact hflag
  · rw [uses_eq_false_iff.1 h] at hvalue
    cases hvalue

theorem of_uses {e : Event} {f : FlagName} (h : e.uses f = true) :
    e.value? f = some (e.reading f).value.1 ∧ e.after.flags f = (e.reading f).value.2 := by
  rcases e.uses_cases f with ⟨hvalue, -⟩ | hread
  · rw [uses_eq_false_iff.2 hvalue] at h
    cases h
  · exact hread

theorem ownRecords_of_uses_eq_false {e : Event} {f : FlagName} (h : e.uses f = false) :
    e.ownRecords f = [] := by
  rw [ownRecords, h, if_neg Bool.false_ne_true]

theorem answer_resolved (s : Process) (st : Step) (f : FlagName) :
    (resolved ⟨s, st⟩ f).answer =
      ((s.setFlag f ((s.flags f).read s.env).value.2).step st).2 := rfl

theorem records_split_loadSettings {s : Process} {p : Platform} {inlining : Bool}
    {system : Option String} {fs : FileSystem} {records : List LogRecord}
    {directory : LogDirectory.Resolution}
    (h : LogDirectory.resolve s.env s.fs p system = (fs, ⟨.ok directory, records⟩))
    (f : FlagName) : ∃ before after,
    (answer ⟨s, .loadSettings p inlining system⟩).records =
        before ++ ownRecords ⟨s, .loadSettings p inlining system⟩ f ++ after ∧
      (resolved ⟨s, .loadSettings p inlining system⟩ f).answer.records = before ++ after := by
  obtain ⟨flag, hflag⟩ : ∃ flag, ((s.flags f).read s.env).value.2 = flag := ⟨_, rfl⟩
  have hread : (flag.read s.env).records = [] := hflag ▸ Flag.records_read_read _ _ _
  have h' : LogDirectory.resolve (s.setFlag f flag).env (s.setFlag f flag).fs p system =
      (fs, ⟨.ok directory, records⟩) := h
  have huses := uses_loadSettings h inlining f
  rw [answer_resolved, hflag, records_loadSettings h', answer, records_loadSettings h]
  simp only [flags_setFlag, env_setFlag]
  cases f with
  | logIl =>
    refine ⟨records ++ (s.env.logLevel .warn).records,
      ((s.flags .callTarget).read s.env).records ++
        ((s.env.enableInlining inlining).records ++ s.env.disableOptimizations.records), ?_, ?_⟩
    · rw [ownRecords, if_pos huses, reading]
      simp only [List.append_assoc]
    · rw [if_pos rfl, hread, if_neg nofun]
      simp only [List.append_assoc, List.append_nil]
  | callTarget =>
    refine ⟨records ++ (s.env.logLevel .warn).records ++ ((s.flags .logIl).read s.env).records,
      (s.env.enableInlining inlining).records ++ s.env.disableOptimizations.records, ?_, ?_⟩
    · rw [ownRecords, if_pos huses, reading]
    · rw [if_neg nofun, if_pos rfl, hread, List.append_nil]
  | own n =>
    rw [if_neg nofun, if_neg nofun, ownRecords_of_uses_eq_false huses]
    exact ⟨_, [], by rw [List.append_nil, List.append_nil], (List.append_nil _).symm⟩

/-- The records of an event are its own records of a flag amid those that would be logged had the
flag been resolved before. -/
theorem records_split (e : Event) (f : FlagName) : ∃ before after,
    e.answer.records = before ++ e.ownRecords f ++ after ∧
      (e.resolved f).answer.records = before ++ after := by
  have hsame (hno : e.uses f = false) (h : (e.resolved f).answer.records = e.answer.records) :
      ∃ before after, e.answer.records = before ++ e.ownRecords f ++ after ∧
        (e.resolved f).answer.records = before ++ after :=
    ⟨e.answer.records, [], by simp [ownRecords_of_uses_eq_false hno], by simp [h]⟩
  obtain ⟨s, st⟩ := e
  cases st with
  | setVariable name value =>
    refine hsame rfl ?_
    exact (step_setVariable _ name value).2.trans (step_setVariable s name value).2.symm
  | unsetVariable name => exact hsame rfl rfl
  | loadVariables p path => exact hsame rfl rfl
  | showFlag g => exact hsame rfl rfl
  | useFlag g =>
    by_cases hg : g = f
    · subst hg
      refine ⟨[], [], ?_, ?_⟩
      · rw [ownRecords, uses_useFlag, if_pos (decide_eq_true rfl), List.append_nil]
        rfl
      · show (((s.setFlag g _).flags g).read s.env).records = []
        rw [flags_setFlag, if_pos rfl]
        exact Flag.records_read_read _ _ _
    · refine hsame ((uses_useFlag s g f).trans (decide_eq_false hg)) ?_
      show (((s.setFlag f _).flags g).read s.env).records = ((s.flags g).read s.env).records
      rw [flags_setFlag, if_neg hg]
  | loadSettings p inlining system =>
    rcases h : LogDirectory.resolve s.env s.fs p system with ⟨fs, ⟨e | directory, records⟩⟩
    · have hno : (⟨s, .loadSettings p inlining system⟩ : Event).uses f = false := by
        rw [uses_eq_false_iff, value?, answer, step_loadSettings_error h]
      refine hsame hno ?_
      have h' (flag : Flag) : LogDirectory.resolve (s.setFlag f flag).env (s.setFlag f flag).fs p
          system = (fs, ⟨.error e, records⟩) := h
      rw [answer_resolved, step_loadSettings_error (h' _), answer, step_loadSettings_error h]
    · exact records_split_loadSettings h f

theorem isResolved_after (e : Event) (f : FlagName) :
    (e.after.flags f).isResolved = ((e.process.flags f).isResolved || e.uses f) := by
  cases huses : e.uses f with
  | false => rw [flags_of_uses_eq_false huses, Bool.or_false]
  | true =>
    rw [(of_uses huses).2, Flag.isResolved, reading, Flag.value?_read, Bool.or_true]
    rfl

theorem of_resolved {e : Event} {f : FlagName} {b : Bool}
    (h : (e.process.flags f).value? = some b) :
    e.after.flags f = e.process.flags f ∧ (∀ c, e.value? f = some c → c = b) ∧
      e.ownRecords f = [] := by
  have hreading : e.reading f = pure (b, e.process.flags f) := Flag.read_of_resolved h _
  cases huses : e.uses f with
  | false =>
    refine ⟨flags_of_uses_eq_false huses, fun c hc => ?_, ownRecords_of_uses_eq_false huses⟩
    rw [uses_eq_false_iff.1 huses] at hc
    cases hc
  | true =>
    refine ⟨?_, fun c hc => ?_, ?_⟩
    · rw [(of_uses huses).2, hreading]
      rfl
    · rw [(of_uses huses).1, hreading] at hc
      exact (Option.some.inj hc).symm
    · rw [ownRecords, if_pos huses, hreading]
      rfl

end Event

section
variable {s : Process} {steps : List Step} {f : FlagName}

/-- What comes before an event is a run of its own. -/
theorem run_until {before after : List Event} {e : Event}
    (h : (s.run steps).2 = before ++ e :: after) :
    ∃ first, s.run first = (e.process, before) := by
  induction steps generalizing s before with
  | nil => simp [run] at h
  | cons st rest ih =>
    cases before with
    | nil =>
      obtain ⟨rfl, -⟩ := List.cons.inj h
      exact ⟨[], rfl⟩
    | cons d before =>
      obtain ⟨rfl, hrest⟩ := List.cons.inj h
      obtain ⟨first, hfirst⟩ := ih hrest
      exact ⟨st :: first, by rw [run, hfirst]⟩

theorem isResolved_run (s : Process) (steps : List Step) (f : FlagName) :
    ((s.run steps).1.flags f).isResolved =
      ((s.flags f).isResolved || (s.run steps).2.any (·.uses f)) := by
  induction steps generalizing s with
  | nil => exact (Bool.or_false _).symm
  | cons st rest ih =>
    show (((Event.after ⟨s, st⟩).run rest).1.flags f).isResolved = _
    rw [ih, Event.isResolved_after, Bool.or_assoc]
    rfl

theorem flags_run_of_resolved {b : Bool} (h : (s.flags f).value? = some b) :
    ∀ e ∈ (s.run steps).2, (e.process.flags f).value? = some b := by
  induction steps generalizing s with
  | nil => nofun
  | cons st rest ih =>
    intro e he
    rcases List.mem_cons.1 he with rfl | he
    · exact h
    · refine ih ?_ e he
      rw [(Event.of_resolved (e := ⟨s, st⟩) h).1]
      exact h

/-- The first event that uses a flag finds it as it was at first. From there on the flag has the
value that was found there, and no more records are due to it. -/
theorem run_first {first : Event} (h : (s.flags f).value? = none)
    (hfirst : (s.run steps).2.find? (·.uses f) = some first) :
    first.process.flags f = s.flags f ∧
      (∀ e ∈ (s.run steps).2, ∀ b, e.value? f = some b → b = (first.reading f).value.1) ∧
      (s.run steps).2.flatMap (·.ownRecords f) = (first.reading f).records := by
  induction steps generalizing s with
  | nil => cases hfirst
  | cons st rest ih =>
    let e : Event := ⟨s, st⟩
    have hevents : (s.run (st :: rest)).2 = e :: (e.after.run rest).2 := rfl
    rw [hevents] at hfirst ⊢
    rw [List.find?_cons] at hfirst
    cases huses : e.uses f with
    | false =>
      -- the flag is as before, so that the first event is that of the rest of the run
      have hflag : e.after.flags f = s.flags f := Event.flags_of_uses_eq_false huses
      simp only [huses] at hfirst
      obtain ⟨hprocess, hvalues, hrecords⟩ := ih (hflag ▸ h) hfirst
      refine ⟨hprocess.trans hflag, fun d hd b hb => ?_, ?_⟩
      · rcases List.mem_cons.1 hd with rfl | hd
        · rw [Event.uses_eq_false_iff.1 huses] at hb
          cases hb
        · exact hvalues d hd b hb
      · rw [List.flatMap_cons, Event.ownRecords_of_uses_eq_false huses]
        exact hrecords
    | true =>
      simp only [huses] at hfirst
      obtain rfl : e = first := Option.some.inj hfirst
      have hlater : ∀ d ∈ (e.after.run rest).2,
          (d.process.flags f).value? = some (e.reading f).value.1 := by
        refine flags_run_of_resolved ?_
        rw [(Event.of_uses huses).2]
        exact Flag.value?_read _ _
      refine ⟨rfl, fun d hd b hb => ?_, ?_⟩
      · rcases List.mem_cons.1 hd with rfl | hd
        · rw [(Event.of_uses huses).1] at hb
          exact (Option.some.inj hb).symm
        · exact (Event.of_resolved (hlater d hd)).2.1 b hb
      · have hnone : (e.after.run rest).2.flatMap (·.ownRecords f) = [] :=
          List.flatMap_eq_nil_iff.2 fun d hd => (Event.of_resolved (hlater d hd)).2.2
        rw [List.flatMap_cons, hnone, List.append_nil, Event.ownRecords, if_pos huses]

end

theorem value?_start (env : Environment) (fs : FileSystem) (own : Nat → String × Bool)
    (f : FlagName) : ((start env fs own).flags f).value? = none := by
  cases f <;> rfl

/-- A flag is resolved at any time just if some event up to then has used it. Whenever it is used,
its value is what the environment says where it was used first, and over the whole run its own
records are those that were logged there: one about a variable that is missing or no truth value,
and none about one that is. What does not use a flag leaves it alone, as does the use of another
flag and looking at one. -/
theorem run_flag_once (env : Environment) (fs : FileSystem) (own : Nat → String × Bool)
    (steps : List Step) (f : FlagName) :
    let flag := (start env fs own).flags f
    let events := ((start env fs own).run steps).2
    (((start env fs own).run steps).1.flags f).isResolved = events.any (·.uses f) ∧
    (∀ before e after, events = before ++ e :: after →
      (e.process.flags f).isResolved = before.any (·.uses f)) ∧
    (∀ first, events.find? (·.uses f) = some first →
      let found := first.process.env.readBool flag.key flag.default
      (∀ e ∈ events, ∀ b, e.value? f = some b → b = found.value) ∧
      events.flatMap (·.ownRecords f) = found.records ∧
      found.records.length ≤ 1 ∧ (∀ r ∈ found.records, r.severity = .info) ∧
      (found.records = [] ↔
        ∃ raw b, first.process.env.get? flag.key = some raw ∧ TruthText b raw)) ∧
    ∀ e ∈ events,
      (e.uses f = false → e.after.flags f = e.process.flags f ∧ e.ownRecords f = []) ∧
      (∀ g, e.step = .useFlag g → e.uses f = decide (g = f) ∧
        ∃ b, e.answer.value = .value b ∧ e.value? g = some b) ∧
      (∀ g, e.step = .showFlag g → e.uses f = false ∧ e.after = e.process ∧
        e.answer = ⟨.shown (e.process.flags g).isResolved (e.process.flags g).text, []⟩) ∧
      ∃ before after, e.answer.records = before ++ e.ownRecords f ++ after ∧
        (e.resolved f).answer.records = before ++ after := by
  have hstart := value?_start env fs own f
  have hresolved (steps : List Step) : (((start env fs own).run steps).1.flags f).isResolved =
      ((start env fs own).run steps).2.any (·.uses f) := by
    rw [isResolved_run, Flag.isResolved, hstart]
    rfl
  refine ⟨hresolved steps, fun before e after h => ?_, fun first hfirst => ?_, fun e he => ?_⟩
  · obtain ⟨steps', hrun⟩ := run_until h
    have := hresolved steps'
    rwa [hrun] at this
  · obtain ⟨hflag, hvalues, hrecords⟩ := run_first hstart hfirst
    have hreading := Flag.read_of_unresolved (f := first.process.flags f) (hflag ▸ hstart)
      first.process.env
    rw [hflag] at hreading
    rw [Event.reading, hflag, hreading] at hvalues hrecords
    obtain ⟨hnone, hle, hinfo⟩ := Environment.records_readBool first.process.env
      ((start env fs own).flags f).key ((start env fs own).flags f).default
    exact ⟨hvalues, hrecords, hle, hinfo, hnone⟩
  · obtain ⟨s, st⟩ := e
    refine ⟨fun h => ⟨Event.flags_of_uses_eq_false h, Event.ownRecords_of_uses_eq_false h⟩,
      fun g hg => ?_, fun g hg => ?_, Event.records_split _ f⟩
    · obtain rfl : st = .useFlag g := hg
      exact ⟨Event.uses_useFlag s g f, _, rfl, if_pos rfl⟩
    · obtain rfl : st = .showFlag g := hg
      exact ⟨rfl, rfl, rfl⟩

/-- A flag that is looked at, set, used, set again and used again. -/
theorem run_flag_once_false :
    let s := start .empty (.fresh [[]]) fun _ => ("F", true)
    let events := (s.run [.showFlag (.own 0), .setVariable "F" "0", .useFlag (.own 0),
      .setVariable "F" "1", .useFlag (.own 0)]).2
    (∃ e ∈ events, e.value? (.own 0) = some false) ∧
      (∀ e ∈ events, ∀ b, e.value? (.own 0) = some b → b = false) ∧
      events.flatMap (·.ownRecords (.own 0)) = [] := by
  intro s events
  let third : Event := ⟨(s.run [.showFlag (.own 0), .setVariable "F" "0"]).1, .useFlag (.own 0)⟩
  have hfirst : events.find? (·.uses (.own 0)) = some third := rfl
  have hraw : third.process.env.get? "F" = some "0" := by decide +kernel
  have hfalse : (third.process.env.readBool "F" true).value = false := by decide +kernel
  obtain ⟨hvalues, hrecords, -, -, hnone⟩ :=
    (run_flag_once .empty (.fresh [[]]) (fun _ => ("F", true)) _ (.own 0)).2.2.1 third hfirst
  refine ⟨⟨third, List.mem_of_find?_eq_some hfirst, ?_⟩, fun e he b hb => ?_, ?_⟩
  · rw [← hfalse]
    rfl
  · exact (hvalues e he b hb).trans hfalse
  · exact hrecords.trans (hnone.2 ⟨"0", false, hraw, .inl rfl⟩)

end Process

end ProfilerBootstrap

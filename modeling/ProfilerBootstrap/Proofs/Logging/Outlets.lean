import ProfilerBootstrap.Proofs.Logging.Attached

namespace ProfilerBootstrap

def Handler.printsFrom? (k : Handler) : Option Nat :=
  match k.sink with
  | .stdout => some k.threshold
  | .capture | .stderr | .file _ => none

namespace Logger

def printed (now : String) (r : LogRecord) (threshold : Nat) : String :=
  if r.severity.number < threshold then "" else r.line now

def outlets (l : Logger) : List Nat := l.handlers.filterMap Handler.printsFrom?

section
variable {l l' : Logger} {r : LogRecord}

theorem handle_stdout (l : Logger) (k : Handler) (r : LogRecord) :
    (l.handle k r).2.printsFrom? = k.printsFrom? ∧
      (l.handle k r).1.stdout =
        l.stdout ++ String.join (k.printsFrom?.toList.map (printed l.now r)) := by
  obtain ⟨id, threshold, sink⟩ := k
  unfold handle
  by_cases hlow : r.severity.number < threshold
  · rw [if_pos hlow]
    cases sink <;> simp [Handler.printsFrom?, printed, hlow, String.join]
  · rw [if_neg hlow]
    cases sink <;> simp [Handler.printsFrom?, printed, hlow, String.join]

theorem handleAll_stdout (l : Logger) (r : LogRecord) (ks : List Handler) :
    (l.handleAll r ks).2.filterMap Handler.printsFrom? = ks.filterMap Handler.printsFrom? ∧
      (l.handleAll r ks).1.stdout =
        l.stdout ++ String.join ((ks.filterMap Handler.printsFrom?).map (printed l.now r)) := by
  induction ks generalizing l with
  | nil => simp [handleAll, String.join]
  | cons k ks ih =>
    obtain ⟨hk, hout⟩ := handle_stdout l k r
    obtain ⟨hks, hrest⟩ := ih (l.handle k r).1
    rw [now_handle, hout] at hrest
    rw [handleAll_cons]
    refine ⟨?_, ?_⟩
    · rw [List.filterMap_cons, List.filterMap_cons, hk, hks]
    · rw [hrest, List.filterMap_cons]
      cases k.printsFrom? with
      | none => simp [String.join]
      | some t => simp [String.append_assoc]

/-- With one handler that prints, the lines on the standard output are those of the records that are
severe enough. -/
theorem stdout_logAll {t : Nat} (h : l.outlets = [t]) (rs : List (String × LogRecord)) :
    (l.logAll rs).stdout = l.stdout ++ String.join (rs.map fun x => printed x.1 x.2 t) := by
  induction rs generalizing l with
  | nil => simp [logAll, String.join]
  | cons x rs ih =>
    obtain ⟨now, r⟩ := x
    obtain ⟨hks, hout⟩ := handleAll_stdout { l with now := now } r l.handlers
    have hone : l.handlers.filterMap Handler.printsFrom? = [t] := h
    rw [hone] at hks hout
    have hnext : ({ l with now := now }.emit r).outlets = [t] := hks
    have hemit : ({ l with now := now }.emit r).stdout =
        l.stdout ++ String.join [printed now r t] := hout
    refine (ih hnext).trans ?_
    rw [hemit]
    simp [String.append_assoc]

theorem outlets_addAll {hs : List (LogSink × Severity)} {ids : List Nat}
    (h : l.addAll hs = (l', .ok ids)) :
    l'.stdout = l.stdout ∧ l'.outlets =
      l.outlets ++ (hs.filter (·.1.target = .stdout)).map (·.2.number) := by
  induction hs generalizing l ids with
  | nil =>
    obtain ⟨rfl, -⟩ := Prod.mk.inj h
    simp
  | cons k hs ih =>
    obtain ⟨sink, s⟩ := k
    obtain ⟨m, opened, more, hopen, hrest, -⟩ := addAll_cons_ok h
    obtain ⟨hout, houtlets⟩ := ih hrest
    cases sink with
    | stdout =>
      obtain ⟨rfl, rfl⟩ : l = m ∧ HandlerSink.stdout = opened := by simpa [openSink] using hopen
      refine ⟨hout, houtlets.trans ?_⟩
      simp [outlets, add, Handler.printsFrom?, LogSink.target]
    | file path maxSize roller =>
      -- opening a log file changes nothing but the file system
      simp only [openSink] at hopen
      cases hop : LogFile.open? l.fs (l.clock l.nextId 0).time path with
      | mk fs found =>
        cases found with
        | error e => simp [hop, Except.map] at hopen
        | ok o =>
          obtain ⟨rfl, rfl⟩ : { l with fs := fs } = m ∧ HandlerSink.file
              ⟨path, maxSize, roller, some o, fun n => l.clock l.nextId (n + 1)⟩ = opened := by
            simpa [hop, Except.map] using hopen
          refine ⟨hout, houtlets.trans ?_⟩
          simp [outlets, add, Handler.printsFrom?, LogSink.target]

end

end Logger

end ProfilerBootstrap

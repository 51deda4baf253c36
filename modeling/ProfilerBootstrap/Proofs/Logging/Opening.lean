import ProfilerBootstrap.Proofs.Logging.FileName
import ProfilerBootstrap.Proofs.Logging.Frame
import ProfilerBootstrap.Proofs.Sequence

namespace ProfilerBootstrap

namespace LogFile

open FileSystem

theorem mem_of_climb {names : List Name} {n : Name} (h : n ∈ Path.climb names) : n ∈ names := by
  suffices ∀ up : List Name, n ∈ names.foldl (fun up n =>
      if n = ['.', '.'] then up.drop 1 else n :: up) up → n ∈ names ∨ n ∈ up by
    simpa using this [] (List.mem_reverse.1 h)
  clear h
  induction names with
  | nil => exact fun up h => .inr h
  | cons m names ih =>
    intro up h
    rw [List.foldl_cons] at h
    split at h
    · rcases ih _ h with h | h
      · exact .inl (List.mem_cons_of_mem _ h)
      · exact .inr (List.mem_of_mem_drop h)
    · rcases ih _ h with h | h
      · exact .inl (List.mem_cons_of_mem _ h)
      · rcases List.mem_cons.1 h with rfl | h
        · exact .inl List.mem_cons_self
        · exact .inr h

section
variable {fs : FileSystem} {t : FileName.Time} {name : String} {p : Path} {e : LogFileError}

/-- The path of a log file has no null character unless what its name stands for has one. -/
theorem hasNull_absolute {cs : List Char} (hhere : ∀ n ∈ fs.here, '\x00' ∉ n) (hcs : '\x00' ∉ cs) :
    hasNull (absolute fs cs).text = false := by
  rw [← Bool.not_eq_true, hasNull_text]
  rintro ⟨n, hn, hc⟩
  rcases List.mem_append.1 (mem_of_climb hn) with hn | hn
  · split at hn
    · exact hhere n hn hc
    · simp at hn
  · exact hcs (Path.mem_of_mem_pieces (List.mem_filter.1 hn).1 hc)

theorem refused_of_openAt (hp : hasNull p.text = false) (h : (openAt fs p).2 = .error e) :
    ∃ r, e = .files (.refused r) := by
  have hdirs := (honest_makeDirs fs p.parent).null
  have hparent : ¬ hasNull p.parent.text = true := fun h => by simp [hasNull_parent h] at hp
  have hrefused : ∀ e' : Error, e' ≠ .nullCharacter → ∃ r, e' = .refused r := by
    intro e' he'
    cases e' with
    | refused r => exact ⟨r, rfl⟩
    | nullCharacter => exact absurd rfl he'
  unfold openAt at h
  split at h
  · rename_i fs' e' hmake
    rw [hmake] at hdirs
    obtain rfl := Except.error.inj h
    obtain ⟨r, rfl⟩ := hrefused e' fun he' => hparent (hdirs (congrArg some he'))
    exact ⟨r, rfl⟩
  · rename_i fs' hmake
    split at h
    · simp at h
    · rename_i e' hopen
      obtain rfl := Except.error.inj h
      obtain ⟨r, rfl⟩ := hrefused e' fun he' => by
        rw [he', openAppend_eq_null, hp] at hopen
        simp at hopen
      exact ⟨r, rfl⟩

theorem files_of_openAt (h : (openAt fs p).2 = .error e) : ∃ e', e = .files e' := by
  unfold openAt at h
  split at h
  · exact ⟨_, (Except.error.inj h).symm⟩
  · split at h
    · simp at h
    · exact ⟨_, (Except.error.inj h).symm⟩

/-- Where the file system does not refuse to open a log file, its name is malformed, or stands for a
path with a null character. -/
theorem open?_error_iff (he : ∀ r, e ≠ .files (.refused r)) :
    (open? fs t name).2 = .error e ↔
      (∃ f, FileName.expand t name.toList = .error f ∧ e = .name f) ∨
      ∃ cs, FileName.expand t name.toList = .ok cs ∧
        (openAt fs (absolute fs cs)).2 = .error (.files .nullCharacter) ∧
        e = .files .nullCharacter := by
  cases hexpand : FileName.expand t name.toList with
  | error f =>
    have hpath : path fs t name = .error (.name f) := by rw [path, hexpand]
    rw [open?, hpath]
    simp [eq_comm]
  | ok cs =>
    have hpath : path fs t name = .ok (absolute fs cs) := by rw [path, hexpand]
    rw [open?, hpath]
    constructor
    · intro h
      obtain ⟨e', rfl⟩ := files_of_openAt h
      cases e' with
      | refused r => exact absurd rfl (he r)
      | nullCharacter => exact .inr ⟨cs, rfl, h, rfl⟩
    · rintro (⟨f, hf, -⟩ | ⟨cs', hcs, h, rfl⟩)
      · simp at hf
      · obtain rfl := Except.ok.inj hcs
        exact h

end

end LogFile

end ProfilerBootstrap

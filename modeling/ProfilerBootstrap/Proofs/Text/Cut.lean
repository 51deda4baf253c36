namespace ProfilerBootstrap.Text

theorem flatten_sublist_intercalate {α : Type} (sep : List α) (parts : List (List α)) :
    parts.flatten.Sublist (sep.intercalate parts) := by
  induction parts with
  | nil => exact .slnil
  | cons first rest ih =>
    cases rest with
    | nil => simp
    | cons second rest =>
      rw [List.intercalate_cons_cons, List.append_assoc, List.flatten_cons]
      exact (ih.trans (List.sublist_append_right sep _)).append_left first

section
variable {α : Type} [BEq α] [LawfulBEq α] {mark : α}

theorem notMem_of_mem_splitOn {text part : List α} (h : part ∈ text.splitOn mark) : mark ∉ part := by
  induction text generalizing part with
  | nil =>
    obtain rfl := List.mem_singleton.1 h
    exact List.not_mem_nil
  | cons c text ih =>
    rw [List.splitOn_cons_eq_if_modifyHead] at h
    split at h
    · obtain rfl | h := List.mem_cons.1 h
      · exact List.not_mem_nil
      · exact ih h
    · rename_i hc
      cases hparts : text.splitOn mark with
      | nil => exact absurd hparts (List.splitOn_ne_nil mark text)
      | cons first rest =>
        rw [hparts] at h ih
        obtain rfl | h := List.mem_cons.1 h
        · rw [List.mem_cons, not_or]
          exact ⟨fun heq => hc (beq_iff_eq.2 heq.symm), ih List.mem_cons_self⟩
        · exact ih (List.mem_cons_of_mem _ h)

theorem flatten_splitOn_sublist (mark : α) (text : List α) :
    (text.splitOn mark).flatten.Sublist text := by
  have hflatten := flatten_sublist_intercalate [mark] (text.splitOn mark)
  rwa [List.intercalate_splitOn] at hflatten

/-- Parts that are put together with marks between them are found again just if no mark is in them.
-/
theorem splitOn_intercalate_eq_iff {parts : List (List α)} (h : parts ≠ []) :
    ([mark].intercalate parts).splitOn mark = parts ↔ ∀ part ∈ parts, mark ∉ part := by
  refine ⟨fun hsame part hpart => ?_, fun hfree => List.splitOn_intercalate mark hfree h⟩
  rw [← hsame] at hpart
  exact notMem_of_mem_splitOn hpart

end

section
variable {c : Char} {a a' b b' : List Char}

theorem exists_of_append_eq_mark (ha : c ∉ a) (h : a ++ b = a' ++ c :: b') :
    ∃ more, a' = a ++ more ∧ b = more ++ c :: b' := by
  obtain ⟨more, ha', hb⟩ | ⟨more, ha', hb⟩ := List.append_eq_append_iff.1 h
  · exact ⟨more, ha', hb⟩
  · cases more with
    | nil => exact ⟨[], by simpa using ha'.symm, by simpa using hb.symm⟩
    | cons x more =>
      obtain ⟨rfl, -⟩ := List.cons.inj hb
      simp [ha'] at ha

/-- A text is cut in one way only before the first mark in it. -/
theorem eq_of_append_first (ha : c ∉ a) (ha' : c ∉ a') (h : a ++ c :: b = a' ++ c :: b') :
    a = a' ∧ b = b' := by
  obtain ⟨more, rfl, hb⟩ := exists_of_append_eq_mark ha h
  cases more with
  | nil => simpa using hb
  | cons x more =>
    obtain ⟨rfl, -⟩ := List.cons.inj hb
    simp at ha'

end

end ProfilerBootstrap.Text

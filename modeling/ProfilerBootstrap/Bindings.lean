namespace ProfilerBootstrap.Bindings

variable {α β : Type} [BEq α] [LawfulBEq α] [DecidableEq α]

theorem lookup_cons_eq (k m : α) (v : β) (l : List (α × β)) :
    List.lookup m ((k, v) :: l) = if m = k then some v else l.lookup m := by
  by_cases h : m = k
  · simp [h]
  · have hb : (m == k) = false := beq_false_of_ne h
    simp [List.lookup_cons, hb, h]

theorem lookup_filter_ne (k m : α) (l : List (α × β)) :
    (l.filter (·.1 ≠ k)).lookup m = if m = k then none else l.lookup m := by
  induction l with
  | nil => simp
  | cons x rest ih =>
    obtain ⟨n, v⟩ := x
    by_cases hn : n = k
    · rw [List.filter_cons_of_neg (by simpa using hn), ih, lookup_cons_eq, hn]
      by_cases hm : m = k
      · rw [if_pos hm, if_pos hm]
      · rw [if_neg hm, if_neg hm, if_neg hm]
    · rw [List.filter_cons_of_pos (by simpa using hn), lookup_cons_eq, lookup_cons_eq, ih]
      by_cases hm : m = k
      · have hne : m ≠ n := fun h => hn (h.symm.trans hm)
        rw [if_neg hne, if_pos hm, if_pos hm]
      · rw [if_neg hm, if_neg hm]

end ProfilerBootstrap.Bindings

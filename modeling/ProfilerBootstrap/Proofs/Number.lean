import ProfilerBootstrap.Path

namespace ProfilerBootstrap.Text

theorem isDigit_of_mem_toString {i : Nat} {c : Char} (h : c ∈ (toString i).toList) :
    c.isDigit = true := by
  have h : c ∈ Nat.toDigits 10 i := by simpa using h
  exact Nat.isDigit_of_mem_toDigits (by decide) (by decide) h

theorem toString_inj {i j : Nat} (h : toString i = toString j) : i = j := by
  have hdigits : Nat.toDigits 10 i = Nat.toDigits 10 j := by simpa using congrArg String.toList h
  rw [← Nat.ofDigitChars_ten_toDigits (n := i), hdigits, Nat.ofDigitChars_ten_toDigits]

theorem isDigit_or_sign_of_mem {i : Int} {c : Char} (h : c ∈ i.repr.toList) :
    c.isDigit = true ∨ c = '-' := by
  have hdigit : ∀ {n : Nat}, c ∈ n.repr.toList → c.isDigit = true := isDigit_of_mem_toString
  rw [Int.repr_eq_if] at h
  split at h
  · exact .inl (hdigit h)
  · rw [String.toList_append] at h
    rcases List.mem_append.1 h with h | h
    · exact .inr (by simpa using h)
    · exact .inl (hdigit h)

theorem exists_mem_repr (i : Int) : ∃ c, c ∈ i.repr.toList := by
  rw [Int.repr_eq_if]
  split
  · exact List.exists_mem_of_ne_nil _ (by simp)
  · exact ⟨'-', by simp⟩

theorem slash_notMem_repr (i : Int) : '/' ∉ i.repr.toList := fun h =>
  (isDigit_or_sign_of_mem h).elim (by decide) (by decide)

theorem isName_repr (i : Int) : Path.isName i.repr.toList = true := by
  obtain ⟨c, hc⟩ := exists_mem_repr i
  have hnil : i.repr.toList ≠ [] := List.ne_nil_of_mem hc
  have hpoint : i.repr.toList ≠ ['.'] := by
    intro h
    obtain rfl : c = '.' := by simpa [h] using hc
    exact (isDigit_or_sign_of_mem hc).elim (by decide) (by decide)
  simp [Path.isName, hnil, hpoint]

/-- A sign is no digit, so that a negative number is not shown as another one is. -/
theorem repr_inj {i j : Int} (h : i.repr = j.repr) : i = j := by
  have hsign : ∀ {m n : Nat}, m.repr ≠ "-" ++ n.repr := by
    intro m n hmn
    have hmem : '-' ∈ m.repr.toList := by simp [hmn]
    exact absurd (isDigit_of_mem_toString hmem) (by decide)
  rw [Int.repr_eq_if, Int.repr_eq_if] at h
  split at h <;> split at h
  · have := toString_inj h
    omega
  · exact absurd h hsign
  · exact absurd h.symm hsign
  · have := toString_inj (String.append_right_inj _ |>.1 h)
    omega

end ProfilerBootstrap.Text

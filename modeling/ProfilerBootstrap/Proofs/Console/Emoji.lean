import ProfilerBootstrap.Console.Emoji

namespace ProfilerBootstrap.Console.Emoji

/-- The bytes of a colon are no part of the bytes of a picture, which are quicker to compute than
its characters. -/
theorem colonByte_notMem_codes : ∀ t ∈ codes, ∀ e ∈ t, 58 ∉ e.2.toByteArray.data.toList := by
  decide +kernel

theorem colonByte_mem_of_colon_mem {s : String} (h : ':' ∈ s.toList) :
    58 ∈ s.toByteArray.data.toList := by
  rw [← String.utf8Encode_toList, List.utf8Encode, List.toList_data_toByteArray, List.mem_flatMap]
  exact ⟨':', h, by decide⟩

theorem mem_of_findSome?_lookup {tables : List (List (String × String))} {key value : String}
    (h : tables.findSome? (·.lookup key) = some value) : ∃ t ∈ tables, (key, value) ∈ t := by
  obtain ⟨t, ht, hlookup⟩ := List.exists_of_findSome?_eq_some h
  obtain ⟨before, after, rfl, -⟩ := List.lookup_eq_some_iff.1 hlookup
  exact ⟨_, ht, List.mem_append_right _ List.mem_cons_self⟩

theorem colon_notMem_of_named? {name picture : List Char} (h : named? name = some picture) :
    ':' ∉ picture := by
  rw [named?, Option.map_eq_some_iff] at h
  obtain ⟨value, hvalue, rfl⟩ := h
  obtain ⟨t, ht, hmem⟩ := mem_of_findSome?_lookup hvalue
  exact fun hcolon => colonByte_notMem_codes t ht _ hmem (colonByte_mem_of_colon_mem hcolon)

theorem colon_notMem_of_picture? {code picture : List Char} (h : picture? code = some picture) :
    ':' ∉ picture := by
  rw [picture?, Option.map_eq_some_iff] at h
  obtain ⟨p, hp, rfl⟩ := h
  have hadded : ':' ∉ (splitVariant code).2 := by
    unfold splitVariant
    split
    · rename_i ending c hfind
      have hvariant : ∀ v ∈ variants, ':' ≠ v.2 := by decide
      simpa using hvariant _ (List.mem_of_find?_eq_some hfind)
    · exact List.not_mem_nil
  exact fun hmem => (List.mem_append.1 hmem).elim (colon_notMem_of_named? hp) hadded

/-- The codes that are looked up in the parts of a text after its first colon: parts with a colon
after them and no white space in them, unless a code before ends at the colon they follow. -/
def codesAfter : List (List Char) → List (List Char)
  | [] => []
  | [_] => []
  | s :: t :: rest =>
    if s.any Text.isBlank then codesAfter (t :: rest) else s :: codesAfter rest

def codesOf (cs : List Char) : List (List Char) := codesAfter (cs.splitOn ':').tail

def writeAfter (parts : List (List Char)) : List Char := parts.flatMap (':' :: ·)

theorem intercalate_eq_writeAfter (s : List Char) (parts : List (List Char)) :
    [':'].intercalate (s :: parts) = s ++ writeAfter parts := by
  induction parts generalizing s with
  | nil => simp [writeAfter]
  | cons t parts ih =>
    rw [List.intercalate_cons_cons, ih]
    simp [writeAfter]

/-- Either no code stands for a picture, and the parts stay as they are, or they lose colons. -/
theorem replaceAfter_cases (parts : List (List Char)) :
    ((∀ code ∈ codesAfter parts, picture? code = none) ∧ replaceAfter parts = writeAfter parts) ∨
      ((∃ code ∈ codesAfter parts, picture? code ≠ none) ∧
        (replaceAfter parts).count ':' < (writeAfter parts).count ':') := by
  fun_induction replaceAfter parts with
  | case1 => exact .inl ⟨nofun, rfl⟩
  | case2 s => exact .inl ⟨nofun, by simp [writeAfter]⟩
  | case3 s t rest hblank ih =>
    have hwrite : writeAfter (s :: t :: rest) = (':' :: s) ++ writeAfter (t :: rest) := rfl
    rw [codesAfter, if_pos hblank, hwrite]
    obtain ⟨hnone, hsame⟩ | ⟨hsome, hlt⟩ := ih
    · exact .inl ⟨hnone, by rw [hsame]⟩
    · refine .inr ⟨hsome, ?_⟩
      simp only [List.count_append]
      omega
  | case4 s t rest hblank ih =>
    -- the code ends at the colon before `t`, which therefore begins none
    have hwrite : writeAfter (s :: t :: rest) = (':' :: s ++ [':']) ++ t ++ writeAfter rest := by
      simp [writeAfter]
    rw [codesAfter, if_neg hblank, hwrite]
    cases hpicture : picture? s with
    | none =>
      have hshown : shown s = ':' :: s ++ [':'] := by
        rw [shown, hpicture]
        rfl
      rw [hshown]
      obtain ⟨hnone, hsame⟩ | ⟨⟨code, hcode, hsome⟩, hlt⟩ := ih
      · exact .inl ⟨List.forall_mem_cons.2 ⟨hpicture, hnone⟩, by rw [hsame]⟩
      · refine .inr ⟨⟨code, List.mem_cons_of_mem _ hcode, hsome⟩, ?_⟩
        simp only [List.count_append]
        omega
    | some picture =>
      have hshown : (shown s).count ':' = 0 := by
        rw [shown, hpicture]
        exact List.count_eq_zero.2 (colon_notMem_of_picture? hpicture)
      have hrest : (replaceAfter rest).count ':' ≤ (writeAfter rest).count ':' :=
        ih.elim (fun h => Nat.le_of_eq (by rw [h.2])) fun h => Nat.le_of_lt h.2
      refine .inr ⟨⟨s, List.mem_cons_self, by simp [hpicture]⟩, ?_⟩
      simp only [List.count_append, List.count_cons_self, hshown]
      omega

theorem replace_cases (cs : List Char) :
    ((∀ code ∈ codesOf cs, picture? code = none) ∧ replace cs = cs) ∨
      ((∃ code ∈ codesOf cs, picture? code ≠ none) ∧ (replace cs).count ':' < cs.count ':') := by
  have hcs : [':'].intercalate (cs.splitOn ':') = cs := List.intercalate_splitOn ':'
  have hne : cs.splitOn ':' ≠ [] := List.splitOn_ne_nil ':' cs
  unfold replace codesOf
  cases hparts : cs.splitOn ':' with
  | nil => exact absurd hparts hne
  | cons s rest =>
    rw [hparts, intercalate_eq_writeAfter] at hcs
    subst hcs
    obtain ⟨hnone, hsame⟩ | ⟨hsome, hlt⟩ := replaceAfter_cases rest
    · exact .inl ⟨hnone, congrArg (s ++ ·) hsame⟩
    · refine .inr ⟨hsome, ?_⟩
      simp only [List.count_append]
      omega

/-- A text is left as it is just if none of its codes stands for a picture. -/
theorem replace_eq_self_iff {cs : List Char} :
    replace cs = cs ↔ ∀ code ∈ codesOf cs, picture? code = none := by
  obtain ⟨hnone, hsame⟩ | ⟨⟨code, hcode, hsome⟩, hlt⟩ := replace_cases cs
  · exact iff_of_true hsame hnone
  · refine iff_of_false (fun hsame => ?_) fun hnone => hsome (hnone code hcode)
    rw [hsame] at hlt
    exact Nat.lt_irrefl _ hlt

end ProfilerBootstrap.Console.Emoji

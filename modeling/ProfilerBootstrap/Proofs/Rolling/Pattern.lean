import ProfilerBootstrap.Proofs.Number
import ProfilerBootstrap.Proofs.Path
import ProfilerBootstrap.Rolling

namespace ProfilerBootstrap

namespace Rolling

section
variable {number cs : List Char}

theorem substitute_cons {c : Char} (h : ¬ (c = '\x7b' ∧ cs.head? = some '\x7d')) :
    substitute number (c :: cs) = c :: substitute number cs := by
  apply substitute.eq_2
  rintro rest rfl rfl
  exact h ⟨rfl, rfl⟩

theorem substitute_of_no_placeholder (number : List Char) (h : hasPlaceholder cs = false) :
    substitute number cs = cs := by
  fun_induction hasPlaceholder cs with
  | case1 rest => simp at h
  | case2 c cs hc ih =>
    rw [substitute.eq_2 number c cs hc, ih h]
  | case3 => rfl

/-- A text that does not begin with a closing brace has its places to itself. -/
theorem substitute_append (number cs : List Char) {more : List Char}
    (hmore : more.head? ≠ some '\x7d') :
    substitute number (cs ++ more) = substitute number cs ++ substitute number more := by
  fun_induction substitute number cs with
  | case1 rest ih => rw [List.append_assoc, ← ih]; rfl
  | case2 c cs hc ih =>
    rw [List.cons_append, substitute_cons, ih, List.cons_append]
    rintro ⟨rfl, hhead⟩
    cases cs with
    | nil => exact hmore hhead
    | cons d cs => exact hc cs rfl (by simpa using hhead)
  | case3 => rfl

theorem substitute_append_of_no_braces (number : List Char) {cs : List Char}
    (h : '\x7b' ∉ cs) (rest : List Char) :
    substitute number (cs ++ rest) = cs ++ substitute number rest := by
  induction cs with
  | nil => rfl
  | cons c cs ih =>
    rw [List.mem_cons, not_or] at h
    rw [List.cons_append, substitute.eq_2, ih h.2, List.cons_append]
    rintro rest' rfl -
    exact h.1 rfl

theorem substitute_of_no_braces (number : List Char) (h : '\x7b' ∉ cs) :
    substitute number cs = cs := by
  have happend := substitute_append_of_no_braces number h []
  rwa [List.append_nil, substitute.eq_3, List.append_nil] at happend

theorem hasPlaceholder_append (cs rest : List Char) :
    hasPlaceholder (cs ++ '\x7b' :: '\x7d' :: rest) = true := by
  induction cs with
  | nil => rfl
  | cons c cs ih =>
    rw [List.cons_append]
    unfold hasPlaceholder
    split
    · rfl
    · rename_i c' rest' _ hcons
      obtain ⟨rfl, rfl⟩ := List.cons.inj hcons
      exact ih
    · rename_i hnil
      simp at hnil

theorem mem_substitute {c : Char} (h : c ∈ substitute number cs) : c ∈ number ∨ c ∈ cs := by
  fun_induction substitute number cs with
  | case1 rest ih =>
    rcases List.mem_append.1 h with h | h
    · exact .inl h
    · exact (ih h).imp_right fun h => by simp [h]
  | case2 d cs hd ih =>
    rcases List.mem_cons.1 h with rfl | h
    · exact .inr List.mem_cons_self
    · exact (ih h).imp_right (List.mem_cons_of_mem d)
  | case3 => exact .inr h

/-- Every place that a number is put into is an opening brace less. -/
theorem count_substitute (hnumber : '\x7b' ∉ number) (cs : List Char) :
    (substitute number cs).count '\x7b' ≤ cs.count '\x7b' ∧
      (hasPlaceholder cs = true → (substitute number cs).count '\x7b' < cs.count '\x7b') := by
  have hnone := List.count_eq_zero.2 hnumber
  fun_induction substitute number cs with
  | case1 rest ih =>
    rw [List.count_append, hnone, List.count_cons_self]
    have hclose : ('\x7d' :: rest).count '\x7b' = rest.count '\x7b' :=
      List.count_cons_of_ne (by decide)
    omega
  | case2 c cs hc ih =>
    rw [List.count_cons, List.count_cons, hasPlaceholder.eq_2 c cs hc]
    exact ⟨by omega, fun h => by have := ih.2 h; omega⟩
  | case3 => exact ⟨Nat.le_refl _, fun h => by simp [hasPlaceholder] at h⟩

theorem substitute_eq_self_iff (hnumber : '\x7b' ∉ number) :
    substitute number cs = cs ↔ hasPlaceholder cs = false := by
  refine ⟨fun h => ?_, substitute_of_no_placeholder number⟩
  rw [← Bool.not_eq_true]
  intro hplace
  have hlt := (count_substitute hnumber cs).2 hplace
  rw [h] at hlt
  omega

theorem substitute_intercalate (number : List Char) (ns : List Name) :
    substitute number (['/'].intercalate ns) = ['/'].intercalate (ns.map (substitute number)) := by
  induction ns with
  | nil => rfl
  | cons n ns ih =>
    cases ns with
    | nil => simp
    | cons m ns =>
      have hcons : ∀ (n : Name) {ns : List Name}, ns ≠ [] →
          ['/'].intercalate (n :: ns) = n ++ '/' :: ['/'].intercalate ns := fun n ns hns => by
        rw [List.intercalate_cons_of_ne_nil hns, List.append_assoc]
        rfl
      have hrest : (m :: ns).map (substitute number) ≠ [] := by simp
      rw [hcons n (List.cons_ne_nil m ns), List.map_cons, hcons _ hrest, ← ih,
        substitute_append number n (by simp), substitute_cons (by simp)]

theorem substitute_chars (number : List Char) {p : Path} (h : p.names ≠ []) :
    substitute number p.chars = Path.chars ⟨p.slashes, p.names.map (substitute number)⟩ := by
  rw [Path.chars_eq_intercalate h, substitute_intercalate, List.map_append, List.map_replicate,
    Path.chars_eq_intercalate (by simpa using h)]
  rfl

theorem substitute_eq_nil (hnumber : number ≠ []) : substitute number cs = [] ↔ cs = [] := by
  fun_cases substitute number cs <;> simp [hnumber]

/-- With a number in it, a name is still one: it cannot have become empty, or a single point. -/
theorem isName_substitute (hnumber : Path.isName number = true) {n : Name}
    (hn : Path.isName n = true) : Path.isName (substitute number n) = true := by
  simp only [Path.isName, Bool.and_eq_true, decide_eq_true_eq] at hnumber hn ⊢
  fun_cases substitute number n with
  | case1 rest =>
    refine ⟨by simp [hnumber.1], fun h => ?_⟩
    obtain ⟨h, -⟩ | ⟨h, -⟩ := List.append_eq_singleton_iff.1 h
    · exact hnumber.1 h
    · exact hnumber.2 h
  | case2 c rest hc =>
    refine ⟨by simp, fun h => ?_⟩
    obtain ⟨rfl, hrest⟩ := List.cons.inj h
    exact hn.2 (congrArg _ ((substitute_eq_nil hnumber.1).1 hrest))
  | case3 => exact absurd rfl hn.1

end

end Rolling

open Rolling

theorem Path.Normal.substitute {number : List Char} {p : Path} (hp : p.Normal)
    (hname : isName number = true) (hslash : '/' ∉ number) :
    Normal ⟨p.slashes, p.names.map (Rolling.substitute number)⟩ := by
  refine ⟨hp.slashes, fun n hn => ?_⟩
  obtain ⟨m, hm, rfl⟩ := List.mem_map.1 hn
  obtain ⟨hmname, hmslash⟩ := hp.names m hm
  exact ⟨isName_substitute hname hmname, fun h => (mem_substitute h).elim hslash hmslash⟩

theorem Path.Normal.map_substitute {number : List Char} {p : Path} (hp : p.Normal)
    (hname : isName number = true) (hslash : '/' ∉ number)
    (hplace : hasPlaceholder p.chars = false) : p.names.map (Rolling.substitute number) = p.names := by
  by_cases hne : p.names = []
  · simp [hne]
  · have hchars := substitute_chars number hne
    rw [substitute_of_no_placeholder number hplace] at hchars
    have h := congrArg ofChars hchars
    rw [ofChars_chars hp, ofChars_chars (hp.substitute hname hslash)] at h
    exact (congrArg Path.names h).symm

theorem Path.Normal.map_substitute_eq_self_iff {number : List Char} {p : Path} (hp : p.Normal)
    (hname : isName number = true) (hslash : '/' ∉ number) (hbrace : '\x7b' ∉ number) :
    p.names.map (Rolling.substitute number) = p.names ↔ hasPlaceholder p.chars = false := by
  refine ⟨fun h => (substitute_eq_self_iff hbrace).1 ?_, hp.map_substitute hname hslash⟩
  by_cases hne : p.names = []
  · refine substitute_of_no_braces number ?_
    by_cases hs : p.slashes = 0 <;> simp [chars, hne, hs]
  · rw [substitute_chars number hne, h]

/-- The path of a backup has the names of the pattern, with the number put into each of them. -/
theorem Roller.backup_eq {r : Roller} {p : Path} (hp : p.Normal) (hne : p.names ≠ [])
    (hpattern : r.pattern = p.text) (i : Int) :
    r.backup i = ⟨p.slashes, p.names.map (substitute i.repr.toList)⟩ := by
  have hnormal := hp.substitute (Text.isName_repr i) (Text.slash_notMem_repr i)
  rw [backup, hpattern, Path.toList_text, substitute_chars _ hne]
  exact Path.ofChars_chars hnormal

theorem Roller.normal_backup (r : Roller) (i : Int) : (r.backup i).Normal := Path.normal_ofChars _

end ProfilerBootstrap

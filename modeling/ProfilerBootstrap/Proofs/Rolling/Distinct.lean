import ProfilerBootstrap.Proofs.Rolling.Pattern

namespace ProfilerBootstrap

namespace Rolling

section
variable {number cs : List Char}

theorem hasPlaceholder_iff : hasPlaceholder cs = true ↔ "\x7b\x7d".toList <:+: cs := by
  constructor
  · intro h
    fun_induction hasPlaceholder cs with
    | case1 rest => exact ⟨[], rest, rfl⟩
    | case2 c cs hc ih =>
      obtain ⟨before, after, rfl⟩ := ih h
      exact ⟨c :: before, after, rfl⟩
    | case3 => cases h
  · rintro ⟨before, after, rfl⟩
    rw [List.append_assoc]
    exact hasPlaceholder_append before after

theorem length_substitute_le {m n : List Char} (hle : m.length ≤ n.length) (cs : List Char) :
    (substitute m cs).length ≤ (substitute n cs).length ∧
      (hasPlaceholder cs = true → m.length < n.length →
        (substitute m cs).length < (substitute n cs).length) := by
  fun_induction substitute m cs with
  | case1 rest ih =>
    rw [substitute.eq_1, List.length_append, List.length_append]
    exact ⟨by omega, by omega⟩
  | case2 c cs hc ih =>
    rw [substitute.eq_2 n c cs hc, hasPlaceholder.eq_2 c cs hc, List.length_cons, List.length_cons]
    exact ⟨by omega, fun hplace hlt => by have := ih.2 hplace hlt; omega⟩
  | case3 => exact ⟨Nat.le_refl _, fun hplace => absurd hplace Bool.false_ne_true⟩

/-- The number can be read back. Texts of one length have numbers of one length, and these stand at
the same place first; the places after it are not needed. -/
theorem substitute_inj {m n : List Char} (hplace : hasPlaceholder cs = true)
    (h : substitute m cs = substitute n cs) : m = n := by
  have hlength : m.length = n.length := by
    have hle {m n : List Char} (h : substitute m cs = substitute n cs) : n.length ≤ m.length :=
      Nat.not_lt.1 fun hlt => Nat.ne_of_lt
        ((length_substitute_le (Nat.le_of_lt hlt) cs).2 hplace hlt) (congrArg List.length h)
    exact Nat.le_antisymm (hle h.symm) (hle h)
  fun_induction hasPlaceholder cs with
  | case1 rest => exact (List.append_inj h hlength).1
  | case2 c cs hc ih =>
    rw [substitute.eq_2 m c cs hc, substitute.eq_2 n c cs hc] at h
    exact ih hplace (List.cons.inj h).2
  | case3 => cases hplace

/-- A number without a slash is put into each piece of a text apart. -/
theorem pieces_substitute (hslash : '/' ∉ number) (cs : List Char) :
    Path.pieces (substitute number cs) = (Path.pieces cs).map (substitute number) := by
  have hcs : ['/'].intercalate (Path.pieces cs) = cs := List.intercalate_splitOn '/'
  have hne : Path.pieces cs ≠ [] := List.splitOn_ne_nil '/' cs
  rw [← hcs, substitute_intercalate, hcs]
  refine List.splitOn_intercalate '/' (fun n hn => ?_) (by simpa using hne)
  obtain ⟨m, hm, rfl⟩ := List.mem_map.1 hn
  exact fun h => (mem_substitute h).elim hslash (Path.slash_notMem_of_mem_pieces hm)

theorem no_placeholder_of_not_isName {n : Name} (h : Path.isName n = false) :
    hasPlaceholder n = false := by
  simp only [Path.isName, Bool.and_eq_false_iff, decide_eq_false_iff_not, Decidable.not_not] at h
  rcases h with rfl | rfl <;> rfl

theorem isName_substitute_eq (hname : Path.isName number = true) (n : Name) :
    Path.isName (substitute number n) = Path.isName n := by
  cases hn : Path.isName n with
  | true => exact isName_substitute hname hn
  | false => rw [substitute_of_no_placeholder number (no_placeholder_of_not_isName hn), hn]

theorem exists_name_of_placeholder (hplace : hasPlaceholder cs = true) :
    ∃ n ∈ (Path.ofChars cs).names, hasPlaceholder n = true := by
  refine Classical.byContradiction fun hnone => ?_
  have hpieces : ∀ n ∈ Path.pieces cs, substitute [] n = n := by
    intro n hn
    refine substitute_of_no_placeholder [] (Bool.eq_false_iff.2 fun h => ?_)
    cases hname : Path.isName n with
    | true => exact hnone ⟨n, List.mem_filter.2 ⟨hn, hname⟩, h⟩
    | false => exact Bool.false_ne_true ((no_placeholder_of_not_isName hname).symm.trans h)
  -- without such a name, putting an empty number in would change nothing
  have hself : substitute [] cs = cs := by
    have hcs : ['/'].intercalate (Path.pieces cs) = cs := List.intercalate_splitOn '/'
    rw [← hcs, substitute_intercalate, hcs, List.map_congr_left hpieces, List.map_id', hcs]
  rw [(substitute_eq_self_iff (by simp)).1 hself] at hplace
  cases hplace

end

end Rolling

open Rolling

namespace Roller

/-- The names of a backup are those of the pattern, with the number put into each of them. -/
theorem names_backup (r : Roller) (i : Int) :
    (r.backup i).names = (Path.ofText r.pattern).names.map (substitute i.repr.toList) := by
  have hname : Path.isName ∘ substitute i.repr.toList = Path.isName :=
    funext (isName_substitute_eq (Text.isName_repr i))
  show (Path.pieces (substitute i.repr.toList r.pattern.toList)).filter Path.isName = _
  rw [pieces_substitute (Text.slash_notMem_repr i), List.filter_map, hname]
  rfl

theorem backup_inj {r : Roller} {i j : Int} (h : r.backup i = r.backup j) : i = j := by
  obtain ⟨n, hn, hplace⟩ := exists_name_of_placeholder r.placed
  have hnames := congrArg Path.names h
  rw [names_backup, names_backup] at hnames
  have hrepr := substitute_inj hplace (List.map_inj_left.1 hnames n hn)
  exact Text.repr_inj (String.toList_inj.1 hrepr)

theorem text_backup_inj {r : Roller} {i j : Int} (h : (r.backup i).text = (r.backup j).text) :
    i = j := by
  refine backup_inj (r := r) ?_
  rw [← Path.ofText_text (r.normal_backup i), h, Path.ofText_text (r.normal_backup j)]

theorem exists_make_eq_ok_iff (pattern : String) (count base : Int) :
    (∃ r, make pattern count base = .ok r) ↔
      "\x7b\x7d".toList <:+: pattern.toList ∧ 0 ≤ count := by
  rw [← hasPlaceholder_iff]
  unfold make
  split
  · rename_i hplace
    split
    · exact iff_of_false nofun fun h => by omega
    · exact iff_of_true ⟨_, rfl⟩ ⟨hplace, by omega⟩
  · rename_i hplace
    exact iff_of_false nofun fun h => hplace h.1

/-- A pattern is accepted just if it has a pair of braces. The paths of two backups are read from it
without repeated slashes and single points, and are written alike only if they have one number. -/
theorem backups_distinct (pattern : String) (count base : Int) :
    ((∃ r, make pattern count base = .ok r) ↔
      "\x7b\x7d".toList <:+: pattern.toList ∧ 0 ≤ count) ∧
    ∀ r, make pattern count base = .ok r → ∀ i j : Int,
      (r.backup i).Normal ∧ ((r.backup i).text = (r.backup j).text ↔ i = j) :=
  ⟨exists_make_eq_ok_iff pattern count base, fun r _ i _ =>
    ⟨r.normal_backup i, fun h => text_backup_inj h, fun h => h ▸ rfl⟩⟩

/-- Two places in names and one alone between slashes; the numbers differ in sign and length. -/
theorem backups_distinct_across_slashes :
    ∃ r, make "a\x7b\x7db/./\x7b\x7d//\x7b\x7d\x7b\x7d" 3 0 = .ok r ∧
      (r.backup (-1)).text = "a-1b/-1/-1-1" ∧ (r.backup 11).text = "a11b/11/1111" ∧
      (r.backup (-1)).text ≠ (r.backup 11).text := by
  obtain ⟨haccept, hdistinct⟩ :=
    backups_distinct "a\x7b\x7db/./\x7b\x7d//\x7b\x7d\x7b\x7d" 3 0
  obtain ⟨r, hr⟩ := haccept.2 ⟨⟨['a'], "b/./\x7b\x7d//\x7b\x7d\x7b\x7d".toList, by decide⟩, by decide⟩
  refine ⟨r, hr, ?_, ?_, fun h => absurd ((hdistinct r hr (-1) 11).2.1 h) (by decide)⟩
  all_goals
    cases hr
    decide +kernel

end Roller

end ProfilerBootstrap

import ProfilerBootstrap.Proofs.FileSystem.Operation
import ProfilerBootstrap.Proofs.FileSystem.Reach
import ProfilerBootstrap.Proofs.Sequence

namespace ProfilerBootstrap.FileSystem

section
variable {fs fs' : FileSystem} {path target : String}

theorem hasNull_bare (h : hasNull path = false) : hasNull (bare path) = false := by
  unfold hasNull at h ⊢
  simp only [List.contains_eq_mem, decide_eq_false_iff_not] at h ⊢
  rw [bare, String.toList_ofList, Text.dropEnd, List.mem_reverse]
  exact fun hmem => h (List.mem_reverse.1 ((List.dropWhile_sublist _).mem hmem))

theorem bare_eq_self {cs : List Char} {n : Name} (h : path.toList = cs ++ n) (hn : n ≠ [])
    (hslash : '/' ∉ n) : bare path = path := by
  obtain ⟨m, c, rfl⟩ := (List.eq_nil_or_concat n).resolve_left hn
  have hc : c ≠ '/' := by
    rintro rfl
    exact hslash (by simp)
  rw [← String.toList_inj, bare, String.toList_ofList, h, Text.dropEnd]
  simp [hc]

/-- What moves where an entry is moved, and in place of what. -/
theorem rename_ok (h : fs.rename path target = .ok fs') :
    ∃ p q e, fs.reach false (bare path) = .ok p ∧ fs.reach false (bare target) = .ok q ∧
      p.entry = some e ∧
      (p.location = q.location ∧ fs' = fs ∨
        (p.location ≠ q.location ∧ fs.moveRefused p.location e q = none) ∧
          fs' = fs.move p.location q.location) := by
  unfold rename at h
  split at h
  · simp at h
  rename_i hnull
  obtain ⟨hnull, hnull'⟩ : hasNull path = false ∧ hasNull target = false := by
    simpa [not_or] using hnull
  cases hmove : fs.moveEntry path target with
  | error c => simp [hmove] at h
  | ok fs₁ =>
    obtain rfl : fs₁ = fs' := by simpa [hmove] using h
    unfold moveEntry at hmove
    obtain ⟨-, -, hmove⟩ := bind_ok hmove
    obtain ⟨-, -, hmove⟩ := bind_ok hmove
    split at hmove
    · simp at hmove
    obtain ⟨p, hp, hmove⟩ := bind_ok hmove
    split at hmove
    · simp at hmove
    rename_i e he
    obtain ⟨q, hq, hmove⟩ := bind_ok hmove
    have hp := reach_eq_ok.2 ⟨hasNull_bare hnull, hp⟩
    have hq := reach_eq_ok.2 ⟨hasNull_bare hnull', hq⟩
    refine ⟨p, q, e, hp, hq, he, ?_⟩
    split at hmove
    · simp at hmove
    split at hmove
    · rename_i heq
      exact .inl ⟨heq, (Except.ok.inj hmove).symm⟩
    · rename_i hne
      split at hmove
      · simp at hmove
      · rename_i hfree
        exact .inr ⟨⟨hne, hfree⟩, (Except.ok.inj hmove).symm⟩

theorem reach_of_bare {p : Path} (hp : p.Normal) {follow : Bool} {q : Place}
    (h : fs.reach follow (bare p.text) = .ok q) : fs.reach follow p.text = .ok q := by
  by_cases hne : p.names = []
  · obtain ⟨s, ns⟩ := p
    obtain rfl : ns = [] := hne
    have hs : s ≤ 2 := hp.slashes
    have hroot (hempty : bare (Path.text ⟨s, []⟩) = "") : False := by
      rw [hempty] at h
      simp [reach, walk, hasNull] at h
    obtain rfl | rfl | rfl : s = 0 ∨ s = 1 ∨ s = 2 := by omega
    · have hpoint : bare (Path.text ⟨0, []⟩) = Path.text ⟨0, []⟩ := by decide +kernel
      rwa [hpoint] at h
    · exact (hroot (by decide +kernel)).elim
    · exact (hroot (by decide +kernel)).elim
  · obtain ⟨s, front, last, hlast, rfl, -⟩ := hp.exists_snoc hne
    have htext : (Path.text ⟨s, front ++ [last]⟩).toList = Path.lead s front ++ last := by
      rw [Path.toList_text, Path.chars_snoc]
    rwa [bare_eq_self htext hlast (hp.names last (by simp)).2] at h

theorem rename_text_ok {p q : Path} (hp : p.Normal) (hq : q.Normal)
    (h : fs.rename p.text q.text = .ok fs') :
    ∃ y z e, fs.reach false p.text = .ok y ∧ fs.reach false q.text = .ok z ∧ y.entry = some e ∧
      (y.location = z.location ∧ fs' = fs ∨
        (y.location ≠ z.location ∧ fs.moveRefused y.location e z = none) ∧
          fs' = fs.move y.location z.location) := by
  obtain ⟨y, z, e, hy, hz, he, hmove⟩ := rename_ok h
  exact ⟨y, z, e, reach_of_bare hp hy, reach_of_bare hq hz, he, hmove⟩

theorem exists_name_of_walk {follow : Bool} {l : Location} {e : Option Entry}
    (h : fs.walk follow path = .ok ⟨l, e⟩) (he : e ≠ some .dir) :
    ∃ front n d, Path.pieces path.toList = front ++ [n] ∧ Path.isName n = true ∧ n ≠ ['.', '.'] ∧
      walkFrom fs true greatestLinks (origin fs.here path.toList) front = .ok ⟨d, some .dir⟩ := by
  obtain ⟨front, n, hpieces⟩ : ∃ front n, Path.pieces path.toList = front ++ [n] := by
    obtain ⟨front, n, hsnoc⟩ :=
      (List.eq_nil_or_concat (Path.pieces path.toList)).resolve_left (List.splitOn_ne_nil '/' _)
    exact ⟨front, n, by rw [hsnoc, List.concat_eq_append]⟩
  unfold walk at h
  dsimp only at h
  split at h
  · simp at h
  split at h
  · simp at h
  rw [hpieces] at h
  obtain ⟨d, hfront⟩ := walkFrom_init (List.cons_ne_nil n []) h
  obtain ⟨k, hk⟩ := walkFrom_append hfront
  have hlast := (hk follow [n] (List.cons_ne_nil n [])).symm.trans h
  refine ⟨front, n, d, hpieces, ?_, ?_, hfront⟩
  · rw [← Bool.not_eq_false]
    intro hname
    have hstays := (leg_of_not_isName hname fs follow d []).trans (leg.eq_1 fs follow d)
    rw [walkFrom_arrived hstays] at hlast
    exact he (Place.mk.inj (Except.ok.inj hlast)).2.symm
  · rintro rfl
    rw [walkFrom_arrived ((leg_up fs follow d []).trans (leg.eq_1 fs follow _))] at hlast
    exact he (Place.mk.inj (Except.ok.inj hlast)).2.symm

/-- What is no directory may be moved from where a path leads, or to there. -/
theorem approach_of_walk {follow : Bool} {l : Location} {e : Option Entry}
    (h : fs.walk follow path = .ok ⟨l, e⟩) (he : e ≠ some .dir) :
    fs.approach path = .ok () ∧ endsInName path = true ∧ bare path = path := by
  obtain ⟨front, n, d, hpieces, hname, hup, hfront⟩ := exists_name_of_walk h he
  have hn : n ≠ [] := by
    rintro rfl
    exact absurd hname (by decide)
  have hsplit : splitLast path = (front, some n) := by
    unfold splitLast
    rw [hpieces, List.reverse_append]
    simp [hn]
  refine ⟨?_, ?_, ?_⟩
  · unfold walk at h
    dsimp only at h
    unfold approach
    split at h
    · simp at h
    split at h
    · simp at h
    rename_i hempty hshort
    simp [hempty, hshort, hsplit, hfront]
  · simp [endsInName, hsplit, hname, hup]
  · have hmem : n ∈ Path.pieces path.toList := by simp [hpieces]
    have hjoin : path.toList = ['/'].intercalate (front ++ [n]) := by
      rw [← hpieces]
      exact (List.intercalate_splitOn '/').symm
    rw [Path.intercalate_snoc] at hjoin
    exact bare_eq_self hjoin hn (Path.slash_notMem_of_mem_pieces hmem)

end

end ProfilerBootstrap.FileSystem

import ProfilerBootstrap.Proofs.FileSystem.Frame
import ProfilerBootstrap.Proofs.Rolling

namespace ProfilerBootstrap

open FileSystem

/-- A path with a name at its end that is no way up. -/
structure Path.EndsIn (p : Path) (n : Name) : Prop where
  normal : p.Normal
  noUp : n ≠ ['.', '.']
  last : ∃ ns, p.names = ns ++ [n]

namespace FileSystem

section
variable {fs fs' fs'' : FileSystem} {p q : Path} {n m : Name} {b : Name → Prop} {k l : Location}

theorem location_of_reach (hp : p.EndsIn n) {z : Place} (h : fs.reach false p.text = .ok z) :
    ∃ d, z.location = d ++ [n] := by
  obtain ⟨s, ns⟩ := p
  obtain ⟨front, rfl⟩ := hp.last
  obtain ⟨-, d, hlead⟩ := of_reach_snoc hp.normal hp.noUp h
  obtain ⟨-, rfl⟩ := eq_of_reach_snoc hp.normal hp.noUp hlead (by simp) h
  exact ⟨d, rfl⟩

theorem lookup_map_of_key {f : Location × Entry → Location × Entry} {es : List (Location × Entry)}
    (hself : ∀ e, f (k, e) = (k, e)) (hother : ∀ x, (f x).1 = k → x.1 = k) :
    (es.map f).lookup k = es.lookup k := by
  induction es with
  | nil => rfl
  | cons x es ih =>
    obtain ⟨y, e⟩ := x
    by_cases hy : k = y
    · subst hy
      rw [List.map_cons, hself, List.lookup_cons_self, List.lookup_cons_self]
    · have hfy : k ≠ (f (y, e)).1 := fun h => hy (hother (y, e) h.symm).symm
      rw [List.map_cons, Bindings.lookup_cons_eq, Bindings.lookup_cons_eq, if_neg hfy, if_neg hy, ih]

theorem find?_move_of_not_within {m : Location} (hm : m ≠ []) (hl : isWithin l k = false)
    (hk : isWithin m k = false) : (fs.move l m).find? k = fs.find? k := by
  have hnot : ¬ m <+: k := fun h => by simp [isWithin, List.isPrefixOf_iff_prefix.2 h] at hk
  have hkm : k ≠ m := by
    rintro rfl
    exact hnot (List.prefix_refl k)
  rw [← if_neg (t := none) (e := fs.find? k) hkm, ← find?_erase_of_ne_nil fs hm k]
  unfold find?
  congr 1
  refine lookup_map_of_key (fun e => by simp [hl]) fun x hx => ?_
  split at hx
  · exact absurd (hx ▸ List.prefix_append ..) hnot
  · exact hx

/-- Nothing has changed but for entries that have one of some names on the way to them. -/
structure Spares (b : Name → Prop) (fs fs' : FileSystem) : Prop where
  here : fs'.here = fs.here
  contents : fs'.contents = fs.contents
  find? : ∀ l, (∀ n ∈ l, ¬ b n) → fs'.find? l = fs.find? l

theorem Spares.refl (b : Name → Prop) (fs : FileSystem) : Spares b fs fs := ⟨rfl, rfl, fun _ _ => rfl⟩

theorem Spares.trans (h : Spares b fs fs') (h' : Spares b fs' fs'') : Spares b fs fs'' where
  here := h'.here.trans h.here
  contents := h'.contents.trans h.contents
  find? l hl := (h'.find? l hl).trans (h.find? l hl)

theorem not_isWithin_snoc (hn : b n) (hl : ∀ m ∈ l, ¬ b m) (d : Location) :
    isWithin (d ++ [n]) l = false := by
  rw [← Bool.not_eq_true]
  intro hw
  obtain ⟨rest, rfl⟩ := List.isPrefixOf_iff_prefix.1 hw
  exact hl n (by simp) hn

theorem spares_unlink (hp : p.EndsIn n) (hn : b n) (h : fs.unlink p.text = .ok fs') :
    Spares b fs fs' := by
  obtain ⟨z, hz, rfl⟩ := unlink_ok h
  obtain ⟨d, hd⟩ := location_of_reach hp hz
  refine ⟨rfl, rfl, fun l hl => ?_⟩
  rw [hd, find?_erase_of_ne_nil fs (by simp), if_neg]
  rintro rfl
  exact hl n (by simp) hn

theorem spares_rename (hp : p.EndsIn n) (hn : b n) (hq : q.EndsIn m) (hm : b m)
    (h : fs.rename p.text q.text = .ok fs') : Spares b fs fs' := by
  obtain ⟨z, z', e, hz, hz', -, ⟨-, rfl⟩ | ⟨-, rfl⟩⟩ := rename_text_ok hp.normal hq.normal h
  · exact .refl b fs'
  · obtain ⟨d, hd⟩ := location_of_reach hp hz
    obtain ⟨d', hd'⟩ := location_of_reach hq hz'
    refine ⟨rfl, rfl, fun l hl => ?_⟩
    rw [hd, hd']
    exact find?_move_of_not_within (by simp) (not_isWithin_snoc hn hl d) (not_isWithin_snoc hm hl d')

end

end FileSystem

namespace Roller

section
variable {r : Roller} {S : Path → Prop} {R : FileSystem → Prop} {fs : FileSystem}
  (hunlink : ∀ {p : Path} {fs fs' : FileSystem}, S p → fs.unlink p.text = .ok fs' → R fs → R fs')
  (hrename : ∀ {p q : Path} {fs fs' : FileSystem}, S p → S q → fs.rename p.text q.text = .ok fs' →
    R fs → R fs')
  (hbackup : ∀ i : Nat, i < r.count → S (r.backup (r.base + i)))

include hunlink hbackup in
theorem dropOldest_induction (hpos : 0 < r.count) (h : R fs) :
    R (fs.attempt (r.dropOldest fs)).1 := by
  refine keeps_attempt h fun fs' hdrop => ?_
  obtain ⟨e, -, ⟨-, rfl⟩ | ⟨-, hremove⟩⟩ := dropOldest_ok hpos hdrop
  · exact h
  · exact hunlink (hbackup _ (by omega)) hremove h

include hrename hbackup in
theorem moveUp_induction {k : Nat} (hk : k + 1 < r.count) (h : R fs) :
    R (fs.attempt (r.moveUp k fs)).1 := by
  refine keeps_attempt h fun fs' hmove => ?_
  obtain ⟨e, -, ⟨-, rfl⟩ | ⟨-, hmoved⟩⟩ := moveUp_ok hmove
  · exact h
  · exact hrename (hbackup k (by omega)) (hbackup (k + 1) hk) hmoved h

include hrename hbackup in
theorem shift_induction (k : Nat) (hk : k < r.count) (h : R fs) : R (r.shift k fs).1 := by
  induction k generalizing fs with
  | zero => exact h
  | succ k ih =>
    exact keeps_andThen (moveUp_induction hrename hbackup hk h) fun fs₁ h₁ => ih (by omega) h₁

include hunlink hrename hbackup in
/-- Whatever holds of a file system after each file that is removed or renamed on the way, and held
before, holds after a file was rolled, also where rolling it was refused. -/
theorem roll_induction {p : Path} (hp : S p) (h : R fs) : R (r.roll fs p.text).1 := by
  unfold roll
  split
  · exact keeps_attempt h fun fs' hremove => hunlink hp hremove h
  · rename_i hne
    have hpos : 0 < r.count := Nat.pos_of_ne_zero hne
    refine keeps_andThen (dropOldest_induction hunlink hbackup hpos h) fun fs₁ h₁ => ?_
    refine keeps_andThen (shift_induction hrename hbackup _ (by omega) h₁) fun fs₂ h₂ => ?_
    rw [base_add_zero r]
    exact keeps_attempt h₂ fun fs' hmove => hrename hp (hbackup 0 hpos) hmove h₂

end

/-- Rolling a file changes only what has the name of the file, or of a backup, on the way to it. -/
theorem spares_roll {r : Roller} {b : Name → Prop}
    (hb : ∀ i : Nat, i < r.count → ∃ n, (r.backup (r.base + i)).EndsIn n ∧ b n) {p : Path} {z : Name}
    (hp : p.EndsIn z) (hz : b z) (fs : FileSystem) : Spares b fs (r.roll fs p.text).1 := by
  refine roll_induction (S := fun p => ∃ n, p.EndsIn n ∧ b n) (R := Spares b fs) ?_ ?_ hb
    ⟨z, hp, hz⟩ (.refl b fs)
  · rintro p fs₁ fs₂ ⟨n, hn, hbn⟩ hunlink h
    exact h.trans (spares_unlink hn hbn hunlink)
  · rintro p q fs₁ fs₂ ⟨n, hn, hbn⟩ ⟨m, hm, hbm⟩ hrename h
    exact h.trans (spares_rename hn hbn hm hbm hrename)

end Roller

end ProfilerBootstrap

import ProfilerBootstrap.Manifest.Check

namespace ProfilerBootstrap.Manifest.Checked

open Yaml (Value)

section
variable {α β γ δ : Type}

@[simp]
theorem map_eq_sound {f : α → β} {x : Checked α} {b : β} :
    x.map f = .sound b ↔ ∃ a, x = .sound a ∧ f a = b := by
  cases x <;> simp [map]

@[simp]
theorem functor_map_eq_sound {f : α → β} {x : Checked α} {b : β} :
    f <$> x = .sound b ↔ ∃ a, x = .sound a ∧ f a = b := map_eq_sound

@[simp]
theorem seq_eq_sound {f : Checked (α → β)} {x : Checked α} {b : β} :
    f <*> x = .sound b ↔ ∃ g a, f = .sound g ∧ x = .sound a ∧ g a = b := by
  change ap f x = _ ↔ _
  cases f <;> cases x <;> simp [ap, map]

theorem ap_faulty_ne_sound {is : List Issue} {x : Checked α} {b : β} :
    ap (.faulty is) x ≠ .sound b := by
  cases x <;> simp [ap]

@[simp]
theorem under_eq_sound {s : Step} {x : Checked α} {a : α} :
    x.under s = .sound a ↔ x = .sound a := by
  cases x <;> simp [under]

theorem listFrom_eq_sound {check : Value → Checked α} {vs : List Value} {as : List α} (n : Nat) :
    listFrom check n vs = .sound as ↔ vs.map check = as.map .sound := by
  induction vs generalizing n as with
  | nil => cases as <;> simp [listFrom]
  | cons v vs ih =>
    rw [listFrom, seq_eq_sound]
    constructor
    · rintro ⟨g, rest, hg, hrest, rfl⟩
      obtain ⟨a, ha, rfl⟩ := functor_map_eq_sound.1 hg
      rw [List.map_cons, List.map_cons, under_eq_sound.1 ha, (ih _).1 hrest]
    · intro h
      cases as with
      | nil => simp at h
      | cons a rest =>
        obtain ⟨ha, hrest⟩ := List.cons.inj h
        exact ⟨List.cons a, rest, functor_map_eq_sound.2 ⟨a, under_eq_sound.2 ha, rfl⟩,
          (ih _).2 hrest, rfl⟩

theorem listFrom_map {check check' : Value → Checked α} {f : Value → Value}
    (h : ∀ v, check' (f v) = check v) (n : Nat) (vs : List Value) :
    listFrom check' n (vs.map f) = listFrom check n vs := by
  induction vs generalizing n with
  | nil => rfl
  | cons v vs ih =>
    rw [List.map_cons, listFrom, listFrom, h, ih]

def Faulty (x : Checked α) : Prop := ∃ issues, x = .faulty issues

theorem faulty_iff {x : Checked α} : x.Faulty ↔ ∀ a, x ≠ .sound a := by
  cases x <;> simp [Faulty]

@[simp]
theorem not_faulty_sound (a : α) : ¬(sound a).Faulty := by simp [Faulty]

@[simp]
theorem faulty_fault (f : Fault) : (fault f : Checked α).Faulty := ⟨_, rfl⟩

@[simp]
theorem faulty_map {f : α → β} {x : Checked α} : (x.map f).Faulty ↔ x.Faulty := by
  cases x <;> simp [Faulty, map]

@[simp]
theorem faulty_functor_map {f : α → β} {x : Checked α} : (f <$> x).Faulty ↔ x.Faulty := faulty_map

@[simp]
theorem faulty_seq {f : Checked (α → β)} {x : Checked α} :
    (f <*> x).Faulty ↔ f.Faulty ∨ x.Faulty := by
  change (ap f x).Faulty ↔ _
  cases f <;> cases x <;> simp [Faulty, ap, map]

@[simp]
theorem faulty_under {s : Step} {x : Checked α} : (x.under s).Faulty ↔ x.Faulty := by
  cases x <;> simp [Faulty, under]

theorem faulty_listFrom {check : Value → Checked α} {vs : List Value} (n : Nat) :
    (listFrom check n vs).Faulty ↔ ∃ v ∈ vs, (check v).Faulty := by
  induction vs generalizing n with
  | nil => simp [listFrom]
  | cons v vs ih => simp [listFrom, ih]

def All (P : α → Prop) (x : Checked α) : Prop := ∀ a, x = .sound a → P a

theorem All.map {P : β → Prop} {f : α → β} (h : ∀ a, P (f a)) (x : Checked α) : All P (f <$> x) := by
  intro b hb
  obtain ⟨a, -, rfl⟩ := functor_map_eq_sound.1 hb
  exact h a

theorem All.seq {P : β → Prop} {f : Checked (α → β)} {x : Checked α}
    (h : All (fun g => ∀ a, P (g a)) f) : All P (f <*> x) := by
  intro b hb
  obtain ⟨g, a, hg, -, rfl⟩ := seq_eq_sound.1 hb
  exact h g hg a

/-- Two checks have related results, or the same issues. -/
def Agree (R : α → β → Prop) : Checked α → Checked β → Prop
  | sound a, sound b => R a b
  | faulty is, faulty js => is = js
  | sound _, faulty _ | faulty _, sound _ => False

section
variable {R : α → β → Prop} {S : γ → δ → Prop} {x : Checked α} {y : Checked β}

theorem agree_self {R : α → α → Prop} (h : All (fun a => R a a) x) : Agree R x x := by
  cases x with
  | sound a => exact h a rfl
  | faulty is => exact rfl

theorem Agree.sound_left {a : α} (h : Agree R x y) (hx : x = .sound a) :
    ∃ b, y = .sound b ∧ R a b := by
  subst hx
  cases y with
  | sound b => exact ⟨b, rfl, h⟩
  | faulty js => exact h.elim

theorem Agree.mono {S : α → β → Prop} (h : Agree R x y) (hRS : ∀ a b, R a b → S a b) :
    Agree S x y := by
  cases x <;> cases y <;> first | exact h | exact hRS _ _ h

theorem Agree.map {f : α → γ} {g : β → δ} (h : Agree R x y) (hfg : ∀ a b, R a b → S (f a) (g b)) :
    Agree S (x.map f) (y.map g) := by
  cases x <;> cases y <;> first | exact h | exact hfg _ _ h

theorem Agree.map_right {g : β → δ} {S : α → δ → Prop} (h : Agree R x y)
    (hg : ∀ a b, R a b → S a (g b)) : Agree S x (y.map g) := by
  cases x <;> cases y <;> first | exact h | exact hg _ _ h

theorem Agree.seq {f : Checked (α → γ)} {g : Checked (β → δ)}
    (hfg : Agree (fun f g => ∀ a b, R a b → S (f a) (g b)) f g) (h : Agree R x y) :
    Agree S (f <*> x) (g <*> y) := by
  change Agree S (ap f x) (ap g y)
  cases f <;> cases g <;> cases x <;> cases y <;> simp_all [Agree, ap, Checked.map]

theorem Agree.under (h : Agree R x y) (s : Step) : Agree R (x.under s) (y.under s) := by
  cases x <;> cases y <;> simp_all [Agree, Checked.under]

theorem agree_listFrom {check : Value → Checked α} {check' : Value → Checked β} {f : Value → Value}
    {F : α → γ} {G : β → γ} {vs : List Value}
    (h : ∀ v ∈ vs, Agree (fun a b => G b = F a) (check v) (check' (f v))) (n : Nat) :
    Agree (fun as bs => bs.map G = as.map F) (listFrom check n vs) (listFrom check' n (vs.map f)) := by
  induction vs generalizing n with
  | nil => exact rfl
  | cons v vs ih =>
    refine .seq (R := fun as bs => bs.map G = as.map F) ?_
      (ih (fun v hv => h v (List.mem_cons_of_mem _ hv)) (n + 1))
    refine ((h v List.mem_cons_self).under _).map fun a b hab as bs habs => ?_
    rw [List.map_cons, List.map_cons, hab, habs]

end

end

end ProfilerBootstrap.Manifest.Checked

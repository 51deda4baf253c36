import ProfilerBootstrap.Yaml.Error

namespace ProfilerBootstrap.Yaml

/-- An error that was there before, one that tells of its place, or a scalar that is unusable in one
of the ways `own`. -/
inductive Error.From (before : Option Error) (own : Unusable → Prop) : Error → Prop
  | earlier {e : Error} (h : before = some e) : From before own e
  | marked (c : Option Context) (m : Option Mark) (p : Problem) (n : Mark) :
    From before own (.marked c m p n)
  | unusable {u : Unusable} (h : own u) : From before own (.unusable u)

attribute [grind ←] Error.From.marked Error.From.unusable

theorem Error.From.mono {before : Option Error} {own own' : Unusable → Prop} {e : Error}
    (h : Error.From before own e) (hown : ∀ u, own u → own' u) : Error.From before own' e := by
  cases h with
  | earlier h => exact .earlier h
  | marked c m p n => exact .marked c m p n
  | unusable h => exact .unusable (hown _ h)

def Unusable.Never (_ : Unusable) : Prop := False

variable {σ α β : Type} {I : σ → Prop} {P : Error → Prop} {Q : α → Prop} {R : β → Prop}

/-- From a state, an action comes to a value and a state as `post` says, or fails with an error of
the kind `P`. -/
def Meets (P : Error → Prop) (act : StateT σ (Except Error) α) (s : σ) (post : α → σ → Prop) :
    Prop :=
  match act.run s with
  | .ok (a, s') => post a s'
  | .error e => P e

namespace Meets

variable {s : σ} {post : α → σ → Prop}

theorem pure {a : α} (h : post a s) : Meets P (pure a) s post := h

theorem throw {e : Error} (h : P e) :
    Meets P (throw e : StateT σ (Except Error) α) s post := h

theorem get {post : σ → σ → Prop} (h : post s s) :
    Meets P (get : StateT σ (Except Error) σ) s post := h

theorem set {post : PUnit → σ → Prop} {s' : σ} (h : post ⟨⟩ s') :
    Meets P (set s' : StateT σ (Except Error) PUnit) s post := h

theorem modify {post : PUnit → σ → Prop} {f : σ → σ} (h : post ⟨⟩ (f s)) :
    Meets P (modify f : StateT σ (Except Error) PUnit) s post := h

theorem bind {x : StateT σ (Except Error) α} {f : α → StateT σ (Except Error) β}
    {m : α → σ → Prop} {post : β → σ → Prop} (hx : Meets P x s m)
    (hf : ∀ a s', m a s' → Meets P (f a) s' post) : Meets P (x >>= f) s post := by
  unfold Meets at hx ⊢
  rw [StateT.run_bind]
  cases hr : x.run s with
  | error e =>
    rw [hr] at hx
    exact hx
  | ok r =>
    rw [hr] at hx
    exact hf r.1 r.2 hx

theorem ok {act : StateT σ (Except Error) α} (h : Meets P act s post) {a : α} {s' : σ}
    (hr : act.run s = .ok (a, s')) : post a s' := by
  unfold Meets at h
  rwa [hr] at h

theorem error {act : StateT σ (Except Error) α} (h : Meets P act s post) {e : Error}
    (hr : act.run s = .error e) : P e := by
  unfold Meets at h
  rwa [hr] at h

theorem of_run {act : StateT σ (Except Error) α} {a : α} {s' : σ}
    (hr : act.run s = .ok (a, s')) (h : post a s') : Meets P act s post := by
  unfold Meets
  rw [hr]
  exact h

theorem after {x : StateT σ (Except Error) α} {f : α → StateT σ (Except Error) β}
    {post : β → σ → Prop} {a : α} {s' : σ} (hr : x.run s = .ok (a, s'))
    (h : Meets P (f a) s' post) : Meets P (x >>= f) s post := by
  unfold Meets
  rw [StateT.run_bind, hr]
  exact h

theorem lift {r : Except Error α} {f : α → StateT σ (Except Error) β} {post : β → σ → Prop}
    (hf : ∀ a, r = .ok a → Meets P (f a) s post) (he : ∀ e, r = .error e → P e) :
    Meets P (liftM r >>= f) s post := by
  cases r with
  | error e => exact he e rfl
  | ok a => exact hf a rfl

theorem mono {act : StateT σ (Except Error) α} {post' : α → σ → Prop} (h : Meets P act s post)
    (hp : ∀ a s', post a s' → post' a s') : Meets P act s post' := by
  unfold Meets at h ⊢
  cases hr : act.run s with
  | error e =>
    rw [hr] at h
    exact h
  | ok r =>
    rw [hr] at h
    exact hp r.1 r.2 h

/-- An invariant of a loop may count the rounds that are left. -/
theorem foldlM {f : β → α → StateT σ (Except Error) β} {J : Nat → β → σ → Prop}
    (h : ∀ k b a s, J (k + 1) b s → Meets P (f b a) s (J k)) :
    ∀ (xs : List α) (b : β) (s : σ), J xs.length b s → Meets P (xs.foldlM f b) s (J 0)
  | [], _, _, hj => .pure hj
  | a :: xs, b, s, hj => by
    rw [List.foldlM_cons]
    exact (h xs.length b a s hj).bind fun b' s' hj' => foldlM h xs b' s' hj'

end Meets

/-- From where `I` holds, an action comes to where it holds again, with a value of the kind `Q`, or
fails with an error of the kind `P`. -/
def Gives (I : σ → Prop) (P : Error → Prop) (Q : α → Prop) (act : StateT σ (Except Error) α) :
    Prop :=
  ∀ s, I s → Meets P act s fun a s' => Q a ∧ I s'

def Upholds (I : σ → Prop) (P : Error → Prop) (act : StateT σ (Except Error) α) : Prop :=
  Gives I P (fun _ => True) act

namespace Gives

theorem pure {a : α} (h : Q a) : Gives I P Q (pure a) := fun _ hs => .pure ⟨h, hs⟩

theorem throw {e : Error} (h : P e) : Gives I P Q (throw e : StateT σ (Except Error) α) :=
  fun _ _ => .throw h

theorem bind {x : StateT σ (Except Error) α} {f : α → StateT σ (Except Error) β}
    (hx : Gives I P Q x) (hf : ∀ a, Q a → Gives I P R (f a)) : Gives I P R (x >>= f) :=
  fun s hs => (hx s hs).bind fun a s' h => hf a h.1 s' h.2

theorem mono {Q' : α → Prop} {act : StateT σ (Except Error) α} (h : Gives I P Q act)
    (hq : ∀ a, Q a → Q' a) : Gives I P Q' act :=
  fun s hs => (h s hs).mono fun a _ h => ⟨hq a h.1, h.2⟩

theorem get {S : σ → Prop} (h : ∀ s, I s → S s) :
    Gives I P S (get : StateT σ (Except Error) σ) :=
  fun s hs => .get ⟨h s hs, hs⟩

theorem mapM {f : α → StateT σ (Except Error) β} (h : ∀ a, Gives I P R (f a)) :
    ∀ xs : List α, Gives I P (fun bs => ∀ b ∈ bs, R b) (xs.mapM f)
  | [] => pure nofun
  | a :: xs => by
    rw [List.mapM_cons]
    refine (h a).bind fun b hb => (mapM h xs).bind fun bs hbs => pure ?_
    intro c hc
    rcases List.mem_cons.mp hc with rfl | hc
    · exact hb
    · exact hbs c hc

theorem ok {act : StateT σ (Except Error) α} (h : Gives I P Q act) {s s' : σ} {a : α} (hs : I s)
    (hr : act.run s = .ok (a, s')) : Q a ∧ I s' :=
  (h s hs).ok hr

theorem error {act : StateT σ (Except Error) α} (h : Gives I P Q act) {s : σ} {e : Error}
    (hs : I s) (hr : act.run s = .error e) : P e :=
  (h s hs).error hr

theorem upholds {act : StateT σ (Except Error) α} (h : Gives I P Q act) : Upholds I P act :=
  h.mono fun _ _ => trivial

end Gives

namespace Upholds

@[grind ←] theorem pure (a : α) : Upholds I P (pure a) := Gives.pure trivial

@[grind ←] theorem throw {e : Error} (h : P e) :
    Upholds I P (throw e : StateT σ (Except Error) α) :=
  Gives.throw h

@[grind ←] theorem bind {x : StateT σ (Except Error) α} {f : α → StateT σ (Except Error) β}
    (hx : Upholds I P x) (hf : ∀ a, Upholds I P (f a)) : Upholds I P (x >>= f) :=
  Gives.bind hx fun a _ => hf a

@[grind ←] theorem get : Upholds I P (get : StateT σ (Except Error) σ) :=
  Gives.get fun _ _ => trivial

@[grind ←] theorem set {s : σ} (h : I s) :
    Upholds I P (set s : StateT σ (Except Error) PUnit) :=
  fun _ _ => .set ⟨trivial, h⟩

@[grind ←] theorem modify {f : σ → σ} (h : ∀ s, I s → I (f s)) :
    Upholds I P (modify f : StateT σ (Except Error) PUnit) :=
  fun s hs => .modify ⟨trivial, h s hs⟩

@[grind ←] theorem discard {x : StateT σ (Except Error) α} (hx : Upholds I P x) :
    Upholds I P (discard x) :=
  hx.bind fun _ => pure _

theorem meets {act : StateT σ (Except Error) α} {s : σ} (h : Upholds I P act) (hs : I s) :
    Meets P act s fun _ s' => I s' :=
  (h s hs).mono fun _ _ h => h.2

theorem guarded {c : Prop} [Decidable c] {x : StateT σ (Except Error) α}
    {y : α → StateT σ (Except Error) PUnit} {f : PUnit → StateT σ (Except Error) β}
    (hx : Upholds I P x) (hy : ∀ a, Upholds I P (y a)) (hf : ∀ r, Upholds I P (f r)) :
    Upholds I P (if c then x >>= fun a => y a >>= f else f ⟨⟩) := by
  split
  · exact hx.bind fun a => (hy a).bind hf
  · exact hf ⟨⟩

theorem foldlM {f : β → α → StateT σ (Except Error) β} (h : ∀ b a, Upholds I P (f b a)) :
    ∀ (xs : List α) (b : β), Upholds I P (xs.foldlM f b)
  | [], b => pure b
  | a :: xs, b => (h b a).bind fun b => foldlM h xs b

theorem forIn {f : α → PUnit → StateT σ (Except Error) (ForInStep PUnit)} :
    ∀ {xs : List α}, (∀ a ∈ xs, Upholds I P (f a ⟨⟩)) → Upholds I P (forIn xs ⟨⟩ f)
  | [], _ => pure _
  | a :: xs, h => by
    rw [List.forIn_cons]
    refine (h a List.mem_cons_self).bind fun r => ?_
    cases r with
    | done b => exact pure _
    | yield b => exact forIn fun a ha => h a (List.mem_cons_of_mem _ ha)

theorem mapM_length {f : α → StateT σ (Except Error) β} (h : ∀ a, Upholds I P (f a)) :
    ∀ xs : List α, Gives I P (fun bs => bs.length = xs.length) (xs.mapM f)
  | [] => Gives.pure rfl
  | a :: xs => by
    rw [List.mapM_cons]
    refine Gives.bind (h a) fun b _ => Gives.bind (mapM_length h xs) fun bs hbs => Gives.pure ?_
    rw [List.length_cons, List.length_cons, hbs]

end Upholds

end ProfilerBootstrap.Yaml

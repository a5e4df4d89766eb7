namespace FlatQuery

variable {f : α → Except ε β} {xs : List α} {ys : List β}

theorem except_bind_eq_ok {x : Except ε α} {g : α → Except ε β} :
    (x >>= g) = .ok b ↔ ∃ a, x = .ok a ∧ g a = .ok b := by
  cases x <;> simp [bind, Except.bind]

theorem unit_bind_eq_ok {x : Except ε Unit} {g : Unit → Except ε β} :
    (x >>= g) = .ok b ↔ x = .ok () ∧ g () = .ok b := by
  rw [except_bind_eq_ok]
  exact ⟨fun ⟨_, hx, hg⟩ => ⟨hx, hg⟩, fun h => ⟨_, h⟩⟩

theorem except_bind_eq_error {x : Except ε α} {g : α → Except ε β} :
    (x >>= g) = .error e ↔ x = .error e ∨ ∃ a, x = .ok a ∧ g a = .error e := by
  cases x <;> simp [bind, Except.bind]

-- Where the next steps fail alike, so do the steps as a whole.
theorem except_bind_error_mono {x : Except ε α} {g g' : α → Except ε β} (h : (x >>= g) = .error e)
    (hg : ∀ a, g a = .error e → g' a = .error e) : (x >>= g') = .error e := by
  rw [except_bind_eq_error] at h ⊢
  exact h.imp_right fun ⟨a, ha, h⟩ => ⟨a, ha, hg a h⟩

theorem except_map_eq_ok {x : Except ε α} {g : α → β} :
    x.map g = .ok b ↔ ∃ a, x = .ok a ∧ g a = b := by
  cases x <;> simp [Except.map]

-- A step from a mapped result is a mapped step, if it is one from every result.
theorem except_bind_map {x : Except ε α} {f : α → α'} {g : β → β'} {k : α → Except ε β}
    {k' : α' → Except ε β'} (h : ∀ a, k' (f a) = (k a).map g) :
    (x.map f >>= k') = (x >>= k).map g := by
  cases x
  case error => rfl
  case ok a => exact h a

theorem except_bind_map_right {x : Except ε α} {g : β → β'} {k : α → Except ε β}
    {k' : α → Except ε β'} (h : ∀ a, k' a = (k a).map g) : (x >>= k') = (x >>= k).map g := by
  cases x
  case error => rfl
  case ok a => exact h a

theorem mapM_map_map {as : List α} {g : α → α'} {h : β → β'} {f : α → Except ε β}
    {f' : α' → Except ε β'} (hf : ∀ a, f' (g a) = (f a).map h) :
    (as.map g).mapM f' = (as.mapM f).map (·.map h) := by
  induction as
  case nil => rfl
  case cons a as hi =>
    rw [List.map_cons, List.mapM_cons, List.mapM_cons, hf]
    refine except_bind_map fun b => ?_
    rw [hi]
    exact except_bind_map fun bs => rfl

theorem exists_of_isOk {x : Except ε α} (h : x.isOk) : ∃ a, x = .ok a := by
  cases x
  case error => contradiction
  case ok a => exact ⟨a, rfl⟩

theorem forM_eq_ok {f : α → Except ε Unit} (h : ∀ a ∈ xs, f a = .ok ()) : xs.forM f = .ok () := by
  induction xs
  case nil => rfl
  case cons a xs hi =>
    have ⟨ha, hxs⟩ := List.forall_mem_cons.mp h
    exact except_bind_eq_ok.mpr ⟨_, ha, hi hxs⟩

theorem ok_of_forM_eq_ok {f : α → Except ε Unit} (h : xs.forM f = .ok ()) (ha : a ∈ xs) :
    f a = .ok () := by
  induction xs
  case nil => contradiction
  case cons x xs hi =>
    obtain ⟨_, hx, hxs⟩ := except_bind_eq_ok.mp h
    cases ha
    case head => exact hx
    case tail ha => exact hi hxs ha

theorem forM_eq_ok_iff {f : α → Except ε Unit} :
    xs.forM f = .ok () ↔ ∀ a ∈ xs, f a = .ok () :=
  ⟨fun h _ ha => ok_of_forM_eq_ok h ha, forM_eq_ok⟩

theorem mapM_cons_eq_ok :
    (a :: xs).mapM f = .ok ys ↔ ∃ b bs, f a = .ok b ∧ xs.mapM f = .ok bs ∧ ys = b :: bs := by
  simp only [List.mapM_cons, except_bind_eq_ok, pure, Except.pure, Except.ok.injEq]
  constructor
  case mp  => rintro ⟨b, hb, bs, hbs, rfl⟩; exact ⟨b, bs, hb, hbs, rfl⟩
  case mpr => rintro ⟨b, bs, hb, hbs, rfl⟩; exact ⟨b, hb, bs, hbs, rfl⟩

theorem mapM_map_eq_ok {as : List γ} {g : γ → α} {h : γ → β} (hf : ∀ a ∈ as, f (g a) = .ok (h a)) :
    (as.map g).mapM f = .ok (as.map h) := by
  induction as
  case nil => rfl
  case cons a as hi =>
    have ⟨ha, has⟩ := List.forall_mem_cons.mp hf
    exact mapM_cons_eq_ok.mpr ⟨_, _, ha, hi has, rfl⟩

-- A view of the results is the same view of what they come from.
theorem map_eq_of_mapM_eq_ok {g : β → γ} {h : α → γ} (hm : xs.mapM f = .ok ys)
    (hv : ∀ a ∈ xs, ∀ b, f a = .ok b → g b = h a) : ys.map g = xs.map h := by
  induction xs generalizing ys
  case nil =>
    simp [pure, Except.pure] at hm
    simp [← hm]
  case cons a xs hi =>
    obtain ⟨b, bs, hb, hbs, rfl⟩ := mapM_cons_eq_ok.mp hm
    simp [hv a (.head _) b hb, hi hbs fun a ha => hv a (.tail _ ha)]

theorem ok_of_mapM_eq_ok (hm : xs.mapM f = .ok ys) (h : a ∈ xs) : ∃ b, f a = .ok b := by
  induction xs generalizing ys
  case nil => contradiction
  case cons x xs hi =>
    obtain ⟨b, bs, hb, hbs, -⟩ := mapM_cons_eq_ok.mp hm
    cases h
    case head => exact ⟨b, hb⟩
    case tail h => exact hi hbs h

theorem exists_of_mem_mapM (hm : xs.mapM f = .ok ys) (h : b ∈ ys) : ∃ a ∈ xs, f a = .ok b := by
  induction xs generalizing ys
  case nil =>
    obtain rfl := Except.ok.inj hm
    contradiction
  case cons a xs hi =>
    obtain ⟨b, bs, hb, hbs, rfl⟩ := mapM_cons_eq_ok.mp hm
    cases h
    case head => exact ⟨a, .head _, hb⟩
    case tail h =>
      obtain ⟨a, ha, hb⟩ := hi hbs h
      exact ⟨a, .tail _ ha, hb⟩

theorem exists_mapM_eq_ok (h : ∀ a ∈ xs, ∃ b, f a = .ok b) : ∃ ys, xs.mapM f = .ok ys := by
  induction xs
  case nil => exact ⟨[], rfl⟩
  case cons a xs hi =>
    obtain ⟨⟨b, hb⟩, hxs⟩ := List.forall_mem_cons.mp h
    obtain ⟨ys, hys⟩ := hi hxs
    exact ⟨_, mapM_cons_eq_ok.mpr ⟨b, ys, hb, hys, rfl⟩⟩

-- Where every step succeeds, none of its results is left out.
theorem filterMap_of_mapM_eq_ok (hm : xs.mapM f = .ok ys) :
    xs.filterMap (fun a => (f a).toOption) = ys := by
  induction xs generalizing ys
  case nil => exact Except.ok.inj hm
  case cons a xs hi =>
    obtain ⟨b, bs, hb, hbs, rfl⟩ := mapM_cons_eq_ok.mp hm
    rw [List.filterMap_cons, hb, hi hbs]
    rfl

-- The first step that fails is the one that is reported.
theorem mapM_eq_error {as : List α} (h : ∀ a ∈ as, ∃ b, f a = .ok b) (hx : f x = .error e) :
    (as ++ x :: xs).mapM f = .error e := by
  induction as
  case nil => simp [hx, bind, Except.bind]
  case cons a as hi =>
    obtain ⟨⟨b, hb⟩, has⟩ := List.forall_mem_cons.mp h
    simp [hb, hi has, bind, Except.bind]

theorem exists_of_mapM_eq_error (hm : xs.mapM f = .error e) : ∃ a ∈ xs, f a = .error e := by
  induction xs
  case nil => contradiction
  case cons a xs hi =>
    rw [List.mapM_cons] at hm
    obtain ha | ⟨b, -, hm⟩ := except_bind_eq_error.mp hm
    case inl => exact ⟨a, .head _, ha⟩
    case inr =>
      obtain hxs | ⟨bs, -, hm⟩ := except_bind_eq_error.mp hm
      case inr => contradiction
      case inl =>
        obtain ⟨a, ha, he⟩ := hi hxs
        exact ⟨a, .tail _ ha, he⟩

theorem length_of_mapM_eq_ok (hm : xs.mapM f = .ok ys) : ys.length = xs.length := by
  have hu := map_eq_of_mapM_eq_ok (g := fun _ => ()) (h := fun _ => ()) hm (by simp)
  simpa using congrArg List.length hu

end FlatQuery

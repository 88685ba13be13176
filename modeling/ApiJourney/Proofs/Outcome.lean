-- SUMMARY: What holds of the result of a computation, or else of its failure.

/-!
# Outcomes

A computation that may fail is described by what holds of its result and what holds of its
failure. Computations one after the other are described by what each of them leaves to the
next one.
-/

namespace ApiJourney

/-- Of the result the first property holds, or of the failure the second one. -/
def Ensures (r : Except ε α) (P : α → Prop) (E : ε → Prop) : Prop :=
  match r with
  | .ok a => P a
  | .error e => E e

instance (r : Except ε α) (P : α → Prop) (E : ε → Prop) [DecidablePred P] [DecidablePred E] :
    Decidable (Ensures r P E) :=
  match r with
  | .ok a => inferInstanceAs (Decidable (P a))
  | .error e => inferInstanceAs (Decidable (E e))

namespace Ensures

variable {P : α → Prop} {Q : β → Prop} {E : ε → Prop}

@[simp] theorem ok_iff {a : α} : Ensures (.ok a : Except ε α) P E ↔ P a := Iff.rfl

@[simp] theorem error_iff {e : ε} : Ensures (.error e : Except ε α) P E ↔ E e := Iff.rfl

theorem of_ok {r : Except ε α} (h : Ensures r P E) {a : α} (hr : r = .ok a) : P a := by
  subst hr
  exact h

theorem of_error {r : Except ε α} (h : Ensures r P E) {e : ε} (hr : r = .error e) : E e := by
  subst hr
  exact h

/-- There is a result or a failure. -/
theorem ok_or_error {r : Except ε α} (h : Ensures r P E) :
    (∃ a, r = .ok a ∧ P a) ∨ ∃ e, r = .error e ∧ E e := by
  cases r with
  | ok a => exact .inl ⟨a, rfl, h⟩
  | error e => exact .inr ⟨e, rfl, h⟩

theorem imp {r : Except ε α} {P' : α → Prop} {E' : ε → Prop} (h : Ensures r P E)
    (hP : ∀ a, P a → P' a) (hE : ∀ e, E e → E' e) : Ensures r P' E' := by
  cases r with
  | ok a => exact hP a h
  | error e => exact hE e h

theorem imp_ok {r : Except ε α} {P' : α → Prop} (h : Ensures r P E) (hP : ∀ a, P a → P' a) :
    Ensures r P' E :=
  h.imp hP fun _ h => h

theorem bind {r : Except ε α} {f : α → Except ε β} (h : Ensures r P E)
    (hf : ∀ a, P a → Ensures (f a) Q E) : Ensures (r >>= f) Q E := by
  cases r with
  | ok a => exact hf a h
  | error e => exact h

theorem ite {c : Prop} [Decidable c] {r r' : Except ε α} (h : Ensures r P E)
    (h' : Ensures r' P E) : Ensures (if c then r else r') P E := by
  split <;> assumption

theorem map {r : Except ε α} {f : α → β} (h : Ensures r (fun a => Q (f a)) E) :
    Ensures (r.map f) Q E := by
  cases r with
  | ok a => exact h
  | error e => exact h

theorem mapError {r : Except ε α} {f : ε → δ} {F : δ → Prop}
    (h : Ensures r P (fun e => F (f e))) : Ensures (r.mapError f) P F := by
  cases r with
  | ok a => exact h
  | error e => exact h

/-- Nothing is said. -/
theorem vacuous (r : Except ε α) : Ensures r (fun _ => True) fun _ => True := by
  cases r <;> trivial

/-- Where nothing is said of failures, it does not matter what comes first. -/
theorem andThen {r : Except ε α} {f : α → Except ε β} (h : ∀ a, Ensures (f a) Q fun _ => True) :
    Ensures (r >>= f) Q fun _ => True :=
  (vacuous r).bind fun a _ => h a

theorem mapM {xs : List α} {f : α → Except ε β} (h : ∀ x ∈ xs, Ensures (f x) Q E) :
    Ensures (xs.mapM f) (fun ys => ∀ y ∈ ys, Q y) E := by
  induction xs with
  | nil => exact fun y hy => nomatch hy
  | cons x xs ih =>
    rw [List.forall_mem_cons] at h
    rw [List.mapM_cons]
    exact h.1.bind fun y hy => (ih h.2).bind fun ys hys => List.forall_mem_cons.2 ⟨hy, hys⟩

/-- Of each item that is found somewhere the property holds. -/
theorem flatMapM_all {xs : List α} {f : α → Except ε (List β)}
    (h : ∀ x ∈ xs, Ensures (f x) (fun ys => ∀ y ∈ ys, Q y) E) :
    Ensures (xs.flatMapM f) (fun ys => ∀ y ∈ ys, Q y) E := by
  induction xs with
  | nil => exact fun y hy => nomatch hy
  | cons x xs ih =>
    rw [List.forall_mem_cons] at h
    rw [List.flatMapM_cons]
    exact h.1.bind fun ys hys => (ih h.2).bind fun zs hzs => List.forall_mem_append.2 ⟨hys, hzs⟩

theorem flatMapM {xs : List α} {f : α → Except ε (List γ)}
    (h : ∀ x ∈ xs, Ensures (f x) (fun _ => True) E) :
    Ensures (xs.flatMapM f) (fun _ => True) E :=
  (flatMapM_all fun x hx => (h x hx).imp (fun _ _ _ _ => trivial) fun _ h => h).imp
    (fun _ _ => trivial) fun _ h => h

/-- What is left of a list are items of it. -/
theorem filterM_mem {α : Type} {xs : List α} {p : α → Except ε Bool}
    (h : ∀ x ∈ xs, Ensures (p x) (fun _ => True) E) :
    Ensures (xs.filterM p) (fun ys => ∀ y ∈ ys, y ∈ xs) E := by
  suffices hloop : ∀ rest acc, (∀ x ∈ rest, x ∈ xs) → (∀ x ∈ acc, x ∈ xs) →
      Ensures (List.filterAuxM p rest acc) (fun ys => ∀ y ∈ ys, y ∈ xs) E from
    (hloop xs [] (fun _ hx => hx) nofun).bind fun ys hys y hy => hys y (List.mem_reverse.1 hy)
  intro rest
  induction rest with
  | nil => exact fun acc _ hacc => hacc
  | cons x rest ih =>
    intro acc hrest hacc
    rw [List.forall_mem_cons] at hrest
    refine (h x hrest.1).bind fun b _ => ih _ hrest.2 ?_
    cases b with
    | true => exact List.forall_mem_cons.2 ⟨hrest.1, hacc⟩
    | false => exact hacc

theorem filterM {α : Type} {xs : List α} {p : α → Except ε Bool}
    (h : ∀ x ∈ xs, Ensures (p x) (fun _ => True) E) :
    Ensures (xs.filterM p) (fun _ => True) E :=
  (filterM_mem h).imp (fun _ _ => trivial) fun _ h => h

end Ensures

theorem toOption_eq_some {r : Except ε α} {a : α} : r.toOption = some a ↔ r = .ok a := by
  cases r <;> simp [Except.toOption]

/-- A result of two computations comes from a result of the first one. -/
theorem bind_eq_ok {x : Except ε α} {f : α → Except ε β} {b : β} :
    (x >>= f) = .ok b ↔ ∃ a, x = .ok a ∧ f a = .ok b := by
  cases x with
  | error e => exact ⟨fun h => (nomatch h), fun ⟨_, h, _⟩ => (nomatch h)⟩
  | ok a => exact ⟨fun h => ⟨a, rfl, h⟩, fun ⟨_, ha, h⟩ => by cases ha; exact h⟩

/-- A failure of two computations comes from the first one, or from the second one behind a result
    of the first. -/
theorem bind_eq_error {x : Except ε α} {f : α → Except ε β} {e : ε} :
    (x >>= f) = .error e ↔ x = .error e ∨ ∃ a, x = .ok a ∧ f a = .error e := by
  cases x with
  | error e' =>
    constructor
    · intro h
      cases h
      exact .inl rfl
    · rintro (h | ⟨_, h, -⟩)
      · cases h
        rfl
      · cases h
  | ok a =>
    constructor
    · exact fun h => .inr ⟨a, rfl, h⟩
    · rintro (h | ⟨_, ha, h⟩)
      · cases h
      · cases ha
        exact h

theorem map_eq_ok {x : Except ε α} {f : α → β} {b : β} :
    x.map f = .ok b ↔ ∃ a, x = .ok a ∧ f a = b := by
  cases x with
  | error e => exact ⟨fun h => (nomatch h), fun ⟨_, h, _⟩ => (nomatch h)⟩
  | ok a =>
    exact ⟨fun h => ⟨a, rfl, Except.ok.inj h⟩, fun ⟨_, ha, h⟩ => by cases ha; exact congrArg _ h⟩

theorem mapError_eq_ok {x : Except ε α} {f : ε → δ} {a : α} : x.mapError f = .ok a ↔ x = .ok a := by
  cases x with
  | ok b => exact ⟨fun h => by cases h; rfl, fun h => by cases h; rfl⟩
  | error e => exact ⟨nofun, nofun⟩

/-- A sequence of checks passes if each of them does. -/
theorem forM_eq_ok {f : α → Except ε Unit} {xs : List α} :
    xs.forM f = .ok () ↔ ∀ x ∈ xs, f x = .ok () := by
  induction xs with
  | nil => exact iff_of_true rfl nofun
  | cons x xs ih =>
    rw [List.forall_mem_cons, ← ih]
    refine (bind_eq_ok (x := f x)).trans ?_
    exact ⟨fun ⟨_, hx, hxs⟩ => ⟨hx, hxs⟩, fun ⟨hx, hxs⟩ => ⟨(), hx, hxs⟩⟩

/-- A sequence of checks fails at one of them. -/
theorem exists_of_forM_error {f : α → Except ε Unit} {xs : List α} {e : ε}
    (h : xs.forM f = .error e) : ∃ x ∈ xs, f x = .error e := by
  induction xs with
  | nil => cases h
  | cons x xs ih =>
    rcases bind_eq_error.1 h with hx | ⟨_, -, h⟩
    · exact ⟨x, List.mem_cons_self, hx⟩
    · obtain ⟨y, hy, hfails⟩ := ih h
      exact ⟨y, List.mem_cons_of_mem _ hy, hfails⟩

/-- Where each item has a result, that of an item is one of the results. -/
theorem exists_of_mapM {f : α → Except ε β} {xs : List α} {ys : List β} (h : xs.mapM f = .ok ys)
    {x : α} (hx : x ∈ xs) : ∃ y ∈ ys, f x = .ok y := by
  induction xs generalizing ys with
  | nil => cases hx
  | cons x' xs ih =>
    rw [List.mapM_cons] at h
    obtain ⟨y, hy, h⟩ := bind_eq_ok.1 h
    obtain ⟨more, hmore, h⟩ := bind_eq_ok.1 h
    obtain rfl := Except.ok.inj h
    rcases List.mem_cons.1 hx with rfl | hx
    · exact ⟨y, List.mem_cons_self, hy⟩
    · obtain ⟨y', hy', hf⟩ := ih hmore hx
      exact ⟨y', List.mem_cons_of_mem _ hy', hf⟩

/-- Where no step depends on what the steps before it have left, all of them come to an end if
    each of them does. -/
theorem foldlM_eq_ok {f : β → α → Except ε β} {P : α → Prop}
    (h : ∀ b x, (∃ c, f b x = .ok c) ↔ P x) (xs : List α) (b : β) :
    (∃ c, xs.foldlM f b = .ok c) ↔ ∀ x ∈ xs, P x := by
  induction xs generalizing b with
  | nil => exact ⟨fun _ x hx => (nomatch hx), fun _ => ⟨b, rfl⟩⟩
  | cons x xs ih =>
    rw [List.foldlM_cons, List.forall_mem_cons, ← h b x]
    cases hx : f b x with
    | error e => exact ⟨fun ⟨_, hc⟩ => (nomatch hc), fun ⟨⟨_, hc⟩, _⟩ => (nomatch hc)⟩
    | ok c => exact (ih c).trans (iff_and_self.2 fun _ => ⟨c, rfl⟩)

end ApiJourney

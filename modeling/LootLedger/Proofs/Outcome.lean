/-!
# Steps that may refuse

Readers are chains of steps, each of which gives a value or a reason to refuse. A chain that comes
to its end has a value for every step, and a step that is repeated along a list has one for every
element. A chain that does not is refused by one of its steps, so what is known of the reasons of
all steps is known of the chain.

## Main definitions

* `RefusedFor`: a step is refused, if at all, for a reason of a kind

## Main results

* `exists_of_bind_eq_ok`, `exists_of_bind_pure_eq_ok`: the steps of a chain
* `forall_of_mapM_eq_ok`, `mapM_eq_error_iff`, `exists_mem_of_mapM_eq_some`, `mapM_map_eq_pure`: a
  step along a list
* `refusedFor_bind_iff`, `RefusedFor.mapM`: the reasons of a chain and of a step along a list
-/

namespace LootLedger

variable {ε α β : Type}

theorem toOption_eq_some_iff {x : Except ε α} {a : α} : x.toOption = some a ↔ x = .ok a := by
  cases x with
  | error e => exact ⟨nofun, nofun⟩
  | ok b => exact ⟨fun h => congrArg _ (Option.some.inj h), fun h => congrArg _ (Except.ok.inj h)⟩

theorem map_eq_error_iff {x : Except ε α} {f : α → β} {e : ε} :
    x.map f = .error e ↔ x = .error e := by
  cases x <;> simp [Except.map]

theorem map_eq_ok_iff {x : Except ε α} {f : α → β} {b : β} :
    x.map f = .ok b ↔ ∃ a, x = .ok a ∧ f a = b := by
  cases x <;> simp [Except.map]

theorem bind_pure_eq_map (x : Except ε α) (f : α → β) :
    (x >>= fun a => pure (f a)) = x.map f := by
  cases x <;> rfl

/-- A chain of two steps that comes to its end. -/
theorem exists_of_bind_eq_ok {x : Except ε α} {f : α → Except ε β} {b : β}
    (h : (x >>= f) = .ok b) : ∃ a, x = .ok a ∧ f a = .ok b := by
  cases x with
  | error e => cases h
  | ok a => exact ⟨a, rfl, h⟩

/-- A step whose value is only put into a form. -/
theorem exists_of_bind_pure_eq_ok {x : Except ε α} {g : α → β} {b : β}
    (h : (x >>= fun a => pure (g a)) = .ok b) : ∃ a, x = .ok a ∧ g a = b := by
  obtain ⟨a, ha, h⟩ := exists_of_bind_eq_ok h
  exact ⟨a, ha, Except.ok.inj h⟩

/-- A step along a list that comes to its end has a value for every element, of which it fulfils
what the step fulfils. -/
theorem forall_of_mapM_eq_ok {f : α → Except ε β} {P : β → Prop} (hf : ∀ x y, f x = .ok y → P y)
    {xs : List α} {ys : List β} (h : xs.mapM f = .ok ys) :
    ys.length = xs.length ∧ ∀ y ∈ ys, P y := by
  induction xs generalizing ys with
  | nil =>
    rw [List.mapM_nil] at h
    obtain rfl := Except.ok.inj h
    exact ⟨rfl, fun y hy => by cases hy⟩
  | cons x xs ih =>
    rw [List.mapM_cons] at h
    obtain ⟨y, hy, h⟩ := exists_of_bind_eq_ok h
    obtain ⟨zs, hzs, h⟩ := exists_of_bind_eq_ok h
    obtain rfl := Except.ok.inj h
    obtain ⟨hlength, hall⟩ := ih hzs
    refine ⟨congrArg (· + 1) hlength, fun z hz => ?_⟩
    rcases List.mem_cons.mp hz with rfl | hz
    · exact hf x z hy
    · exact hall z hz

/-- A step along a list is refused where the first element is, and for the same reason. -/
theorem mapM_eq_error_iff {f : α → Except ε β} {xs : List α} {e : ε} :
    xs.mapM f = .error e ↔ ∃ x, xs.find? (fun x => !(f x).isOk) = some x ∧ f x = .error e := by
  induction xs with
  | nil => exact ⟨nofun, nofun⟩
  | cons x xs ih =>
    rw [List.mapM_cons, List.find?_cons]
    cases hx : f x with
    | error e' => simp [bind, Except.bind, Except.isOk, Except.toBool, hx]
    | ok y =>
      have hrest : (Except.ok y >>= fun y => do return y :: (← xs.mapM f)) =
          (xs.mapM f).map (y :: ·) := bind_pure_eq_map _ _
      rw [hrest, map_eq_error_iff, ih]
      simp [Except.isOk, Except.toBool]

/-- What is there after a step along a list came of some element. -/
theorem exists_mem_of_mapM_eq_some {f : α → Option β} {xs : List α} {ys : List β}
    (h : xs.mapM f = some ys) {y : β} (hy : y ∈ ys) : ∃ x ∈ xs, f x = some y := by
  induction xs generalizing ys with
  | nil =>
    rw [List.mapM_nil] at h
    obtain rfl := Option.some.inj h
    cases hy
  | cons x xs ih =>
    rw [List.mapM_cons] at h
    obtain ⟨z, hz, h⟩ := Option.bind_eq_some_iff.mp h
    obtain ⟨zs, hzs, h⟩ := Option.bind_eq_some_iff.mp h
    obtain rfl := Option.some.inj h
    rcases List.mem_cons.mp hy with rfl | hy
    · exact ⟨x, List.mem_cons_self, hz⟩
    · obtain ⟨x', hx', hfx'⟩ := ih hzs hy
      exact ⟨x', List.mem_cons_of_mem _ hx', hfx'⟩

/-- A step that undoes `g` undoes it along a list. -/
theorem mapM_map_eq_pure {m : Type → Type} [Monad m] [LawfulMonad m] (f : α → m β) (g : β → α)
    {ys : List β} (h : ∀ y ∈ ys, f (g y) = pure y) : (ys.map g).mapM f = pure ys := by
  induction ys with
  | nil => exact List.mapM_nil
  | cons y ys ih =>
    rw [List.map_cons, List.mapM_cons, h y List.mem_cons_self, pure_bind,
      ih fun z hz => h z (List.mem_cons_of_mem _ hz), pure_bind]

/-! ### Reasons to refuse -/

/-- The step is refused, if at all, for a reason that has the property. -/
def RefusedFor (P : ε → Prop) (x : Except ε α) : Prop :=
  ∀ e, x = .error e → P e

section

variable {P : ε → Prop} {x : Except ε α}

theorem RefusedFor.mono {Q : ε → Prop} (h : RefusedFor P x) (hPQ : ∀ e, P e → Q e) :
    RefusedFor Q x :=
  fun e he => hPQ e (h e he)

@[simp] theorem refusedFor_ok (a : α) : RefusedFor P (.ok a) := nofun

@[simp] theorem refusedFor_pure (a : α) : RefusedFor P (pure a) := nofun

@[simp] theorem refusedFor_error_iff {e : ε} : RefusedFor P (.error e : Except ε α) ↔ P e :=
  ⟨fun h => h e rfl, fun h _ he => Except.error.inj he ▸ h⟩

@[simp] theorem refusedFor_throw_iff {e : ε} : RefusedFor P (throw e : Except ε α) ↔ P e :=
  refusedFor_error_iff

@[simp] theorem refusedFor_map_iff {f : α → β} : RefusedFor P (f <$> x) ↔ RefusedFor P x :=
  forall_congr' fun _ => imp_congr_left map_eq_error_iff

/-- **A chain of two steps** is refused by the first, or by the second on what the first gives. -/
@[simp] theorem refusedFor_bind_iff {f : α → Except ε β} :
    RefusedFor P (x >>= f) ↔ RefusedFor P x ∧ ∀ a, x = .ok a → RefusedFor P (f a) := by
  cases x with
  | ok a => exact ⟨fun h => ⟨refusedFor_ok a, fun _ ha => Except.ok.inj ha ▸ h⟩, fun h => h.2 a rfl⟩
  | error e =>
    have hbind : RefusedFor P ((.error e : Except ε α) >>= f) ↔ P e := refusedFor_error_iff
    rw [hbind, refusedFor_error_iff]
    exact ⟨fun h => ⟨h, nofun⟩, And.left⟩

@[simp] theorem refusedFor_ite_iff {c : Prop} [Decidable c] {y : Except ε α} :
    RefusedFor P (if c then x else y) ↔ (c → RefusedFor P x) ∧ (¬ c → RefusedFor P y) := by
  split <;> simp [*]

theorem RefusedFor.mapM {f : α → Except ε β} (hf : ∀ a, RefusedFor P (f a)) (xs : List α) :
    RefusedFor P (xs.mapM f) := by
  intro e he
  obtain ⟨a, -, ha⟩ := mapM_eq_error_iff.mp he
  exact hf a e ha

end

end LootLedger

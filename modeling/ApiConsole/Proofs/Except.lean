import Mathlib.Data.List.Forall2

/-!
# Steps that may fail

A sequence of steps succeeds exactly if each of them does, and else fails as the first that fails.
-/

namespace ApiConsole

variable {ε δ α β : Type}

theorem bind_eq_ok_iff {x : Except ε α} {f : α → Except ε β} {b : β} :
    x >>= f = .ok b ↔ ∃ a, x = .ok a ∧ f a = .ok b := by
  cases x <;> simp [bind, Except.bind]

theorem map_eq_ok_iff {x : Except ε α} {f : α → β} {b : β} :
    f <$> x = .ok b ↔ ∃ a, x = .ok a ∧ f a = b := by
  cases x <;> simp [Functor.map, Except.map]

theorem pure_eq_ok_iff {a b : α} : (pure a : Except ε α) = .ok b ↔ a = b :=
  Except.ok.injEq a b ▸ Iff.rfl

theorem mapError_eq_ok_iff {x : Except ε α} {f : ε → δ} {a : α} :
    x.mapError f = .ok a ↔ x = .ok a := by
  cases x <;> simp [Except.mapError]

theorem bind_eq_error_iff {x : Except ε α} {f : α → Except ε β} {error : ε} :
    x >>= f = .error error ↔ x = .error error ∨ ∃ a, x = .ok a ∧ f a = .error error := by
  cases x <;> simp [bind, Except.bind]

theorem mapError_eq_error_iff {x : Except ε α} {f : ε → δ} {error : δ} :
    x.mapError f = .error error ↔ ∃ cause, x = .error cause ∧ f cause = error := by
  cases x <;> simp [Except.mapError]

theorem mapM_eq_ok_iff {f : α → Except ε β} {as : List α} {bs : List β} :
    as.mapM f = .ok bs ↔ List.Forall₂ (fun a b => f a = .ok b) as bs := by
  induction as generalizing bs with
  | nil => cases bs <;> simp [pure, Except.pure]
  | cons a as ih =>
      simp only [List.mapM_cons, bind_eq_ok_iff, pure_eq_ok_iff, ih, List.forall₂_cons_left_iff]
      constructor
      · rintro ⟨b, here, rest, there, rfl⟩
        exact ⟨b, rest, here, there, rfl⟩
      · rintro ⟨b, rest, here, there, rfl⟩
        exact ⟨b, here, rest, there, rfl⟩

/-- A sequence of steps fails as the first of them that fails. -/
theorem mapM_eq_error_iff {f : α → Except ε β} {as : List α} {error : ε} :
    as.mapM f = .error error ↔
      ∃ before a after, as = before ++ a :: after ∧ (∀ b ∈ before, ∃ c, f b = .ok c) ∧
        f a = .error error := by
  induction as with
  | nil => simp [pure, Except.pure]
  | cons a as ih =>
      simp only [List.mapM_cons, bind_eq_error_iff, ih]
      constructor
      · rintro (here | ⟨c, fine, ⟨before, b, after, rfl, others, there⟩ | ⟨_, _, done⟩⟩)
        · exact ⟨[], a, as, rfl, by simp, here⟩
        · exact ⟨a :: before, b, after, rfl, List.forall_mem_cons.2 ⟨⟨c, fine⟩, others⟩, there⟩
        · cases done
      · rintro ⟨before, b, after, same, others, there⟩
        cases before with
        | nil =>
            cases same
            exact .inl there
        | cons first before =>
            cases same
            obtain ⟨⟨c, fine⟩, others⟩ := List.forall_mem_cons.1 others
            exact .inr ⟨c, fine, .inl ⟨before, b, after, rfl, others, there⟩⟩

end ApiConsole

import ChordRules.Toml.Reading

/-! # What scans read

A scan yields a property if everything that it can read has it, wherever it begins. The rules
follow the ways in which scans are put together; faults do not matter. -/
namespace ChordRules.Toml

theorem bind_eq_ok_iff {ε α β : Type} {x : Except ε α} {f : α → Except ε β} {b : β} :
    x >>= f = .ok b ↔ ∃ a, x = .ok a ∧ f a = .ok b := by
  cases x <;> simp [bind, Except.bind]

namespace Scan

variable {α β : Type} {P : α → Prop}

def Yields (r : Scan α) (P : α → Prop) : Prop :=
  ∀ (k k' : Cursor) (a : α), r k = .ok (a, k') → P a

namespace Yields

theorem pure {a : α} (h : P a) : (Pure.pure a : Scan α).Yields P := by
  intro k k' b hb
  cases hb
  exact h

/-- What the second scan yields may depend on what the first one does. -/
theorem bind {r : Scan β} {Q : β → Prop} {f : β → Scan α} (hr : r.Yields Q)
    (hf : ∀ b, Q b → (f b).Yields P) : (r >>= f).Yields P := by
  intro k k' a h
  obtain ⟨⟨b, k₁⟩, hk, h⟩ := bind_eq_ok_iff.1 h
  exact hf b (hr _ _ _ hk) _ _ _ h

/-- What was read before does not matter. -/
theorem behind {r : Scan β} {f : β → Scan α} (hf : ∀ b, (f b).Yields P) : (r >>= f).Yields P :=
  bind (fun _ _ _ _ => trivial) fun b (_ : True) => hf b

theorem throw {e : Fault} : (MonadExcept.throw e : Scan α).Yields P := by
  intro k k' a h
  cases h

theorem refuse : (Scan.refuse : Scan α).Yields P := behind fun _ => throw

theorem blame {start : Cursor} {c : Cause} : (Scan.blame start c : Scan α).Yields P := throw

theorem checked {start : Cursor} {x : Except Cause α} (h : ∀ a, x = .ok a → P a) :
    (Toml.checked start x).Yields P := by
  cases x with
  | ok a => exact pure (h a rfl)
  | error c => exact blame

/-- A scan yields the same whatever becomes of its faults. -/
theorem onFault {r : Scan α} {f : Fault → Fault} (h : r.Yields P) : (r.onFault f).Yields P := by
  intro k k' a ha
  rw [Scan.onFault] at ha
  cases hk : r k with
  | ok x => rw [hk] at ha; cases ha; exact h _ _ _ hk
  | error e => rw [hk] at ha; cases ha

theorem attempt {r : Scan α} (h : r.Yields P) : (Scan.attempt r).Yields (∀ a ∈ ·, P a) := by
  intro k k' x hx
  rw [Scan.attempt] at hx
  split at hx
  · rename_i ha
    cases hx
    rintro _ ⟨⟩
    exact h _ _ _ ha
  · split at hx <;> cases hx
    simp

/-- Reading on if that can be done, and in any case. -/
theorem tried {r : Scan β} {Q : β → Prop} {f : Option β → Scan α} (hr : r.Yields Q)
    (hnone : (f none).Yields P) (hsome : ∀ b, Q b → (f (some b)).Yields P) :
    (Scan.attempt r >>= f).Yields P :=
  bind hr.attempt fun b hb => match b with
    | none => hnone
    | some b => hsome b (hb b rfl)

theorem cons {a : α} {r : Scan (List α)} (ha : P a) (hr : r.Yields (∀ a ∈ ·, P a)) :
    (do return a :: (← r) : Scan (List α)).Yields (∀ a ∈ ·, P a) :=
  bind hr fun _ has => pure (List.forall_mem_cons.2 ⟨ha, has⟩)

theorem nil : (Pure.pure [] : Scan (List α)).Yields (∀ a ∈ ·, P a) := pure (by simp)

/-- Of two ways to read, both yield it. -/
theorem either {r s : Scan α} (hr : r.Yields P) (hs : s.Yields P) : (Scan.either r s).Yields P := by
  intro k k' a h
  rw [Scan.either] at h
  split at h
  · rename_i hk
    cases h
    exact hr _ _ _ hk
  · split at h
    · cases h
    · exact hs _ _ _ h

theorem placed {r : Scan α} (h : r.Yields P) : (Scan.placed r).Yields (P ·.1) :=
  behind fun _ => bind h fun _ ha => behind fun _ => pure ha

end Yields
end Scan

end ChordRules.Toml

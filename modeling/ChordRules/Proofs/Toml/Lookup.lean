import ChordRules.Proofs.Toml.Yield
import Mathlib.Data.List.Induction
import Mathlib.Data.List.Nodup
import Mathlib.Logic.Function.Basic

/-! # What a table has at its keys

A table in which no key stands twice is determined by what it has at each key, where the order of
the keys does not show. Reading its entries one after another is then the same as filling in what
there is at one key after another. -/
namespace ChordRules.Toml

abbrev Lookup := String → Option Value

def Fits {ω : Type} (takes : ω → Value → Prop) (shape : List (String × ω)) (look : Lookup) : Prop :=
  ∀ key v, look key = some v → ∃ wanted, (key, wanted) ∈ shape ∧ takes wanted v

/-- Something is what the value of its key means or, where there is none, its default. -/
def Supplies {α : Type} (look : Lookup) (key : String) (means : Value → α → Prop)
    (default a : α) : Prop :=
  match look key with
  | some v => means v a
  | none => a = default

section

variable {α : Type} {look look' : Lookup} {key key' : String} {means : Value → α → Prop}
  {default a b : α} {v : Value}

theorem Supplies.here (h : means v a) :
    Supplies (Function.update look key (some v)) key means default a := by
  simpa [Supplies] using h

theorem Supplies.elsewhere (h : Supplies look key means default a) (hne : key ≠ key' := by decide) :
    Supplies (Function.update look key' v) key means default a := by
  simpa [Supplies, hne] using h

/-- What a key supplies depends on that key alone. -/
theorem Supplies.congr (h : Supplies look key means default a) (hlook : look key = look' key) :
    Supplies look' key means default a := by
  rwa [Supplies, ← hlook]

theorem Supplies.map {β : Type} {means' : Value → β → Prop} {f : α → β}
    (h : Supplies look key means default a) (hf : ∀ v, means v a → means' v (f a)) :
    Supplies look key means' (f default) (f a) := by
  unfold Supplies at h ⊢
  split at h
  · exact hf _ h
  · rw [h]

/-- What is given is determined by what the key has. -/
theorem Supplies.unique (hmeans : ∀ v a b, means v a → means v b → a = b)
    (ha : Supplies look key means default a) (hb : Supplies look key means default b) : a = b := by
  unfold Supplies at ha hb
  split at ha <;> simp only [*] at hb
  · exact hmeans _ _ _ ha hb
  · exact ha.trans hb.symm

end

namespace Entries

variable {t : Entries}

/-- With distinct keys, a key has the one entry that it stands in. -/
theorem get?_eq_some_iff (h : (t.map (·.key.text)).Nodup) {key : String}
    {e : Entry Value} : t.get? key = some e ↔ e ∈ t ∧ e.key.text = key := by
  constructor
  · intro he
    exact ⟨List.mem_of_find?_eq_some he, by simpa using List.find?_some he⟩
  · rintro ⟨he, rfl⟩
    obtain ⟨d, hd⟩ : ∃ d, t.get? e.key.text = some d := by
      rw [← Option.isSome_iff_exists, get?, List.find?_isSome]
      exact ⟨e, he, by simp⟩
    have hkey : d.key.text = e.key.text := by simpa using List.find?_some hd
    rw [hd, List.inj_on_of_nodup_map h (List.mem_of_find?_eq_some hd) he hkey]

theorem value?_eq_some_iff (h : (t.map (·.key.text)).Nodup) {key : String} {v : Value} :
    t.value? key = some v ↔ ∃ e ∈ t, e.key.text = key ∧ e.value = v := by
  simp only [value?, Option.map_eq_some_iff, get?_eq_some_iff h, and_assoc]

/-- An entry with a new key adds what that key has. -/
theorem value?_append_singleton {e : Entry Value} (h : e.key.text ∉ t.map (·.key.text)) :
    value? (t ++ [e]) = Function.update t.value? e.key.text (some e.value) := by
  funext key
  by_cases hkey : key = e.key.text
  · subst hkey
    have hnone : t.find? (·.key.text == e.key.text) = none := by
      simpa [List.find?_eq_none] using h
    simp [value?, get?, hnone]
  · simp [value?, get?, hkey, Ne.symm hkey]

/-- Fitting a shape is a matter of each entry. -/
theorem fits_value?_iff (h : (t.map (·.key.text)).Nodup) {ω : Type}
    {takes : ω → Value → Prop} {shape : List (String × ω)} :
    Fits takes shape t.value? ↔
      ∀ e ∈ t, ∃ wanted, (e.key.text, wanted) ∈ shape ∧ takes wanted e.value := by
  constructor
  · intro hfits e he
    exact hfits _ _ ((value?_eq_some_iff h).2 ⟨e, he, rfl, rfl⟩)
  · intro hall key v hv
    obtain ⟨e, he, rfl, rfl⟩ := (value?_eq_some_iff h).1 hv
    exact hall e he

end Entries

/-- A fold that can go on behind any state ends if each of its steps can be made. -/
theorem foldlM_ok_iff {ε σ α : Type} {step : σ → α → Except ε σ} {Good : α → Prop} {l : List α}
    (hstep : ∀ a ∈ l, ∀ s, (∃ s', step s a = .ok s') ↔ Good a) (s : σ) :
    (∃ s', l.foldlM step s = .ok s') ↔ ∀ a ∈ l, Good a := by
  induction l generalizing s with
  | nil => simp [pure, Except.pure]
  | cons a l ih =>
    have hmore := ih fun b hb => hstep b (List.mem_cons_of_mem a hb)
    rw [List.forall_mem_cons, ← hstep a (List.mem_cons_self ..) s]
    simp only [List.foldlM_cons, bind_eq_ok_iff]
    constructor
    · rintro ⟨s', t, ht, hs'⟩
      exact ⟨⟨t, ht⟩, (hmore t).1 ⟨s', hs'⟩⟩
    · rintro ⟨⟨t, ht⟩, hl⟩
      obtain ⟨s', hs'⟩ := (hmore t).2 hl
      exact ⟨s', t, ht, hs'⟩

/-- A fold over a table ends with what the table has, if each of its steps adds what one entry
has. -/
theorem foldlM_holds {ε σ : Type} {step : σ → Entry Value → Except ε σ}
    {Holds : σ → Lookup → Prop} {t : Entries} (ht : (t.map (·.key.text)).Nodup)
    (hstep : ∀ e ∈ t, ∀ {look s s'}, Holds s look → step s e = .ok s' →
      Holds s' (Function.update look e.key.text (some e.value)))
    {s s' : σ} (hs : Holds s fun _ => none) (h : t.foldlM step s = .ok s') :
    Holds s' t.value? := by
  induction t using List.reverseRecOn generalizing s' with
  | nil => cases h; exact hs
  | append_singleton t e ih =>
    rw [List.foldlM_append] at h
    obtain ⟨s₁, hs₁, h⟩ := bind_eq_ok_iff.1 h
    obtain ⟨s₂, hs₂, h⟩ := bind_eq_ok_iff.1 h
    cases h
    rw [List.map_append, List.nodup_append] at ht
    rw [Entries.value?_append_singleton fun hmem => ht.2.2 _ hmem _ (by simp) rfl]
    exact hstep e (by simp) (ih ht.1 (fun e he => hstep e (by simp [he])) hs₁) hs₂

end ChordRules.Toml

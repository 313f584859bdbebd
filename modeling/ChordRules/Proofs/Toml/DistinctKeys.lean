import ChordRules.Proofs.Toml.Yield
import Mathlib.Data.List.Basic

/-! # The keys of a document

No table of a document has a key twice, at any depth. The only way into a table is `Entries.put`,
which takes the place of the entry with its key; everything else that changes tables applies it
somewhere on a path. -/
namespace ChordRules.Toml

inductive Value.Keyed : Value → Prop
  | text (s : String) : Keyed (.text s)
  | integer (i : Int) : Keyed (.integer i)
  | float (x : Binary64) : Keyed (.float x)
  | boolean (b : Bool) : Keyed (.boolean b)
  | moment : Keyed .moment
  | array {vs : List (Value × Span)} (values : ∀ v ∈ vs, v.1.Keyed) : Keyed (.array vs)
  | table {origin : Origin} {t : List (Entry Value)} (distinct : (t.map (·.key.text)).Nodup)
      (values : ∀ e ∈ t, e.value.Keyed) : Keyed (.table origin t)
  | tables {ts : List (List (Entry Value) × Span)}
      (distinct : ∀ t ∈ ts, (t.1.map (·.key.text)).Nodup)
      (values : ∀ t ∈ ts, ∀ e ∈ t.1, e.value.Keyed) : Keyed (.tables ts)

namespace Entries

structure Keyed (t : Entries) : Prop where
  distinct : (t.map (·.key.text)).Nodup
  values : ∀ e ∈ t, e.value.Keyed

@[simp] theorem keyed_nil : Keyed [] := ⟨by simp, by simp⟩

theorem mem_put {t : Entries} {d e : Entry Value} (h : d ∈ t.put e) : d = e ∨ d ∈ t := by
  induction t with
  | nil => simpa [put] using h
  | cons c t ih =>
    rw [put] at h
    split at h <;> grind

/-- An entry takes the place of the one with its key, or stands last. -/
theorem keys_put (t : Entries) (e : Entry Value) :
    (t.put e).map (·.key.text) = t.map (·.key.text) ∨
      e.key.text ∉ t.map (·.key.text) ∧
        (t.put e).map (·.key.text) = t.map (·.key.text) ++ [e.key.text] := by
  induction t with
  | nil => simp [put]
  | cons c t ih =>
    rw [put]
    split <;> grind

namespace Keyed

variable {t : Entries}

theorem get? (h : Keyed t) {key : String} {e : Entry Value} (he : t.get? key = some e) :
    e.value.Keyed :=
  h.values e (List.mem_of_find?_eq_some he)

/-- An entry put in a table does not stand beside another with its key. -/
theorem put (h : Keyed t) {e : Entry Value} (he : e.value.Keyed) : Keyed (t.put e) where
  distinct := by
    rcases keys_put t e with hk | ⟨hnew, hk⟩
    · rw [hk]; exact h.distinct
    · rw [hk]; simpa [List.nodup_append, h.distinct] using hnew
  values d hd := by
    rcases mem_put hd with rfl | hd
    · exact he
    · exact h.values d hd

theorem remove (h : Keyed t) (key : String) : Keyed (t.remove key) where
  distinct := h.distinct.sublist (List.filter_sublist.map _)
  values e he := h.values e (List.mem_filter.1 he).1

end Keyed
end Entries

theorem Value.keyed_table_iff {origin : Origin} {t : Entries} :
    (Value.table origin t).Keyed ↔ Entries.Keyed t :=
  ⟨fun | .table distinct values => ⟨distinct, values⟩, fun h => .table h.distinct h.values⟩

theorem Value.keyed_tables_iff {ts : List (Entries × Span)} :
    (Value.tables ts).Keyed ↔ ∀ t ∈ ts, Entries.Keyed t.1 :=
  ⟨fun | .tables distinct values => fun t ht => ⟨distinct t ht, values t ht⟩,
    fun h => .tables (fun t ht => (h t ht).distinct) fun t ht => (h t ht).values⟩

namespace Entries.Keyed

/-- A change at the end of a path that keeps keys distinct there does so all along it. -/
theorem change {kind : PathKind} {f : Origin → Entries → Except Cause Entries}
    (hf : ∀ {origin t u}, Keyed t → f origin t = .ok u → Keyed u) {walked : List String}
    {path : List Key} {origin : Origin} {t u : Entries} (ht : Keyed t)
    (h : t.change kind f walked path origin = .ok u) : Keyed u := by
  induction path generalizing walked origin t u with
  | nil => exact hf ht h
  | cons key path ih =>
    rw [Entries.change] at h
    split at h
    · obtain ⟨sub, hsub, h⟩ := bind_eq_ok_iff.1 h
      cases h
      exact ht.put (Value.keyed_table_iff.2 (ih keyed_nil hsub))
    · rename_i e he
      have hv := ht.get? he
      split at h
      · rename_i _ _ hval
        rw [hval] at hv
        split at h
        · cases h
        · obtain ⟨sub, hsub, h⟩ := bind_eq_ok_iff.1 h
          cases h
          exact ht.put (Value.keyed_table_iff.2 (ih (Value.keyed_table_iff.1 hv) hsub))
      · rename_i last span earlier hval
        rw [hval, Value.keyed_tables_iff, List.forall_mem_cons] at hv
        obtain ⟨sub, hsub, h⟩ := bind_eq_ok_iff.1 h
        cases h
        exact ht.put (Value.keyed_tables_iff.2 (List.forall_mem_cons.2 ⟨ih hv.1 hsub, hv.2⟩))
      · cases h

theorem add {kind : PathKind} {table : Option (List String)} {path : List Key} {e : Entry Value}
    {origin : Origin} {t u : Entries} (ht : Keyed t) (he : e.value.Keyed)
    (h : t.add kind table path e origin = .ok u) : Keyed u := by
  refine ht.change (fun {_ t u} ht hu => ?_) h
  split at hu
  · cases hu
  · split at hu
    · cases hu
    · cases hu; exact ht.put he

theorem held {path : List Key} {t : Entries} (ht : Keyed t) : Keyed (Draft.held path t) := by
  induction path generalizing t with
  | nil => exact ht
  | cons key path ih =>
    rw [Draft.held]
    split
    · rename_i hv
      obtain ⟨e, he, hval⟩ := Option.map_eq_some_iff.1 hv
      exact ih (Value.keyed_table_iff.1 (hval ▸ ht.get? he))
    · rename_i hv
      obtain ⟨e, he, hval⟩ := Option.map_eq_some_iff.1 hv
      exact ih (Value.keyed_tables_iff.1 (hval ▸ ht.get? he) _ (List.mem_cons_self ..))
    · exact keyed_nil

end Entries.Keyed

namespace Draft

/-- No key stands twice in the finished tables or in the current one. -/
structure Keyed (d : Draft) : Prop where
  root : Entries.Keyed d.root.entries
  current : Entries.Keyed d.current

theorem keyed_empty : empty.Keyed := ⟨Entries.keyed_nil, Entries.keyed_nil⟩

theorem keyed_addTable {t : Entries} (ht : Entries.Keyed t) {key : Key}
    {earlier : List (Entries × Span)} (hearlier : ∀ t ∈ earlier, Entries.Keyed t.1)
    (span : Span) : (addTable key earlier t span).value.Keyed :=
  Value.keyed_tables_iff.2 (List.forall_mem_cons.2 ⟨ht, hearlier⟩)

namespace Keyed

variable {d : Draft}

/-- A finished table has no key twice. -/
theorem close (h : d.Keyed) {doc : Document} (hdoc : d.close = .ok doc) :
    Entries.Keyed doc.entries := by
  rw [Draft.close] at hdoc
  split at hdoc
  · cases hdoc; exact h.current
  · obtain ⟨entries, hentries, hdoc⟩ := bind_eq_ok_iff.1 hdoc
    cases hdoc
    refine h.root.change (fun {_ t u} ht hu => ?_) hentries
    split at hu
    · split at hu
      · rename_i hget
        cases hu
        exact ht.put (keyed_addTable h.current (Value.keyed_tables_iff.1 (ht.get? hget)) _)
      · cases hu
        exact ht.put (keyed_addTable h.current (by simp) _)
    · cases hu
      exact ht.put (Value.keyed_table_iff.2 h.current)

theorem openTable (h : d.Keyed) {path : List Key} {key : Key} {span : Span} {d' : Draft}
    (hd : d.openTable path key span = .ok d') : d'.Keyed := by
  obtain ⟨root, hroot, hd⟩ := bind_eq_ok_iff.1 hd
  obtain ⟨entries, hentries, hd⟩ := bind_eq_ok_iff.1 hd
  obtain ⟨rest, hrest, hd⟩ := bind_eq_ok_iff.1 hd
  cases hd
  have hkept : Entries.Keyed entries := by
    refine (h.close hroot).change (fun {_ t u} ht hu => ?_) hentries
    split at hu <;> cases hu <;> exact ht
  exact ⟨hkept.change (fun ht hu => by cases hu; exact ht.remove _) hrest, hkept.held⟩

theorem openRepeated (h : d.Keyed) {path : List Key} {key : Key} {span : Span} {d' : Draft}
    (hd : d.openRepeated path key span = .ok d') : d'.Keyed := by
  obtain ⟨root, hroot, hd⟩ := bind_eq_ok_iff.1 hd
  obtain ⟨entries, hentries, hd⟩ := bind_eq_ok_iff.1 hd
  cases hd
  refine ⟨(h.close hroot).change (fun {_ t u} ht hu => ?_) hentries, Entries.keyed_nil⟩
  split at hu <;> cases hu <;> exact ht

/-- A line that adds an entry adds no key that is there. -/
theorem addLine (h : d.Keyed) {path : List Key} {e : Entry Value} (he : e.value.Keyed) {d' : Draft}
    (hd : d.addLine path e = .ok d') : d'.Keyed := by
  obtain ⟨current, hcurrent, hd⟩ := bind_eq_ok_iff.1 hd
  cases hd
  exact ⟨h.root, h.current.add he hcurrent⟩

end Keyed
end Draft

open Scan

theorem fitting_yields {start : Cursor} {i : Int} : (fitting start i).Yields Value.Keyed := by
  rw [fitting]
  split
  · exact .onFault .blame
  · split
    · exact .onFault .blame
    · exact .pure (.integer i)

theorem inBase_yields {c : Construct} {base : Nat} {ok : Char → Bool} :
    (inBase c base ok).Yields Value.Keyed :=
  .behind fun _ => .behind fun _ => fitting_yields

theorem integer_yields : integer.Yields Value.Keyed := by
  refine .behind fun start => ?_
  split
  · exact inBase_yields
  · exact inBase_yields
  · exact inBase_yields
  · exact .behind fun _ => fitting_yields

theorem float_yields : float.Yields Value.Keyed := by
  refine .onFault (.either (.behind fun _ => .behind fun ⟨_, _⟩ => .behind fun ⟨_, _⟩ => ?_)
    (.behind fun _ => .behind fun _ => ?_))
  · dsimp only
    split
    · exact .onFault .throw
    · exact .pure (.float _)
  · split <;> exact .pure (.float _)

theorem moment_yields : moment.Yields Value.Keyed := .behind fun _ => .pure .moment

theorem boolean_yields {s : String} {b : Bool} : (boolean s b).Yields Value.Keyed :=
  .onFault (.onFault (.behind fun _ => .pure (.boolean b)))

/-- A value that is no table has no keys at all. -/
theorem scalar_yields : scalar.Yields Value.Keyed := by
  refine .behind fun c => ?_
  split
  · exact .refuse
  · exact .behind fun _ => .pure (.text _)
  · exact .behind fun _ => .pure (.text _)
  · exact boolean_yields
  · exact boolean_yields
  · exact .onFault (.onFault (.behind fun _ => .pure (.float _)))
  · exact .onFault (.onFault (.behind fun _ => .pure (.float _)))
  · exact .onFault integer_yields
  · exact .onFault float_yields
  · split
    · exact .either moment_yields (.either float_yields integer_yields)
    · exact .onFault (.onFault .refuse)

structure ReadsKeyed (n : Nat) : Prop where
  value : ∀ depth, (value n depth).Yields (·.1.Keyed)
  array : ∀ depth, (array n depth).Yields (∀ v ∈ ·, v.1.Keyed)
  element : ∀ depth, (element n depth).Yields (·.1.Keyed)
  elements : ∀ depth, (elements n depth).Yields (∀ v ∈ ·, v.1.Keyed)
  moreElements : ∀ depth, (moreElements n depth).Yields (∀ v ∈ ·, v.1.Keyed)
  inlineTable : ∀ depth, (inlineTable n depth).Yields Entries.Keyed
  pair : ∀ depth, (pair n depth).Yields (·.2.value.Keyed)
  pairs : ∀ depth, (pairs n depth).Yields (∀ p ∈ ·, p.2.value.Keyed)
  morePairs : ∀ depth, (morePairs n depth).Yields (∀ p ∈ ·, p.2.value.Keyed)

/-- Pairs are added to a table one after another. -/
theorem keyed_of_foldlM {ps : List (List Key × Entry Value)} {t u : Entries}
    (ht : Entries.Keyed t) (hps : ∀ p ∈ ps, p.2.value.Keyed)
    (h : ps.foldlM (fun t p => Entries.add .braces none p.1 p.2 .braces t) t = .ok u) :
    Entries.Keyed u := by
  induction ps generalizing t with
  | nil => cases h; exact ht
  | cons p ps ih =>
    rw [List.forall_mem_cons] at hps
    rw [List.foldlM_cons] at h
    obtain ⟨t', ht', h⟩ := bind_eq_ok_iff.1 h
    exact ih (ht.add hps.1 ht') hps.2 h

namespace ReadsKeyed

theorem zero : ReadsKeyed 0 where
  value _ := by rw [Toml.value]; exact .refuse
  array _ := by rw [Toml.array]; exact .refuse
  element _ := by rw [Toml.element]; exact .refuse
  elements _ := by rw [Toml.elements]; exact .nil
  moreElements _ := by rw [Toml.moreElements]; exact .nil
  inlineTable _ := by rw [Toml.inlineTable]; exact .refuse
  pair _ := by rw [Toml.pair]; exact .refuse
  pairs _ := by rw [Toml.pairs]; exact .nil
  morePairs _ := by rw [Toml.morePairs]; exact .nil

variable {n : Nat}

theorem value_succ (h : ReadsKeyed n) (depth : Nat) :
    (Toml.value (n + 1) depth).Yields (·.1.Keyed) := by
  rw [Toml.value]
  refine .behind fun c => ?_
  split
  · split
    · exact .behind fun _ => .onFault .blame
    · exact .placed (.bind (h.array _) fun _ hvs => .pure (.array hvs))
  · split
    · exact .behind fun _ => .onFault .blame
    · exact .placed (.bind (h.inlineTable _) fun _ ht => .pure (Value.keyed_table_iff.2 ht))
  · exact .placed scalar_yields

theorem array_succ (h : ReadsKeyed n) (depth : Nat) :
    (Toml.array (n + 1) depth).Yields (∀ v ∈ ·, v.1.Keyed) := by
  rw [Toml.array]
  refine .behind fun _ => .bind (Q := fun vs => ∀ v ∈ vs, v.1.Keyed) (.onFault ?_) fun vs hvs =>
    .behind fun _ => .pure hvs
  refine .behind fun c => ?_
  split
  · exact .pure (by simp)
  · refine .bind (h.elements depth) fun vs hvs => ?_
    split
    · exact .behind fun _ => .behind fun _ => .behind fun _ => .pure hvs
    · exact .behind fun _ => .behind fun _ => .pure hvs

theorem inlineTable_succ (h : ReadsKeyed n) (depth : Nat) :
    (Toml.inlineTable (n + 1) depth).Yields Entries.Keyed := by
  rw [Toml.inlineTable]
  refine .behind fun _ => .bind (Q := Entries.Keyed) (.onFault ?_) fun t ht =>
    .behind fun _ => .pure ht
  exact .behind fun _ => .bind (h.pairs depth) fun ps hps => .behind fun _ =>
    .checked fun t ht => keyed_of_foldlM Entries.keyed_nil hps ht

theorem succ (h : ReadsKeyed n) : ReadsKeyed (n + 1) where
  value := h.value_succ
  array := h.array_succ
  element depth := by
    rw [Toml.element]
    exact .behind fun _ => .behind fun _ => .bind (h.value depth) fun _ hv =>
      .behind fun _ => .behind fun _ => .pure hv
  elements depth := by
    rw [Toml.elements]
    exact .tried (h.element depth) .nil fun _ hv => .cons hv (h.moreElements depth)
  moreElements depth := by
    rw [Toml.moreElements]
    exact .tried (.behind fun _ => h.element depth) .nil
      fun _ hv => .cons hv (h.moreElements depth)
  inlineTable := h.inlineTable_succ
  pair depth := by
    rw [Toml.pair]
    exact .behind fun _ => .onFault (.behind fun _ => .behind fun _ =>
      .bind (h.value depth) fun _ hv => .behind fun _ => .pure hv)
  pairs depth := by
    rw [Toml.pairs]
    exact .tried (h.pair depth) .nil fun _ hp => .cons hp (h.morePairs depth)
  morePairs depth := by
    rw [Toml.morePairs]
    exact .tried (.behind fun _ => h.pair depth) .nil
      fun _ hp => .cons hp (h.morePairs depth)

end ReadsKeyed

/-- Nothing that is read has a key twice, by one induction on the fuel. -/
theorem readsKeyed (n : Nat) : ReadsKeyed n := by
  induction n with
  | zero => exact .zero
  | succ n ih => exact ih.succ

theorem keyLine_yields {d : Draft} (h : d.Keyed) : (keyLine d).Yields Draft.Keyed := by
  refine .behind fun _ => .behind fun _ => .bind (Q := fun v => v.1.Keyed) (.onFault ?_)
    fun _ hv => .checked fun _ hd => h.addLine hv hd
  exact .behind fun _ => .behind fun _ => .behind fun _ => .bind ((readsKeyed _).value _)
    fun _ hv => .behind fun _ => .pure hv

/-- A header opens no table under a key that is taken. -/
theorem header_yields {d : Draft} (h : d.Keyed) : (header d).Yields Draft.Keyed := by
  refine .onFault (.behind fun start => ?_)
  split
  · exact .refuse
  · refine .behind fun _ => .behind fun _ => .checked fun d' hd => ?_
    split at hd
    · exact h.openRepeated hd
    · exact h.openTable hd

theorem readLines_yields (n : Nat) {d : Draft} (h : d.Keyed) :
    (readLines n d).Yields Draft.Keyed := by
  induction n generalizing d with
  | zero => exact .pure h
  | succ n ih =>
    rw [readLines]
    refine .behind fun _ => .behind fun c => ?_
    split
    · exact .pure h
    · exact .behind fun _ => ih h
    · exact .bind (.onFault (header_yields h)) fun _ hd => ih hd
    · refine .behind fun more => ?_
      split
      · exact ih h
      · exact .pure h
    · refine .behind fun more => ?_
      split
      · exact ih h
      · exact .pure h
    · exact .bind (.onFault (keyLine_yields h)) fun _ hd => ih hd

/-- No table of a document has a key twice. -/
theorem Document.keyed_of_ofText {source : String} {d : Document}
    (h : Document.ofText source = .ok d) : Entries.Keyed d.entries := by
  obtain ⟨⟨d', k⟩, hread, hd⟩ := bind_eq_ok_iff.1 h
  cases hd
  refine (?_ : Scan.Yields _ fun d : Document => Entries.Keyed d.entries) _ _ _ hread
  exact .behind fun _ => .behind fun _ => .bind (readLines_yields _ Draft.keyed_empty)
    fun _ hd => .behind fun _ => .behind fun _ => .checked fun _ hdoc => hd.close hdoc

end ChordRules.Toml

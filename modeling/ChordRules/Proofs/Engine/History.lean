import ChordRules.Proofs.Engine.Run
import ChordRules.Proofs.Evaluation.Explanation

/-! # What holds after every history

Rules are started once and then see chords, any number of them, and fail or not. In every world
that they come to in this way, all variables ever set are still set, and the next chord is
announced in three variables whatever the rules have done to these. So rules can rely on them. -/
namespace ChordRules

/-- Every variable that is set in the first world is set in the second. -/
def World.KeptIn (u v : World σ) : Prop :=
  ∀ x, u.scope.contains x = true → v.scope.contains x = true

namespace World.KeptIn

variable {u v w : World σ}

theorem refl (w : World σ) : w.KeptIn w := fun _ h => h

theorem trans (huv : u.KeptIn v) (hvw : v.KeptIn w) : u.KeptIn w := fun x h => hvw x (huv x h)

theorem assign (w : World σ) (x : String) (a : Value) : w.KeptIn (w.assign x a) := by
  intro y hy
  rw [scope_assign, Scope.contains, Scope.get?_set]
  split
  · rfl
  · exact hy

end World.KeptIn

namespace Engine

/-- Announcing a chord unsets no variable. -/
theorem keptIn_announce (w : World σ) (key : String) (s : KeyState) : w.KeptIn (announce w key s) :=
  ((World.KeptIn.assign w _ _).trans (.assign _ _ _)).trans (.assign _ _ _)

/-- A chord is announced in three variables, and all others are as before. -/
theorem get?_announce (w : World σ) (key : String) (s : KeyState) (x : String) :
    (announce w key s).scope.get? x =
      if x = "action" then some (.text "event")
      else if x = "key" then some (.text key)
      else if x = "state" then some (.text s.name)
      else w.scope.get? x := by
  simp only [announce, World.scope_assign, Scope.get?_set]
  by_cases haction : x = "action"
  · simp [haction]
  · by_cases hkey : x = "key"
    · simp [hkey]
    · simp [haction, hkey]

/-- Handling a chord is an evaluation in the world in which the chord is announced. -/
theorem handle_eval (e : Engine σ) (key : String) (s : KeyState) (w : World σ) :
    ∃ v : World σ, v.SameState (announce w key s) ∧
      (e.handle key s w).1 = (e.rules.eval e.functions v).1.map (fun _ => ()) ∧
      (e.handle key s w).2.SameState (e.rules.eval e.functions v).2 := by
  let line : LogLine := ⟨.debug, .program, "Running event " ++ key ++ ": " ++ s.name⟩
  refine ⟨(announce w key s).report line, (World.SameState.refl _).report line, ?_⟩
  rw [handle, evaluate]
  rcases e.rules.eval e.functions _ with ⟨_ | _, u⟩
  · exact ⟨rfl, .refl u⟩
  · exact ⟨rfl, (World.SameState.refl u).report _⟩

/-- The start unsets no variable, even if the rules fail on it. -/
theorem keptIn_start (e : Engine σ) (w : World σ) : w.KeptIn (e.start w).2 :=
  (World.KeptIn.assign w _ _).trans fun _ h => Rule.contains_eval e.rules h

/-- No chord unsets a variable. -/
theorem keptIn_handle (e : Engine σ) (key : String) (s : KeyState) (w : World σ) :
    w.KeptIn (e.handle key s w).2 := by
  obtain ⟨v, hv, -, hstate⟩ := e.handle_eval key s w
  intro x hx
  rw [hstate.scope]
  refine Rule.contains_eval e.rules ?_
  rw [hv.scope]
  exact keptIn_announce w key s x hx

/-- Neither does any number of chords. -/
theorem keptIn_handleAll (e : Engine σ) (chords : List (String × KeyState)) (w : World σ) :
    w.KeptIn (e.handleAll chords w) := by
  induction chords generalizing w with
  | nil => exact .refl w
  | cons c chords ih => exact (e.keptIn_handle c.1 c.2 w).trans (ih _)

/-- What is announced is set. -/
theorem contains_announce (w : World σ) (key : String) (s : KeyState) {x : String}
    (hx : x ∈ ["action", "key", "state"]) : (announce w key s).scope.contains x = true := by
  rw [Scope.contains, get?_announce]
  simp only [List.mem_cons, List.not_mem_nil, or_false] at hx
  rcases hx with rfl | rfl | rfl <;> rfl

theorem map_ne_error {r : Except EvalError α} {f : α → β} {err : EvalError}
    (h : r ≠ .error err) : r.map f ≠ .error err := by
  cases r with
  | ok a => nofun
  | error e =>
    intro he
    cases he
    exact h rfl

/-- The rules are told why they run before they run. -/
theorem start_ne_unknownVariable (e : Engine σ) (w : World σ) :
    (e.start w).1 ≠ .error (.unknownVariable "action") := by
  refine map_ne_error (Rule.eval_ne_unknownVariable e.rules ?_)
  rw [World.scope_assign, Scope.contains, Scope.get?_set_self, Option.isSome_some]

/-- What is announced cannot be unset by the rules, so they never miss it. -/
theorem handle_ne_unknownVariable (e : Engine σ) (key : String) (s : KeyState) (w : World σ)
    {x : String} (hx : x ∈ ["action", "key", "state"]) :
    (e.handle key s w).1 ≠ .error (.unknownVariable x) := by
  obtain ⟨v, hv, hresult, -⟩ := e.handle_eval key s w
  rw [hresult]
  refine map_ne_error (Rule.eval_ne_unknownVariable e.rules ?_)
  rw [hv.scope]
  exact contains_announce w key s hx

/-- The world after the start and any chords, whether or not the rules failed on them. -/
def after (e : Engine σ) (w : World σ) (chords : List (String × KeyState)) : World σ :=
  e.handleAll chords (e.start w).2

theorem after_append (e : Engine σ) (w : World σ) (chords more : List (String × KeyState)) :
    e.after w (chords ++ more) = e.handleAll more (e.after w chords) :=
  List.foldl_append

/-- After every history, all variables that were ever set are set, and so they remain. The next
chord is evaluated with the variables as they are, except that `action`, `key` and `state` tell of
it, whatever the rules assigned to them before; a `state` is up, down or hold. So no rule ever
misses one of these variables when it sees a chord, nor `action` at the start. -/
theorem after_announces (e : Engine σ) (w : World σ) (chords : List (String × KeyState)) :
    let u := e.after w chords
    (w.KeptIn u ∧ ∀ more, u.KeptIn (e.after w (chords ++ more))) ∧
    (∀ key s, ∃ v : World σ,
      (∀ x, v.scope.get? x =
        if x = "action" then some (.text "event")
        else if x = "key" then some (.text key)
        else if x = "state" then
          match s with
          | .up => some (.text "up")
          | .down => some (.text "down")
          | .hold => some (.text "hold")
        else u.scope.get? x) ∧
      v.host = u.host ∧ v.calls = u.calls ∧
      (e.handle key s u).1 = (e.rules.eval e.functions v).1.map (fun _ => ()) ∧
      (e.handle key s u).2.SameState (e.rules.eval e.functions v).2) ∧
    (∀ key s, ∀ x ∈ ["action", "key", "state"],
      (e.handle key s u).1 ≠ .error (.unknownVariable x)) ∧
    (e.start w).1 ≠ .error (.unknownVariable "action") := by
  intro u
  refine ⟨⟨(e.keptIn_start w).trans (e.keptIn_handleAll chords _), fun more => ?_⟩,
    fun key s => ?_, fun key s x hx => e.handle_ne_unknownVariable key s u hx,
    e.start_ne_unknownVariable w⟩
  · rw [after_append]
    exact e.keptIn_handleAll more u
  · obtain ⟨v, hv, hresult, hstate⟩ := e.handle_eval key s u
    refine ⟨v, fun x => ?_, hv.host, hv.calls, hresult, hstate⟩
    rw [hv.scope, get?_announce]
    cases s <;> rfl

/-- So it is with rules that overwrite `action` and `state` and then fail to forget the `key`: the
next chord is seen as it is, a key held down here. -/
theorem after_announces_overwritten :
    ∃ (e : Engine Unit) (w : World Unit) (chords : List (String × KeyState)),
      e.rules = .block [.binary .assign (.symbol "last") (.symbol "action"),
        .binary .assign (.symbol "seen") (.symbol "state"),
        .binary .assign (.symbol "action") (.number 1),
        .binary .assign (.symbol "state") (.number 2),
        .binary .assign (.symbol "key") (.symbol "nothing")] ∧
      chords = [("a", .down), ("a", .up)] ∧
      (e.after w chords).scope.get? "action" = some (.number 1) ∧
      (e.after w chords).scope.get? "state" = some (.number 2) ∧
      (e.after w (chords ++ [("b", .down)])).scope.contains "last" = true ∧
      (∃ v : World Unit, v.scope.get? "action" = some (.text "event") ∧
        v.scope.get? "key" = some (.text "b") ∧ v.scope.get? "state" = some (.text "hold") ∧
        (e.handle "b" .hold (e.after w chords)).2.SameState (e.rules.eval e.functions v).2) ∧
      (e.handle "b" .hold (e.after w chords)).2.scope.get? "last" = some (.text "event") ∧
      (e.handle "b" .hold (e.after w chords)).2.scope.get? "seen" = some (.text "hold") ∧
      (e.after w chords).scope.get? "seen" = some (.text "up") ∧
      (e.handle "b" .hold (e.after w chords)).1 ≠ .error (.unknownVariable "key") := by
  let rules : Rule := .block [.binary .assign (.symbol "last") (.symbol "action"),
    .binary .assign (.symbol "seen") (.symbol "state"),
    .binary .assign (.symbol "action") (.number 1),
    .binary .assign (.symbol "state") (.number 2),
    .binary .assign (.symbol "key") (.symbol "nothing")]
  let e : Engine Unit := ⟨rules, .empty⟩
  let w : World Unit := .ofHost ()
  let chords : List (String × KeyState) := [("a", .down), ("a", .up)]
  obtain ⟨⟨-, hkept⟩, hseen, hknown, -⟩ := e.after_announces w chords
  obtain ⟨v, hscope, -, -, -, hstate⟩ := hseen "b" .hold
  have haction : (e.after w chords).scope.get? "action" = some (.number 1) := by
    decide +kernel
  have hoverwritten : (e.after w chords).scope.get? "state" = some (.number 2) := by
    decide +kernel
  have hlast : (e.handle "b" .hold (e.after w chords)).2.scope.get? "last" =
      some (.text "event") := by decide +kernel
  have hheld : (e.handle "b" .hold (e.after w chords)).2.scope.get? "seen" =
      some (.text "hold") := by decide +kernel
  have hup : (e.after w chords).scope.get? "seen" = some (.text "up") := by decide +kernel
  exact ⟨e, w, chords, rfl, rfl, haction, hoverwritten, hkept _ "last" (by decide +kernel),
    ⟨v, hscope "action", hscope "key", hscope "state", hstate⟩, hlast, hheld, hup,
    hknown "b" .hold "key" (by decide)⟩

end Engine
end ChordRules

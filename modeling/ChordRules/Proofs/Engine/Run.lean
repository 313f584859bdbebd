import ChordRules.Engine
import ChordRules.Proofs.Evaluation.Variables

/-! # Runs on the items of a feed

A run takes the items of a feed one after the other and stops at the first failure to read. What
happens to the variables, the host and its calls is what happens when the chords are handled one
after the other, each in the world that the one before left (`Engine.handleAll`). The log holds
what the rules log on the way, and one line of the run's own for each chord on which they fail.

A failure line is logged between two evaluations, so the proof compares worlds that have different
logs behind them: rules cannot read the log, hence they go on alike (`World.Alongside`). -/
namespace ChordRules

structure World.SameState (u v : World σ) : Prop where
  scope : u.scope = v.scope
  host : u.host = v.host
  calls : u.calls = v.calls

/-- Two worlds in the same state that have logged the same lines since their logs were the given
ones. -/
structure World.Alongside (l m : List LogLine) (u v : World σ) : Prop extends
    World.SameState u v where
  log : ∃ lines, u.log = l ++ lines ∧ v.log = m ++ lines

namespace World

variable {l m : List LogLine} {u v w : World σ}

theorem SameState.refl (w : World σ) : w.SameState w := ⟨rfl, rfl, rfl⟩

theorem SameState.alongside (h : u.SameState v) : Alongside u.log v.log u v :=
  ⟨h, [], by simp⟩

theorem SameState.report (h : u.SameState v) (line : LogLine) : (u.report line).SameState v :=
  ⟨h.scope, h.host, h.calls⟩

theorem Alongside.report (h : Alongside l m u v) (line : LogLine) :
    Alongside l m (u.report line) (v.report line) := by
  obtain ⟨⟨hscope, hhost, hcalls⟩, lines, hu, hv⟩ := h
  exact ⟨⟨hscope, hhost, hcalls⟩, lines ++ [line], by simp [World.report, hu],
    by simp [World.report, hv]⟩

theorem Alongside.assign (h : Alongside l m u v) (x : String) (a : Value) :
    Alongside l m (u.assign x a) (v.assign x a) :=
  ⟨⟨congrArg (·.set x a) h.scope, h.host, h.calls⟩, h.log⟩

/-- A call answers the same in both worlds, since a host function sees no log. -/
theorem Alongside.call (h : Alongside l m u v) (name : String) (f : HostFunction σ)
    (vs : List Value) :
    (u.call name f vs).1 = (v.call name f vs).1 ∧
      Alongside l m (u.call name f vs).2 (v.call name f vs).2 := by
  obtain ⟨⟨hscope, hhost, hcalls⟩, lines, hu, hv⟩ := h
  have hanswer : f vs u.host = f vs v.host := by rw [hhost]
  refine ⟨by simp [World.call, hanswer], ⟨hscope, ?_, ?_⟩, lines ++ (f vs v.host).log, ?_, ?_⟩
  · simp [World.call, hanswer]
  · simp [World.call, hcalls]
  · simp [World.call, hanswer, hu]
  · simp [World.call, hv]

end World

/-- No rule can tell worlds apart by their logs. -/
theorem Rule.respects_alongside (r : Rule) (l m : List LogLine) :
    r.Respects (World.Alongside (σ := σ) l m) where
  read _ _ _ h := by rw [h.scope]
  assign _ a _ _ h := h.assign _ a
  call name f vs _ _ h := h.call name f vs

namespace Engine

theorem evaluate_alongside (e : Engine σ) {l m : List LogLine} {u v : World σ}
    (h : World.Alongside l m u v) :
    (e.evaluate u).Related (World.Alongside l m) (e.evaluate v) := by
  have hcarries : e.rules.Carries e.functions (World.Alongside l m) :=
    (e.rules.respects_alongside l m).carries
  obtain ⟨hresult, hworlds⟩ := hcarries h
  exact ⟨congrArg (Except.map fun _ => ()) hresult, hworlds⟩

/-- A chord is handled alike in worlds of the same state, and the same lines are logged. -/
theorem handle_alongside (e : Engine σ) (key : String) (s : KeyState) {u v : World σ}
    (h : u.SameState v) :
    (e.handle key s u).Related (World.Alongside u.log v.log) (e.handle key s v) := by
  have hannounced : World.Alongside u.log v.log (announce u key s) (announce v key s) :=
    ((h.alongside.assign _ _).assign _ _).assign _ _
  exact (e.evaluate_alongside (hannounced.report _)).andThen fun _ _ _ hw => ⟨rfl, hw.report _⟩

end Engine

def operatorSigns : List (Operator × String) :=
  [(.arithmetic .divide, "/"), (.arithmetic .multiply, "*"), (.arithmetic .add, "+"),
   (.arithmetic .subtract, "-"), (.comparison .greater, ">"), (.comparison .less, "<"),
   (.comparison .lessEqual, "<="), (.comparison .greaterEqual, ">="), (.equal, "=="),
   (.assign, "="), (.and, "and"), (.or, "or")]

def kindWords : List (Kind × String) :=
  [(.nothing, "none"), (.boolean, "boolean"), (.number, "number"), (.text, "string")]

/-- `err.Says text`: the error in words. -/
inductive EvalError.Says : EvalError → String → Prop
  | unknownVariable (name : String) : Says (.unknownVariable name) ("unknown variable: " ++ name)
  | unknownFunction (name : String) :
      Says (.unknownFunction name) ("cannot find function: " ++ name)
  | typeMismatch {op : Operator} {k l : Kind} {sign left right : String}
      (hop : (op, sign) ∈ operatorSigns) (hleft : (k, left) ∈ kindWords)
      (hright : (l, right) ∈ kindWords) :
      Says (.typeMismatch op k l)
        ("unsupported operand types for '" ++ sign ++ "': " ++ left ++ " and " ++ right)
  | divisionByZero : Says .divisionByZero "division by zero"
  | notAssignable (target : String) : Says (.notAssignable target) ("cannot assign to " ++ target)

theorem Operator.mem_operatorSigns (op : Operator) : (op, op.symbol) ∈ operatorSigns := by
  rcases op with (_ | _ | _ | _) | (_ | _ | _ | _) | _ | _ | _ | _ <;> decide

theorem Kind.mem_kindWords (k : Kind) : (k, k.name) ∈ kindWords := by
  cases k <;> decide

/-- The message of an error is that error in words. -/
theorem EvalError.says_message (err : EvalError) : err.Says err.message := by
  cases err with
  | unknownVariable name => exact .unknownVariable name
  | unknownFunction name => exact .unknownFunction name
  | typeMismatch op k l =>
    exact .typeMismatch op.mem_operatorSigns k.mem_kindWords l.mem_kindWords
  | divisionByZero => exact .divisionByZero
  | notAssignable target => exact .notAssignable target

namespace FeedItem

def fault? : FeedItem → Option IoFault
  | failure fault => some fault
  | chord .. | warning _ => none

def chord? : FeedItem → Option (String × KeyState)
  | chord key s => some (key, s)
  | failure _ | warning _ => none

def beforeFault (items : List FeedItem) : List FeedItem :=
  items.takeWhile fun item => item.fault?.isNone

end FeedItem

namespace Engine

def handleAll (e : Engine σ) (chords : List (String × KeyState)) (w : World σ) : World σ :=
  chords.foldl (fun w c => (e.handle c.1 c.2 w).2) w

/-- What the rules do about an item. They see chords only. -/
def attend (e : Engine σ) (item : FeedItem) (w : World σ) : Outcome σ Unit :=
  match item with
  | .chord key s => e.handle key s w
  | .failure _ | .warning _ => (.ok (), w)

/-- An item, the world in which the rules met it, and how they ended. -/
structure Step (σ : Type) where
  item : FeedItem
  before : World σ
  outcome : Outcome σ Unit

/-- All steps of the rules on a list of items, each in the world that the one before left. -/
def record (e : Engine σ) : List FeedItem → World σ → List (Step σ)
  | [], _ => []
  | item :: items, w =>
    ⟨item, w, e.attend item w⟩ :: e.record items (e.attend item w).2

namespace Step

def logged (step : Step σ) : List LogLine :=
  step.outcome.2.log.drop step.before.log.length

/-- The line that a run logs by itself: the failure of the rules on a chord, or a warning that
came with the feed. -/
def ownLine? (step : Step σ) : Option LogLine :=
  match step.item, step.outcome.1 with
  | .chord key s, .error err => some (failureLine key s err)
  | .warning line, _ => some line
  | .chord _ _, .ok _ | .failure _, _ => none

/-- `step.Tells line?`: a run logs one line about a step in which the rules failed, with the chord,
its state and the error in words. It passes the warnings of the feed on, and logs nothing else. -/
inductive Tells : Step σ → Option LogLine → Prop
  | failed {key state text : String} {s : KeyState} {err : EvalError} {u v : World σ}
      (hstate : (s, state) ∈ [(.up, "up"), (.down, "down"), (.hold, "hold")])
      (htext : err.Says text) :
      Tells ⟨.chord key s, u, (.error err, v)⟩
        (some ⟨.error, .program, "Rules failed for " ++ key ++ " " ++ state ++ ": " ++ text⟩)
  | handled {key : String} {s : KeyState} {u v : World σ} :
      Tells ⟨.chord key s, u, (.ok (), v)⟩ none
  | warned {line : LogLine} {u : World σ} {o : Outcome σ Unit} :
      Tells ⟨.warning line, u, o⟩ (some line)
  | stopped {fault : IoFault} {u : World σ} {o : Outcome σ Unit} :
      Tells ⟨.failure fault, u, o⟩ none

/-- What a run logs by itself is what it has to tell. -/
theorem tells_ownLine? (step : Step σ) : step.Tells step.ownLine? := by
  obtain ⟨item, u, result, v⟩ := step
  cases item with
  | failure fault => exact .stopped
  | warning line => exact .warned
  | chord key s =>
    cases result with
    | ok _ => exact .handled
    | error err =>
      refine .failed ?_ err.says_message
      cases s <;> decide

end Step

def advance (e : Engine σ) (item : FeedItem) (w : World σ) : World σ :=
  match item with
  | .chord key s => e.handleLogged key s w
  | .warning line => w.report line
  | .failure _ => w

/-- A run goes on up to the first failure to read, item by item. -/
theorem run_eq_foldl (e : Engine σ) (items : List FeedItem) (w : World σ) :
    (e.run items w).2 = (FeedItem.beforeFault items).foldl (fun w item => e.advance item w) w := by
  induction items generalizing w with
  | nil => rfl
  | cons item items ih =>
    cases item with
    | chord key s => exact ih (e.handleLogged key s w)
    | warning line => exact ih (w.report line)
    | failure fault => rfl

/-- Only a failure to read makes a run fail. -/
theorem run_result (e : Engine σ) (items : List FeedItem) (w : World σ) :
    (e.run items w).1 = match items.findSome? FeedItem.fault? with
      | none => .ok ()
      | some fault => .error fault := by
  induction items generalizing w with
  | nil => rfl
  | cons item items ih =>
    cases item with
    | chord key s => exact ih (e.handleLogged key s w)
    | warning line => exact ih (w.report line)
    | failure fault => rfl

theorem handleLogged_eq (e : Engine σ) (key : String) (s : KeyState) (w : World σ) :
    e.handleLogged key s w = match (e.handle key s w).1 with
      | .ok _ => (e.handle key s w).2
      | .error err => (e.handle key s w).2.report (failureLine key s err) := by
  rw [handleLogged]
  rcases e.handle key s w with ⟨_ | _, _⟩ <;> rfl

/-- In one step a run leaves what the rules leave, and logs its own line behind theirs. -/
theorem advance_step (e : Engine σ) (item : FeedItem) {u v : World σ} (h : u.SameState v) :
    let step : Step σ := ⟨item, v, e.attend item v⟩
    (e.advance item u).SameState step.outcome.2 ∧
      (e.advance item u).log = u.log ++ (step.logged ++ step.ownLine?.toList) := by
  cases item with
  | failure fault => exact ⟨h, by simp [advance, attend, Step.logged, Step.ownLine?]⟩
  | warning line =>
    exact ⟨h.report line, by simp [advance, attend, Step.logged, Step.ownLine?, World.report]⟩
  | chord key s =>
    obtain ⟨hresult, hstate, lines, hu, hv⟩ := e.handle_alongside key s h
    have hlogged : (e.handle key s v).2.log.drop v.log.length = lines := by
      rw [hv, List.drop_left]
    simp only [advance, attend, handleLogged_eq, Step.logged, Step.ownLine?, hlogged, hresult]
    cases (e.handle key s v).1 with
    | ok _ => exact ⟨hstate, by simp [hu]⟩
    | error err => exact ⟨hstate.report _, by simp [World.report, hu]⟩

/-- The rules log at the end of a log only. -/
theorem log_attend (e : Engine σ) (item : FeedItem) (w : World σ) :
    (e.attend item w).2.log = w.log ++ (⟨item, w, e.attend item w⟩ : Step σ).logged := by
  cases item with
  | failure | warning => simp [attend, Step.logged]
  | chord key s =>
    obtain ⟨-, -, lines, hw, -⟩ := e.handle_alongside key s (.refl w)
    simp [attend, Step.logged, hw]

/-- After any number of items a run has left what the rules have left, and its log holds its own
lines between theirs. -/
theorem foldl_advance (e : Engine σ) (items : List FeedItem) {u v : World σ}
    (h : u.SameState v) :
    let finish := items.foldl (fun w item => e.advance item w) u
    finish.SameState (items.foldl (fun w item => (e.attend item w).2) v) ∧
      finish.log = u.log ++
        (e.record items v).flatMap fun step => step.logged ++ step.ownLine?.toList := by
  induction items generalizing u v with
  | nil => exact ⟨h, by simp [record]⟩
  | cons item items ih =>
    obtain ⟨hstate, hlog⟩ := e.advance_step item h
    obtain ⟨hfinish, hlines⟩ := ih hstate
    refine ⟨hfinish, ?_⟩
    simp only [List.foldl_cons, record, List.flatMap_cons]
    rw [hlines, hlog, List.append_assoc]

/-- The rules see nothing of a feed but its chords. -/
theorem foldl_attend (e : Engine σ) (items : List FeedItem) (w : World σ) :
    items.foldl (fun w item => (e.attend item w).2) w =
      e.handleAll (items.filterMap FeedItem.chord?) w := by
  induction items generalizing w with
  | nil => rfl
  | cons item items ih => cases item <;> exact ih _

theorem log_foldl_attend (e : Engine σ) (items : List FeedItem) (w : World σ) :
    (items.foldl (fun w item => (e.attend item w).2) w).log =
      w.log ++ (e.record items w).flatMap Step.logged := by
  induction items generalizing w with
  | nil => simp [record]
  | cons item items ih =>
    simp only [List.foldl_cons, record, List.flatMap_cons]
    rw [ih, log_attend, List.append_assoc]

/-- Without a failure to read, what follows is a run of its own. -/
theorem run_append_of_ok (e : Engine σ) {items : List FeedItem} (more : List FeedItem)
    {w : World σ} (h : items.findSome? FeedItem.fault? = none) :
    e.run (items ++ more) w = e.run more (e.run items w).2 := by
  have hok : (e.run items w).1 = .ok () := by rw [run_result, h]
  have hrun : e.run items w = (.ok (), (e.run items w).2) := Prod.ext hok rfl
  rw [run_append, hrun]

/-- A run ends with the first failure to read, and well if there is none. Up to there it loses
nothing: the variables, the host and the calls are those of handling the chords one after the
other, each in the world that the one before left, whether or not the rules failed there. The log
is that of the rules with one more line for each chord on which they failed (and for each warning
of the feed), right behind what they logged for it. That line is an error, and it names the chord,
its state and what went wrong. Where nothing fails to read, the rest of a feed is a run of its
own. -/
theorem run_loses_nothing (e : Engine σ) (items : List FeedItem) (w : World σ) :
    let taken := FeedItem.beforeFault items
    let handled := e.handleAll (taken.filterMap FeedItem.chord?) w
    let steps := e.record taken w
    ((e.run items w).1 = match items.findSome? FeedItem.fault? with
      | none => .ok ()
      | some fault => .error fault) ∧
    (e.run items w).2.SameState handled ∧
    handled.log = w.log ++ steps.flatMap Step.logged ∧
    (e.run items w).2.log =
      w.log ++ (steps.flatMap fun step => step.logged ++ step.ownLine?.toList) ∧
    (∀ step ∈ steps, step.Tells step.ownLine?) ∧
    ∀ more, items.findSome? FeedItem.fault? = none →
      e.run (items ++ more) w = e.run more (e.run items w).2 := by
  intro taken handled steps
  obtain ⟨hstate, hlog⟩ := e.foldl_advance taken (.refl w)
  rw [foldl_attend] at hstate
  refine ⟨e.run_result items w, ?_, ?_, ?_, fun step _ => step.tells_ownLine?,
    fun more h => e.run_append_of_ok more h⟩
  · rw [run_eq_foldl]
    exact hstate
  · rw [← log_foldl_attend, foldl_attend]
  · rw [run_eq_foldl]
    exact hlog

/-- So it is where the rules fail on the second of three chords after they have noted its key. One
failure is logged, the third chord is noted as well, and what fails to read behind it ends the
run. -/
theorem run_loses_nothing_missing :
    ∃ (e : Engine Unit) (items : List FeedItem) (w : World Unit),
      e.rules = .block [.binary .assign (.symbol "last") (.symbol "key"),
        .ifThen (.binary .equal (.symbol "key") (.text "b")) (.symbol "missing")] ∧
      items = [.chord "a" .down, .chord "b" .up, .chord "c" .hold] ∧
      (e.run items w).1 = .ok () ∧
      (e.run items w).2.scope.get? "last" = some (.text "c") ∧
      ((e.record items w).filterMap Step.ownLine?) =
        [⟨.error, .program, "Rules failed for b up: unknown variable: missing"⟩] ∧
      (∀ step ∈ e.record items w, step.Tells step.ownLine?) ∧
      (e.run items w).2.log = w.log ++
        ((e.record items w).flatMap fun step => step.logged ++ step.ownLine?.toList) ∧
      ⟨.error, .program, "Rules failed for b up: unknown variable: missing"⟩ ∈
        (e.run items w).2.log ∧
      e.run (items ++ [.failure .notUtf8, .chord "d" .down]) w =
        (.error .notUtf8, (e.run items w).2) := by
  let rules : Rule := .block [.binary .assign (.symbol "last") (.symbol "key"),
    .ifThen (.binary .equal (.symbol "key") (.text "b")) (.symbol "missing")]
  let e : Engine Unit := ⟨rules, .empty⟩
  let items : List FeedItem := [.chord "a" .down, .chord "b" .up, .chord "c" .hold]
  let w : World Unit := .ofHost ()
  obtain ⟨hresult, hstate, -, hlog, htells, happend⟩ := e.run_loses_nothing items w
  have hlast : (e.run items w).2.scope.get? "last" = some (.text "c") := by
    rw [hstate.scope]
    decide +kernel
  have hfailures : ((e.record items w).filterMap Step.ownLine?) =
      [⟨.error, .program, "Rules failed for b up: unknown variable: missing"⟩] := by
    decide +kernel
  have hlogged : ⟨.error, .program, "Rules failed for b up: unknown variable: missing"⟩ ∈
      (e.run items w).2.log := by decide +kernel
  have hmore : e.run (items ++ [.failure .notUtf8, .chord "d" .down]) w =
      (.error .notUtf8, (e.run items w).2) := by
    rw [happend _ rfl]
    rfl
  exact ⟨e, items, w, rfl, rfl, hresult, hlast, hfailures, htells, hlog, hlogged, hmore⟩

end Engine
end ChordRules

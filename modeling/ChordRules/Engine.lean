import ChordRules.Evaluation
import ChordRules.Grammar.Progress
import ChordRules.Key.Event

/-! # Running rules on key events

An engine evaluates the same rules again and again in one world: once at the start, and once for
every chord. The variables tell the rules why they run. A run that fails is logged and keeps
what it changed; the runs after it go on from there. Only a failure to read events stops. -/
namespace ChordRules

structure Engine (σ : Type) where
  rules : Rule
  functions : Registry σ

namespace Engine

/-- Evaluates the rules; only success or failure matters. -/
def evaluate (e : Engine σ) (w : World σ) : Outcome σ Unit :=
  let r := e.rules.eval e.functions w
  (r.1.map fun _ => (), r.2)

/-- Runs the rules for the start of the program. -/
def start (e : Engine σ) (w : World σ) : Outcome σ Unit :=
  e.evaluate (w.assign "action" (.text "initialize"))

/-- The world in which the rules see a chord. -/
def announce (w : World σ) (key : String) (s : KeyState) : World σ :=
  ((w.assign "action" (.text "event")).assign "key" (.text key)).assign "state" (.text s.name)

/-- Runs the rules for one chord. -/
def handle (e : Engine σ) (key : String) (s : KeyState) (w : World σ) : Outcome σ Unit :=
  let w := (announce w key s).report
    ⟨.debug, .program, "Running event " ++ key ++ ": " ++ s.name⟩
  (e.evaluate w).andThen fun _ w => (.ok (), w.report ⟨.debug, .program, "Event ran"⟩)

def failureLine (key : String) (s : KeyState) (err : EvalError) : LogLine :=
  ⟨.error, .program, "Rules failed for " ++ key ++ " " ++ s.name ++ ": " ++ err.message⟩

/-- Runs the rules for one chord and logs a failure. -/
def handleLogged (e : Engine σ) (key : String) (s : KeyState) (w : World σ) : World σ :=
  match e.handle key s w with
  | (.ok _, w) => w
  | (.error err, w) => w.report (failureLine key s err)

/-- Runs the rules for all chords up to the first failure to read. -/
def run (e : Engine σ) : List FeedItem → World σ → Except IoFault Unit × World σ
  | [], w => (.ok (), w)
  | .chord key s :: items, w => e.run items (e.handleLogged key s w)
  | .warning line :: items, w => e.run items (w.report line)
  | .failure fault :: _, w => (.error fault, w)

theorem run_append (e : Engine σ) (items more : List FeedItem) (w : World σ) :
    e.run (items ++ more) w =
      match e.run items w with
      | (.ok _, w') => e.run more w'
      | (.error fault, w') => (.error fault, w') := by
  induction items generalizing w with
  | nil => rfl
  | cons item items ih => cases item <;> simp [run, ih]

end Engine
end ChordRules

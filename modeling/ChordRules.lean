import ChordRules.Character.Boundary
import ChordRules.Character.CaseFolding
import ChordRules.Character.Category
import ChordRules.Character.Class
import ChordRules.Character.Property
import ChordRules.Character.Script
import ChordRules.Character.Set
import ChordRules.CommandLine
import ChordRules.Engine
import ChordRules.Evaluation
import ChordRules.Grammar.Progress
import ChordRules.Grammar.Reading
import ChordRules.HostFunctions
import ChordRules.Item.Address
import ChordRules.Item.Request
import ChordRules.Key.Code
import ChordRules.Key.Event
import ChordRules.Main
import ChordRules.Number.Binary64
import ChordRules.Pattern.Automaton
import ChordRules.Pattern.Check
import ChordRules.Pattern.ClassReading
import ChordRules.Pattern.Escape
import ChordRules.Pattern.Fault
import ChordRules.Pattern.Form
import ChordRules.Pattern.Meaning
import ChordRules.Pattern.Reading
import ChordRules.Pattern.Syntax
import ChordRules.Program
import ChordRules.Proofs.Engine.History
import ChordRules.Proofs.Engine.Run
import ChordRules.Proofs.Evaluation.Arithmetic
import ChordRules.Proofs.Evaluation.Cause
import ChordRules.Proofs.Evaluation.Comparison
import ChordRules.Proofs.Evaluation.Explanation
import ChordRules.Proofs.Evaluation.Flattening
import ChordRules.Proofs.Evaluation.Reach
import ChordRules.Proofs.Evaluation.Variables
import ChordRules.Proofs.Grammar.Acceptance
import ChordRules.Proofs.Grammar.Braces
import ChordRules.Proofs.Grammar.Chain
import ChordRules.Proofs.Grammar.Continuation
import ChordRules.Proofs.Grammar.Derivation
import ChordRules.Proofs.Grammar.NearestIf
import ChordRules.Proofs.Grammar.Printing
import ChordRules.Proofs.Grammar.SameTokens
import ChordRules.Proofs.Grammar.Spelling
import ChordRules.Proofs.Grammar.Termination
import ChordRules.Proofs.Grammar.ViablePrefix
import ChordRules.Proofs.Grammar.WellFormed
import ChordRules.Proofs.Grammar.WordKinds
import ChordRules.Proofs.Grammar.WordOperators
import ChordRules.Proofs.Grammar.Words
import ChordRules.Proofs.Item.Destination
import ChordRules.Proofs.Key.Chord
import ChordRules.Proofs.Key.Device
import ChordRules.Proofs.Key.EventLine
import ChordRules.Proofs.Key.Feed
import ChordRules.Proofs.Message
import ChordRules.Proofs.Rule.Outline
import ChordRules.Proofs.Rule.Subtree
import ChordRules.Proofs.Settings
import ChordRules.Proofs.Text.Fields
import ChordRules.Proofs.Text.Order
import ChordRules.Proofs.Text.Percent
import ChordRules.Proofs.Text.Quoted
import ChordRules.Proofs.Text.SignedNumeral
import ChordRules.Proofs.Token.Layout
import ChordRules.Proofs.Token.Lookahead
import ChordRules.Proofs.Token.Remaining
import ChordRules.Proofs.Token.Respacing
import ChordRules.Proofs.Token.Splitting
import ChordRules.Proofs.Toml.DistinctKeys
import ChordRules.Proofs.Toml.Lookup
import ChordRules.Proofs.Toml.Yield
import ChordRules.Rehearsal
import ChordRules.Report
import ChordRules.Rule
import ChordRules.Settings
import ChordRules.Text.Cursor
import ChordRules.Text.Lowercase
import ChordRules.Text.Quoted
import ChordRules.Text.Utf8
import ChordRules.Text.Word
import ChordRules.Token.Stream
import ChordRules.Toml.Document
import ChordRules.Toml.Fault
import ChordRules.Toml.Reading
import ChordRules.Toml.Scalar
import ChordRules.Toml.Scan
import ChordRules.Toml.Text
import ChordRules.Value
import ChordRules.Workspace

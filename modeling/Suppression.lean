import Suppression.Main
import Suppression.Proofs.Filter.Escape
import Suppression.Proofs.Sarif.Effect
import Suppression.Proofs.Sarif.Passes
import Suppression.Proofs.Sarif.Totals
import Suppression.Proofs.Sarif.Repetition
import Suppression.Proofs.Filter.Joining
import Suppression.Proofs.Sarif.Exclusion
import Suppression.Proofs.Filter.Rendering
import Suppression.Proofs.Sarif.Counting
import Suppression.Proofs.Sarif.Findings
import Suppression.Proofs.Files.Writing
import Suppression.Proofs.Sarif.Tasks
import Suppression.Proofs.Settings.Variables
import Suppression.Proofs.Json.Legible
import Suppression.Proofs.Json.RoundTrip
import Suppression.Proofs.Sarif.Stages
import Suppression.Proofs.Glob.Validity
import Suppression.Proofs.Console.Commands
import Suppression.Proofs.Settings.Layers
import Suppression.Proofs.Console.Arguments
import Suppression.Proofs.Console.Layers
import Suppression.Proofs.Toml.Quoted
import Suppression.Proofs.Toml.Lines
import Suppression.Proofs.Settings.Reload
import Suppression.Proofs.Console.Showing
import Suppression.Proofs.Glob.Separators
import Suppression.Proofs.Filter.Grammar
import Suppression.Proofs.Sarif.Statistics
import Suppression.Proofs.Sarif.Monotone
import Suppression.Proofs.Filter.Spans
import Suppression.Proofs.Sarif.Ranking
import Suppression.Proofs.Sarif.Logging
import Suppression.Proofs.Sarif.Merging
import Suppression.Proofs.Glob.Rows
import Suppression.Proofs.Console.Tables
import Suppression.Proofs.Sarif.Failing

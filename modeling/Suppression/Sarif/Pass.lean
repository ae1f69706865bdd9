import Suppression.Filter.Basic
import Suppression.Json.Value
import Suppression.Sarif.Account

/-!
# Applying a filter to a report

A report holds runs, a run holds results, and a result holds locations. A filter takes
away the locations that its patterns do not keep, and the results that lose their last
location this way. Whatever does not have the expected shape is left as it is and
counted.
-/

namespace Suppression.Sarif

open Json (Value putField)

/-- The file of a location. -/
def uri? (location : Value) : Option String :=
  (location.at? ["physicalLocation", "artifactLocation", "uri"]).bind Value.text?

/-- What becomes of a location. -/
inductive Verdict where
  /-- It does not name its file, and stays. -/
  | noUri
  | kept (uri : String)
  | removed (uri : String)
  deriving DecidableEq, Repr

namespace Verdict

/-- The patterns decide about a location of a finding that `rule` reported. -/
def of (patterns : List Pattern) (rule : String) (location : Value) : Verdict :=
  match uri? location with
  | none => .noUri
  | some uri => if Filter.keeps patterns uri rule then .kept uri else .removed uri

/-- The location stays. -/
def stays : Verdict → Bool
  | .removed _ => false
  | _ => true

/-- What a verdict counts and reports. -/
def account (rule : String) : Verdict → Account
  | .noUri => ⟨{ locationsBefore := 1, malformed := 1 }, [.uriNotText rule]⟩
  | .kept uri => ⟨{ locationsBefore := 1 }, [.locationKept uri]⟩
  | .removed uri => ⟨{ locationsBefore := 1, locationsRemoved := 1 }, [.locationRemoved uri]⟩

end Verdict

/-- What a filter sees of a result. -/
inductive Shape where
  /-- It is no object. -/
  | notObject
  /-- It has no locations to decide about. -/
  | noLocations
  /-- Its locations are no array. -/
  | locationsNotArray
  /-- It has locations, but does not name its rule. -/
  | ruleNotText
  /-- It can be decided about. -/
  | decidable (rule : String) (locations : List Value)

/-- The shape of a result. The locations are looked at first. -/
def Shape.of (result : Value) : Shape :=
  if !result.isObject then .notObject
  else
    match result.get? "locations" with
    | none => .noLocations
    | some (.array []) => .noLocations
    | some (.array locations) =>
        match (result.get? "ruleId").bind Value.text? with
        | none => .ruleNotText
        | some rule => .decidable rule locations
    | some _ => .locationsNotArray

/-- The object with a field put in. Other values have no fields and stay as they are. -/
def withField (key : String) (value : Value) : Value → Value
  | .object fields => .object (putField key value fields)
  | other => other

/-- What is left of a result, and the account of its locations. -/
def passResult (patterns : List Pattern) (result : Value) : Option Value × Account :=
  match Shape.of result with
  | .notObject => (some result, .ofMalformed .resultNotObject)
  | .noLocations => (some result, {})
  | .locationsNotArray => (some result, .ofMalformed .locationsNotArray)
  | .ruleNotText => (some result, .ofMalformed .ruleNotText)
  | .decidable rule locations =>
      let verdict := Verdict.of patterns rule
      let left := locations.filter fun location => (verdict location).stays
      let account := locations.foldr
        (fun location account => (verdict location).account rule ++ account) {}
      (if left.isEmpty then none else some (withField "locations" (.array left) result), account)

/-- What is left of the results of a run, from the result number `index` on. -/
def passResults (patterns : List Pattern) : Nat → List Value → List Value × Account
  | _, [] => ([], {})
  | index, result :: results =>
      let (left, account) := passResult patterns result
      let (lefts, accounts) := passResults patterns (index + 1) results
      let outcome : Account := match left with
        | some _ => ⟨{ resultsBefore := 1, resultsAfter := 1 }, [.resultKept index]⟩
        | none => ⟨{ resultsBefore := 1 }, [.resultRemoved index]⟩
      (left.toList ++ lefts, account ++ outcome ++ accounts)

/-- What is left of the run number `index`. -/
def passRun (patterns : List Pattern) (index : Nat) (run : Value) : Value × Account :=
  let visited : Account := ⟨{ runs := 1 }, []⟩
  if !run.isObject then (run, visited ++ .ofMalformed (.runNotObject index))
  else
    match run.get? "results" with
    | none => (run, visited)
    | some (.array results) =>
        let (left, account) := passResults patterns 0 results
        (withField "results" (.array left) run,
          visited ++ account ++ ⟨{}, [.runDone index left.length]⟩)
    | some _ => (run, visited ++ .ofMalformed (.resultsNotArray index))

/-- What is left of the runs of a report, from the run number `index` on. -/
def passRuns (patterns : List Pattern) : Nat → List Value → List Value × Account
  | _, [] => ([], {})
  | index, run :: runs =>
      let (left, account) := passRun patterns index run
      let (lefts, accounts) := passRuns patterns (index + 1) runs
      (left :: lefts, account ++ accounts)

/-- What is left of a report, and the account of all its runs. -/
def pass (patterns : List Pattern) (report : Value) : Value × Account :=
  match report.get? "runs" with
  | none => (report, ⟨{}, [.noRuns]⟩)
  | some (.array runs) =>
      let (left, account) := passRuns patterns 0 runs
      (withField "runs" (.array left) report, account)
  | some _ => (report, .ofMalformed .runsNotArray)

end Suppression.Sarif

/-!
# Runs of letters at a constant distance from their other case

Case tables are long but regular: neighbouring letters, or every second one, lie at the same
distance from their counterparts.  A `CaseRun` describes such a stretch.
-/

namespace BoundedVars.Text

/-- The code points `first`, `first + step`, …, `last`, each to be moved by `shift`. -/
structure CaseRun where
  first : Nat
  last : Nat
  step : Nat
  shift : Int

/-- A code point lies on the run. -/
def CaseRun.covers (run : CaseRun) (code : Nat) : Bool :=
  run.first ≤ code && code ≤ run.last && (code - run.first) % run.step == 0

/-- A character moved by the first run that covers it, itself when none does. -/
def CaseRun.convert (runs : Array CaseRun) (c : Char) : Char :=
  match runs.find? (·.covers c.toNat) with
  | some run => Char.ofNat (c.toNat + run.shift).toNat
  | none => c

end BoundedVars.Text

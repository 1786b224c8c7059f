import Courier.Report.Basic
import Courier.Report.Tally

/-!
# Report stores

Reports are kept in the order in which they arrive.
-/

namespace Courier

structure Store where
  reports : List Report

namespace Store

def empty : Store := ⟨[]⟩

def add (store : Store) (report : Report) : Store := ⟨store.reports ++ [report]⟩

/-- The first report of a run. -/
def find? (store : Store) (id : RunId) : Option Report :=
  store.reports.find? fun report ↦ report.runId = id

def tally (store : Store) : Tally := Tally.ofResults (store.reports.map Report.result)

end Store

end Courier

import StylePrune.Decimal.Exact
import StylePrune.Report.Basic

/-!
# Budgets

A budget limits the part of the rules that may be unused, or the size of the pruned style sheet. A
limit is an integer or any other number, and is compared exactly.
-/

namespace StylePrune

inductive Limit where
  | whole (n : Int)
  | number (f : Float)
deriving Inhabited

namespace Limit

/-- Whether a value is above the limit. -/
def isExceeded (limit : Limit) (value : Float) : Bool :=
  match limit with
  | whole n => Decimal.compareInt value n = some .gt
  | number f => f < value

/-- The limit with two places; nothing if it is past all floating-point numbers. -/
def shown? : Limit → Option String
  | whole n => (Decimal.ofInt? n).map (Decimal.fixed 2)
  | number f => some (Decimal.fixed 2 f)

end Limit

structure Budgets where
  maxUnusedPercent : Option Limit := none
  maxFinalKb : Option Limit := none
deriving Inhabited

/-- Why a limit cannot be shown. -/
inductive BudgetFault where
  | limitTooLarge
deriving DecidableEq, Repr

def BudgetFault.message : BudgetFault → String
  | limitTooLarge => "int too large to convert to float"

namespace Budgets

def unusedPercent (stats : PruneStats) : Float :=
  if stats.totalRules = 0 then 0 else Report.quotient stats.removedRules stats.totalRules * 100

def finalKb (stats : PruneStats) : Float := Report.quotient stats.sizeAfter 1024

/-- The message about one limit, if there is one and it is exceeded. -/
def violation (limit : Option Limit) (value : Float) (message : String → String → String) :
    Except BudgetFault (List String) :=
  match limit with
  | none => .ok []
  | some limit =>
    if limit.isExceeded value then
      match limit.shown? with
      | some shown => .ok [message (Decimal.fixed 2 value) shown]
      | none => .error .limitTooLarge
    else .ok []

/-- A message for each budget that does not hold. -/
def violations (b : Budgets) (stats : PruneStats) : Except BudgetFault (List String) := do
  let unused ← violation b.maxUnusedPercent (unusedPercent stats) fun value limit =>
    s!"Unused CSS percent ({value}%) exceeds max ({limit}%)"
  let size ← violation b.maxFinalKb (finalKb stats) fun value limit =>
    s!"Final CSS size ({value} KB) exceeds max ({limit} KB)"
  return unused ++ size

end Budgets

end StylePrune

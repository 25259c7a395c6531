import StylePrune.Prune

/-!
# Counts of the work done

A program counts the files it scans, what its caches answer, and the rules it prunes.
-/

namespace StylePrune

/-- Lookups in caches, by the two kinds of caches. -/
structure Lookups where
  inMemory : Nat := 0
  persistent : Nat := 0
deriving DecidableEq, Repr, Inhabited

/-- One more lookup. -/
def Lookups.count (l : Lookups) (isPersistent : Bool) : Lookups :=
  if isPersistent then { l with persistent := l.persistent + 1 }
  else { l with inMemory := l.inMemory + 1 }

structure Tally where
  filesScanned : Nat := 0
  hits : Lookups := {}
  misses : Lookups := {}
  rules : Nat := 0
  rulesRemoved : Nat := 0
  /-- Style sheets that were given back as they are. -/
  parseFailures : Nat := 0
deriving DecidableEq, Repr, Inhabited

namespace Tally

/-- Counts a lookup in a cache. -/
def lookedUp (t : Tally) (isPersistent found : Bool) : Tally :=
  if found then { t with hits := t.hits.count isPersistent }
  else { t with misses := t.misses.count isPersistent }

def scanned (t : Tally) : Tally := { t with filesScanned := t.filesScanned + 1 }

/-- Counts a pruned style sheet. -/
def pruned (t : Tally) (result : PruneResult) : Tally :=
  if result.parsed then
    { t with
      rules := t.rules + result.stats.totalRules
      rulesRemoved := t.rulesRemoved + result.stats.removedRules }
  else { t with parseFailures := t.parseFailures + 1 }

end Tally

end StylePrune

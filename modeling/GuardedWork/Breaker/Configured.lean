import GuardedWork.Breaker.State
import GuardedWork.Config.Procedure

namespace GuardedWork

-- The settings are looked at once for each number.
def Rule.configured (name : String) : Procedure Rule := do
  let s ← Procedure.settings
  let t ← Procedure.settings
  pure ⟨name, s.sections.breaker.threshold, t.sections.breaker.retryTimeoutMs⟩

def Breaker.configured (name : String) : Procedure (Except RuleError Breaker) := do
  pure (Breaker.ofRule (← Rule.configured name))

end GuardedWork

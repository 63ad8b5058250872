import GuardedWork.Job

namespace GuardedWork

-- How a transform ends, and whether it cancelled the run on its way.
inductive Ending (ρ : Type) where
  | value (result : ρ)
  | failure (failure : Failure)
  | panic
deriving DecidableEq, Repr

structure Transformed (ρ : Type) where
  ending : Ending ρ
  cancels : Bool
deriving DecidableEq, Repr

abbrev Transform (α ρ : Type) := α → Transformed ρ

end GuardedWork

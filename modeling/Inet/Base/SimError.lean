import Mathlib.Tactic.Common

/-!
# How a simulation stops

A function that does not return throws, uses a `NULL` or dangling pointer or an invalid iterator, or
stays in a loop.
-/

namespace Inet

inductive SimError where
  /-- `throw cRuntimeError(text)` or `error(text)`. -/
  | runtimeError (text : String)
  /-- `ASSERT(condition)` does not hold. -/
  | assertion (condition : String)
  /-- A use of a `NULL` pointer. -/
  | nullPointer
  /-- An operation that C++ leaves undefined. -/
  | undefinedBehavior (what : String)
  /-- A loop of the source that never leaves. -/
  | nonTermination
  deriving DecidableEq

end Inet

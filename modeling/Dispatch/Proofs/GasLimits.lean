import Dispatch.Submission

/-!
# Where a gas limit comes from

The caller's limit counts first, that of the options before that of the call. Without one the
estimate of a dry run counts, and without an estimate the limit of the operation.
-/

set_option autoImplicit false

namespace Dispatch

/-- The caller's limit. -/
def Explicit (call : Call) (o : Options) (gas : UInt64) : Prop :=
  o.gasLimit = some gas ∨ o.gasLimit = none ∧ call.gasLimit = some gas

def Unset (call : Call) (o : Options) : Prop := o.gasLimit = none ∧ call.gasLimit = none

/-- The gas of an operation: the first entry of its name, else the general limit. -/
inductive Tabled (s : Settings) : Option String → UInt64 → Prop
  | listed {name : String} {gas : UInt64} {before after : List (String × UInt64)}
      (entry : s.gasLimits = before ++ (name, gas) :: after)
      (first : ∀ other ∈ before, other.1 ≠ name) : Tabled s (some name) gas
  | unlisted {name : String} (absent : ∀ entry ∈ s.gasLimits, entry.1 ≠ name) :
      Tabled s (some name) s.defaultGasLimit
  | unnamed : Tabled s none s.defaultGasLimit

inductive Limited (s : Settings) (call : Call) (o : Options) (dryRun : Option DryRun) :
    UInt64 → Prop
  | explicit {gas : UInt64} (set : Explicit call o gas) : Limited s call o dryRun gas
  | estimated {gas : UInt64} (unset : Unset call o) (ran : dryRun = some (.wouldSucceed gas)) :
      Limited s call o dryRun gas
  | tabled {gas : UInt64} (unset : Unset call o)
      (blind : ∀ estimate, dryRun ≠ some (.wouldSucceed estimate))
      (limit : Tabled s call.operation gas) : Limited s call o dryRun gas

section
variable {call : Call} {o : Options}

theorem gasOverride_eq_some_iff {gas : UInt64} :
    Dispatcher.gasOverride call o = some gas ↔ Explicit call o gas := Option.or_eq_some_iff

theorem gasOverride_eq_none_iff : Dispatcher.gasOverride call o = none ↔ Unset call o :=
  Option.or_eq_none_iff

theorem tabled_staticGasLimit (s : Settings) (operation : Option String) :
    Tabled s operation (s.staticGasLimit operation) := by
  cases operation with
  | none => exact .unnamed
  | some name =>
    rw [Settings.staticGasLimit, Option.bind_some]
    cases found : s.gasLimits.lookup name with
    | none =>
      refine .unlisted fun entry member same => ?_
      have other := List.lookup_eq_none_iff.mp found entry member
      simp [same] at other
    | some gas =>
      obtain ⟨before, after, entry, first⟩ := List.lookup_eq_some_iff.mp found
      refine .listed entry fun other member same => ?_
      have skipped := first other member
      simp [same] at skipped

theorem limited_resolveGasLimit (s : Settings) (call : Call) (o : Options)
    (dryRun : Option DryRun) :
    Limited s call o dryRun
      (s.resolveGasLimit (Dispatcher.gasOverride call o) dryRun call.operation) := by
  unfold Settings.resolveGasLimit
  cases explicit : Dispatcher.gasOverride call o with
  | some gas => exact .explicit (gasOverride_eq_some_iff.mp explicit)
  | none =>
    have unset := gasOverride_eq_none_iff.mp explicit
    have limit := tabled_staticGasLimit s call.operation
    cases dryRun with
    | none => exact .tabled unset nofun limit
    | some dryRun =>
      cases dryRun with
      | wouldSucceed gas => exact .estimated unset rfl
      | wouldRevert reason => exact .tabled unset nofun limit
      | nodeError error => exact .tabled unset nofun limit

end

end Dispatch

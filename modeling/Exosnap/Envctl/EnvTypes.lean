/-
  The vocabulary of the environment orchestrator: property keys, what may be changed, and where a
  transaction is. The keys of the transaction states are an on-disk contract.

  Modelled from src/tools/envctl/core/env_types.h and env_types.cpp.
-/
import Mathlib.Data.String.Basic
import Mathlib.Data.List.TakeDrop

namespace Exosnap.Envctl

inductive CapabilityClass where
  | read
  | mutateSafe
  | mutateTestOnly
  | human
  | physical
  | secure
  | unavailable
deriving DecidableEq

def CapabilityClass.ToKey : CapabilityClass → String
  | read => "ENV_READ"
  | mutateSafe => "ENV_MUTATE_SAFE"
  | mutateTestOnly => "ENV_MUTATE_TESTONLY"
  | human => "ENV_HUMAN"
  | physical => "PHYSICAL"
  | secure => "SECURE"
  | unavailable => "UNAVAILABLE"

/-- The only predicate a mutation may consult. -/
def IsMutable (value : CapabilityClass) : Bool :=
  value == .mutateSafe || value == .mutateTestOnly

structure PropertyId where
  deviceAlias : String
  property : String
deriving DecidableEq

def PropertyId.Key (id : PropertyId) : String := id.deviceAlias ++ ":" ++ id.property

/-- A key has one colon, with something on both sides of it. -/
def PropertyIdFromKey (key : String) : Option PropertyId :=
  match key.toList.span (· != ':') with
  | (_, []) => none
  | (deviceAlias, _ :: property) =>
      if deviceAlias.isEmpty || property.isEmpty || property.contains ':' then none
      else some ⟨String.ofList deviceAlias, String.ofList property⟩

theorem key_of_propertyIdFromKey {key : String} {id : PropertyId}
    (h : PropertyIdFromKey key = some id) : id.Key = key := by
  have hparts := List.takeWhile_append_dropWhile (p := (· != ':')) (l := key.toList)
  rw [PropertyIdFromKey, List.span_eq_takeWhile_dropWhile] at h
  cases hdrop : key.toList.dropWhile (· != ':') with
  | nil => simp [hdrop] at h
  | cons colon property =>
    have hcolon : colon = ':' := by
      have hhead := List.head?_dropWhile_not (· != ':') key.toList
      simpa [hdrop] using hhead
    rw [hdrop, hcolon] at hparts
    simp only [hdrop] at h
    split at h
    · cases h
    · obtain rfl := Option.some.inj h
      apply String.toList_injective
      simpa [PropertyId.Key] using hparts

inductive TransactionState where
  | clean
  | prepared
  | mutating
  | active
  | restoring
  | restored
  | restorePending
  | restorePendingDeviceUnavailable
  | restoreFailed
deriving DecidableEq

namespace TransactionState

def kStateKeys : List (TransactionState × String) :=
  [(clean, "Clean"), (prepared, "Prepared"), (mutating, "Mutating"), (active, "Active"),
   (restoring, "Restoring"), (restored, "Restored"), (restorePending, "RestorePending"),
   (restorePendingDeviceUnavailable, "RestorePendingDeviceUnavailable"),
   (restoreFailed, "RestoreFailed")]

def ToKey (value : TransactionState) : String := (kStateKeys.lookup value).getD "Clean"

def FromKey (key : String) : Option TransactionState :=
  (kStateKeys.find? fun entry => entry.2 == key).map Prod.fst

def IsDirty : TransactionState → Bool
  | clean | restored => false
  | prepared | mutating | active | restoring | restorePending | restorePendingDeviceUnavailable
  | restoreFailed => true

def IsTerminal (value : TransactionState) : Bool :=
  value == clean || value == restored || value == restoreFailed ||
    value == restorePendingDeviceUnavailable

theorem fromKey_toKey (value : TransactionState) : FromKey value.ToKey = some value := by
  cases value <;> decide

end TransactionState

end Exosnap.Envctl

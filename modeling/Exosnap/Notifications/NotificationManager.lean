/-
  The visible toasts and their dismiss timer (`NotificationManager.cpp`).

  The clock is read anew wherever the source reads it and may give anything. A timer is the interval
  it was started with and the reading it was started at; what the toolkit makes of a negative
  interval is a parameter. Texts, actions and the signals to the hub and the toast window are left
  out; `recorded` is the history of all events that were enqueued, each with the reading then.
-/
import Mathlib.Data.List.Nodup
import Mathlib.Data.List.InsertIdx
import Exosnap.Lib.StepRun
import Mathlib.Algebra.Order.Ring.Int

namespace Exosnap.Notifications

inductive NotificationType where
  | lowStorage | saved | unexpectedStop | recoveryAvailable | updateAvailable | framesDropped
  | settingsRepaired | presetSwitched | overlayOmitted | hotkeyConflict | settingsSaveFailed
  | audioDefaultDeviceChanged | audioSourceDegraded | captureActionFailed | frameCaptured
  | recoveryProtectionUnavailable | settingsLoadFailed | presetTransferFailed
  | windowCaptureStalled | elevationRequired
  deriving DecidableEq

def kDwellBrief : Int := 5000
def kDwellAction : Int := 10000

def DismissIntervalMs : NotificationType → Int
  | .lowStorage | .audioSourceDegraded | .windowCaptureStalled => 0
  | .frameCaptured | .audioDefaultDeviceChanged | .settingsRepaired | .overlayOmitted
  | .presetSwitched => kDwellBrief
  | .saved | .unexpectedStop | .recoveryAvailable | .updateAvailable | .framesDropped
  | .hotkeyConflict | .settingsSaveFailed | .captureActionFailed | .presetTransferFailed
  | .recoveryProtectionUnavailable | .settingsLoadFailed | .elevationRequired => kDwellAction

def IsStanding (type : NotificationType) : Bool := DismissIntervalMs type == 0

structure NotificationEvent where
  type : NotificationType
  sequence : Nat
  deriving DecidableEq

/-- An event and the reading at which it was shown. -/
abbrev Card := NotificationEvent × Int

def expiry (c : Card) : Int := c.2 + DismissIntervalMs c.1.type

structure DismissTimer where
  interval : Int
  startedAt : Int
  deriving DecidableEq

structure NotificationManager where
  visible : List NotificationEvent := []
  nextSequence : Nat := 1
  visibleShownAt : List Int := []
  timer : Option DismissTimer := none
  toastsEnabled : Bool := true
  recorded : List Card := []
  deriving DecidableEq

/-- `static_cast<int>` of a `qint64`. -/
def toInt32 (delay : Int) : Int := delay.bmod (2 ^ 32)

namespace NotificationManager

/-! ## The timer -/

/-- The loop of `rescheduleTimer`. -/
def earliestExpiry (earliest : Int) : List NotificationEvent → List Int → Int
  | e :: visible, shownAt :: rest =>
      let duration := DismissIntervalMs e.type
      if duration ≤ 0 then earliestExpiry earliest visible rest -- standing
      else if earliest < 0 ∨ shownAt + duration < earliest then
        earliestExpiry (shownAt + duration) visible rest
      else earliestExpiry earliest visible rest
  | _, _ => earliest

/-- `negative` is the interval that the toolkit starts a timer with, if any, when it is given a
    negative one. -/
def start (negative : Int → Option Int) (interval now : Int) : Option DismissTimer :=
  if interval < 0 then (negative interval).map fun i => ⟨i, now⟩ else some ⟨interval, now⟩

def rescheduleTimer (negative : Int → Option Int) (now : Int) (s : NotificationManager) :
    NotificationManager :=
  let earliest := earliestExpiry (-1) s.visible s.visibleShownAt
  { s with
    timer :=
      if 0 ≤ earliest then start negative (toInt32 (max 0 (earliest - now))) now else none }

/-! ## The visible set -/

def lastIsTimed (s : NotificationManager) : Bool :=
  s.visible.getLast?.any fun e => !IsStanding e.type

/-- What `Enqueue` does to the visible set. -/
def promote (s : NotificationManager) (e : NotificationEvent) (shownAt : Int) :
    NotificationManager :=
  if IsStanding e.type then
    let insertAt := if s.lastIsTimed then s.visible.length - 1 else s.visible.length
    { s with
      visible := s.visible.insertIdx insertAt e
      visibleShownAt := s.visibleShownAt.insertIdx insertAt shownAt }
  else if s.lastIsTimed then
    { s with
      visible := s.visible.dropLast ++ [e]
      visibleShownAt := s.visibleShownAt.dropLast ++ [shownAt] }
  else
    { s with visible := s.visible ++ [e], visibleShownAt := s.visibleShownAt ++ [shownAt] }

/-- The event takes the next sequence number, a `uint64_t`, and is announced. -/
def record (s : NotificationManager) (type : NotificationType) (now : Int) :
    NotificationEvent × NotificationManager :=
  let e : NotificationEvent := ⟨type, s.nextSequence⟩
  (e, { s with
    nextSequence := (s.nextSequence + 1) % 2 ^ 64, recorded := s.recorded ++ [(e, now)] })

def Enqueue (negative : Int → Option Int) (s : NotificationManager) (type : NotificationType)
    (shownAt now : Int) : NotificationManager :=
  let (e, s) := s.record type shownAt
  if type = .presetSwitched then s
  else if !s.toastsEnabled then s
  else (s.promote e shownAt).rescheduleTimer negative now

def removeAt (s : NotificationManager) (i : Nat) : NotificationManager :=
  { s with visible := s.visible.eraseIdx i, visibleShownAt := s.visibleShownAt.eraseIdx i }

def Dismiss (negative : Int → Option Int) (s : NotificationManager) (sequence : Nat) (now : Int) :
    NotificationManager :=
  match s.visible.findIdx? (·.sequence == sequence) with
  | some i => (s.removeAt i).rescheduleTimer negative now
  | none => s

def SetToastsEnabled (negative : Int → Option Int) (s : NotificationManager) (enabled : Bool)
    (now : Int) : NotificationManager :=
  let s := { s with toastsEnabled := enabled }
  if !enabled && !s.visible.isEmpty then
    ({ s with visible := [], visibleShownAt := [] } : NotificationManager).rescheduleTimer
      negative now
  else s

/-- The event at `i` is timed and past its expiry. -/
def isExpired (now : Int) (s : NotificationManager) (i : Nat) : Bool :=
  match s.visible[i]?, s.visibleShownAt[i]? with
  | some e, some shownAt =>
      decide (0 < DismissIntervalMs e.type) && decide (shownAt + DismissIntervalMs e.type ≤ now)
  | _, _ => false

/-- The loop of `onTimerFired`, over the indices below `i`. -/
def dropExpired (now : Int) : Nat → NotificationManager → NotificationManager
  | 0, s => s
  | i + 1, s => dropExpired now i (if s.isExpired now i then s.removeAt i else s)

/-- The single-shot timer has stopped when its handler runs. -/
def onTimerFired (negative : Int → Option Int) (s : NotificationManager) (fired now : Int) :
    NotificationManager :=
  (dropExpired fired s.visible.length { s with timer := none }).rescheduleTimer negative now

end NotificationManager

/-- A call, with the readings that it takes of the clock. -/
inductive ToastAction where
  | enqueue (type : NotificationType) (shownAt now : Int)
  | dismiss (sequence : Nat) (now : Int)
  | setToastsEnabled (enabled : Bool) (now : Int)
  | timerFired (fired now : Int)

namespace NotificationManager

def step (negative : Int → Option Int) (s : NotificationManager) :
    ToastAction → Option NotificationManager
  | .enqueue type shownAt now => some (s.Enqueue negative type shownAt now)
  | .dismiss sequence now => some (s.Dismiss negative sequence now)
  | .setToastsEnabled enabled now => some (s.SetToastsEnabled negative enabled now)
  | .timerFired fired now =>
      if s.timer.isSome then some (s.onTimerFired negative fired now) else none

end NotificationManager

end Exosnap.Notifications

/-
  The global shortcuts (`GlobalHotkeyService.cpp`): the binding of each action, and what is
  registered of it with the registrar of the time.

  Qt's texts of key sequences are parameters. What a registrar answers comes with the call; what it
  holds is kept by the model, which the service does not read. To register twice under one id keeps
  both, and to unregister frees all that is held under the id, as with `RegisterHotKey`.
-/
import Mathlib.Data.Fintype.Basic
import Mathlib.Logic.Function.Basic
import Exosnap.Lib.StepRun

namespace Exosnap.Hotkeys

/-! ## Keys -/

/-- `Qt::KeyboardModifiers` -/
structure Modifiers where
  shift : Bool := false
  control : Bool := false
  alt : Bool := false
  «meta» : Bool := false
  keypad : Bool := false
  groupSwitch : Bool := false
  deriving DecidableEq, Repr

/-- `QKeyCombination`, the key by Qt's number of it. -/
structure Chord where
  modifiers : Modifiers
  key : Nat
  deriving DecidableEq, Repr

/-- `QKeySequence`: the chords up to the last one that is there. -/
abbrev KeySequence := List Chord

namespace Key

def escape : Nat := 0x01000000
def tab : Nat := 0x01000001
def backspace : Nat := 0x01000003
def «return» : Nat := 0x01000004
def insert : Nat := 0x01000006
def delete : Nat := 0x01000007
def pause : Nat := 0x01000008
def print : Nat := 0x01000009
def home : Nat := 0x01000010
def «end» : Nat := 0x01000011
def left : Nat := 0x01000012
def up : Nat := 0x01000013
def right : Nat := 0x01000014
def down : Nat := 0x01000015
def pageUp : Nat := 0x01000016
def pageDown : Nat := 0x01000017
def shift : Nat := 0x01000020
def control : Nat := 0x01000021
def «meta» : Nat := 0x01000022
def alt : Nat := 0x01000023
def capsLock : Nat := 0x01000024
def numLock : Nat := 0x01000025
def scrollLock : Nat := 0x01000026
def f1 : Nat := 0x01000030
def f4 : Nat := 0x01000033
def f24 : Nat := 0x01000047
def superL : Nat := 0x01000053
def superR : Nat := 0x01000054
def altGr : Nat := 0x01001103
def space : Nat := 0x20
def zero : Nat := 0x30
def nine : Nat := 0x39
def a : Nat := 0x41
def z : Nat := 0x5A

end Key

def modNorepeat : Nat := 0x4000

def qtModifiersToWin32 (mods : Modifiers) : Nat :=
  modNorepeat ||| (if mods.alt then 1 else 0) ||| (if mods.control then 2 else 0) |||
    (if mods.shift then 4 else 0) ||| (if mods.meta then 8 else 0)

/-- The keys that stand alone, and their virtual-key codes. -/
def vkTable : List (Nat × Nat) :=
  [(Key.space, 0x20), (Key.tab, 0x09), (Key.return, 0x0D), (Key.escape, 0x1B),
    (Key.backspace, 0x08), (Key.delete, 0x2E), (Key.insert, 0x2D), (Key.home, 0x24),
    (Key.end, 0x23), (Key.pageUp, 0x21), (Key.pageDown, 0x22), (Key.left, 0x25),
    (Key.right, 0x27), (Key.up, 0x26), (Key.down, 0x28), (Key.print, 0x2A), (Key.pause, 0x13),
    (Key.capsLock, 0x14), (Key.numLock, 0x90), (Key.scrollLock, 0x91)]

/-- No code: 0. -/
def qtKeyToVk (key : Nat) : Nat :=
  if Key.f1 ≤ key ∧ key ≤ Key.f24 then 0x70 + (key - Key.f1)
  else if Key.a ≤ key ∧ key ≤ Key.z then 0x41 + (key - Key.a)
  else if Key.zero ≤ key ∧ key ≤ Key.nine then 0x30 + (key - Key.zero)
  else (vkTable.lookup key).getD 0

def isModifierKey (key : Nat) : Bool :=
  [Key.control, Key.alt, Key.shift, Key.meta, Key.altGr, Key.superL, Key.superR].contains key

def isBlockedCombo (mods : Modifiers) (key : Nat) : Bool :=
  (mods == { alt := true } && key == Key.f4) ||
    (mods == { control := true, alt := true } && key == Key.delete)

/-! ## Actions -/

inductive HotkeyAction where
  | toggleRecording
  | togglePause
  | captureFrame
  | addMarker
  | splitRecording
  deriving DecidableEq, Repr

inductive RebindError where
  | none
  | modifierOnly
  | blockedCombo
  | internalConflict
  | externalConflict
  | unsupportedKey
  deriving DecidableEq, Repr

structure RebindResult where
  success : Bool := false
  error : RebindError := .none
  conflictAction : HotkeyAction := .toggleRecording
  errorMessage : String := ""
  deriving DecidableEq, Repr

namespace HotkeyAction

/-- In the order of the enumeration. -/
def all : List HotkeyAction :=
  [toggleRecording, togglePause, captureFrame, addMarker, splitRecording]

def displayName : HotkeyAction → String
  | toggleRecording => "Start / Stop recording"
  | togglePause => "Pause / Resume"
  | captureFrame => "Capture frame"
  | addMarker => "Add marker"
  | splitRecording => "Split recording"

@[simp] theorem mem_all (action : HotkeyAction) : action ∈ all := by
  cases action <;> decide

instance : Fintype HotkeyAction where
  elems := all.toFinset
  complete action := List.mem_toFinset.mpr (mem_all action)

end HotkeyAction

def altShift (key : Nat) : KeySequence := [{ modifiers := { alt := true, shift := true }, key }]

/-- Alt+Shift and R, P, S, M, C. -/
def defaultBinding : HotkeyAction → KeySequence
  | .toggleRecording => altShift 0x52
  | .togglePause => altShift 0x50
  | .captureFrame => altShift 0x53
  | .addMarker => altShift 0x4D
  | .splitRecording => altShift 0x43

def validateSequence : KeySequence → RebindError
  | [] => .none
  | chord :: _ =>
      if isModifierKey chord.key then .modifierOnly
      else if isBlockedCombo chord.modifiers chord.key then .blockedCombo
      else if qtKeyToVk chord.key = 0 then .unsupportedKey
      else .none

/-! ## Registrations -/

/-- What `RegisterHotKey` gets of a chord. -/
structure Combination where
  modifiers : Nat
  vk : Nat
  deriving DecidableEq, Repr

def Chord.combination (chord : Chord) : Combination where
  modifiers := qtModifiersToWin32 chord.modifiers
  vk := qtKeyToVk chord.key

/-- The combination of a binding is that of its first chord. -/
def combination (seq : KeySequence) : Option Combination := seq.head?.map Chord.combination

/-- What is asked of a registrar for a binding, if anything is. -/
def registrable : KeySequence → Option Combination
  | [] => none
  | chord :: _ => if qtKeyToVk chord.key = 0 then none else some chord.combination

/-- What a registrar holds under the id of an action. -/
structure Registration where
  registrar : Nat
  action : HotkeyAction
  combination : Combination
  deriving DecidableEq, Repr

abbrev Registrations := List Registration

namespace Registrations

def register (held : Registrations) (registrar : Nat) (action : HotkeyAction) (c : Combination)
    (accepts : Bool) : Registrations :=
  if accepts then ⟨registrar, action, c⟩ :: held else held

def unregister (held : Registrations) (registrar : Nat) (action : HotkeyAction) : Registrations :=
  held.filter fun h => !(h.registrar == registrar && h.action == action)

end Registrations

/-! ## The service -/

/-- The service, with what the registrars hold and the changes it has emitted. -/
structure HotkeySystem where
  registrar : Option Nat := none
  bindings : HotkeyAction → KeySequence := defaultBinding
  held : Registrations := []
  emitted : List (HotkeyAction × KeySequence) := []

/-- The constructor's. -/
def HotkeySystem.initial : HotkeySystem := {}

/-- What Qt does with texts. -/
structure KeyTexts where
  fromString : String → KeySequence
  nativeText : KeySequence → String
  isSpace : Char → Bool

def buildConflictMessage (texts : KeyTexts) (conflicting : HotkeyAction) (seq : KeySequence) :
    String :=
  texts.nativeText seq ++ " is already assigned to " ++ conflicting.displayName ++ "."

/-- The old binding is registered again, if there is one. -/
def restoreOld (held : Registrations) (registrar : Nat) (action : HotkeyAction)
    (oldSeq : KeySequence) (accepts : Bool) : Registrations :=
  match registrable oldSeq with
  | none => held
  | some c => held.register registrar action c accepts

def succeeded (action : HotkeyAction) : RebindResult :=
  { success := true, conflictAction := action }

/-- `acceptsNew` and `acceptsOld` answer the registration of the new binding and, after it failed,
    that of the old one. -/
def attemptRegistration (registrar : Option Nat) (held : Registrations) (action : HotkeyAction)
    (newSeq oldSeq : KeySequence) (acceptsNew acceptsOld : Bool) : RebindResult × Registrations :=
  match registrar with
  | none => (succeeded action, held)
  | some registrar =>
      let freed := held.unregister registrar action
      match newSeq with
      | [] => (succeeded action, freed)
      | chord :: _ =>
          if qtKeyToVk chord.key = 0 then
            ({ error := .unsupportedKey, conflictAction := action
               errorMessage := "This key is not supported for global shortcuts." },
              restoreOld freed registrar action oldSeq acceptsOld)
          else if acceptsNew then
            (succeeded action, freed.register registrar action chord.combination true)
          else
            ({ error := .externalConflict, conflictAction := action
               errorMessage :=
                "This shortcut is already used by Windows or another application." },
              restoreOld freed registrar action oldSeq acceptsOld)

def validationMessage : RebindError → String
  | .modifierOnly => "Press a key combination with at least one non-modifier key."
  | .blockedCombo => "This key combination is reserved and cannot be used."
  | .unsupportedKey => "This key is not supported for global shortcuts."
  | _ => ""

namespace HotkeySystem

def commitBinding (s : HotkeySystem) (action : HotkeyAction) (seq : KeySequence) : HotkeySystem :=
  { s with
    bindings := Function.update s.bindings action seq
    emitted := s.emitted ++ [(action, seq)] }

/-- The first other action whose binding is the whole sequence. -/
def findConflict (s : HotkeySystem) (action : HotkeyAction) (seq : KeySequence) :
    Option HotkeyAction :=
  HotkeyAction.all.find? fun other => other != action && !seq.isEmpty && s.bindings other == seq

def trySetBinding (texts : KeyTexts) (s : HotkeySystem) (action : HotkeyAction) (seq : KeySequence)
    (acceptsNew acceptsOld : Bool) : RebindResult × HotkeySystem :=
  if validateSequence seq ≠ .none then
    ({ error := validateSequence seq, conflictAction := action
       errorMessage := validationMessage (validateSequence seq) }, s)
  else
    match s.findConflict action seq with
    | some conflicting =>
        ({ error := .internalConflict, conflictAction := conflicting
           errorMessage := buildConflictMessage texts conflicting seq }, s)
    | none =>
        if s.bindings action = seq then (succeeded action, s)
        else
          let (result, held) :=
            attemptRegistration s.registrar s.held action seq (s.bindings action) acceptsNew
              acceptsOld
          if result.success then (succeeded action, { s with held }.commitBinding action seq)
          else (result, { s with held })

def unsetBinding (s : HotkeySystem) (action : HotkeyAction) : HotkeySystem :=
  if (s.bindings action).isEmpty then s
  else
    match s.registrar with
    | none => s.commitBinding action []
    | some registrar =>
        { s with held := s.held.unregister registrar action }.commitBinding action []

def resetToDefault (texts : KeyTexts) (s : HotkeySystem) (action : HotkeyAction)
    (acceptsNew acceptsOld : Bool) : RebindResult × HotkeySystem :=
  s.trySetBinding texts action (defaultBinding action) acceptsNew acceptsOld

/-- `accepts` answers the two registrations of each action in turn. -/
def resetAllToDefaults (texts : KeyTexts) (s : HotkeySystem)
    (accepts : HotkeyAction → Bool × Bool) : HotkeySystem :=
  HotkeyAction.all.foldl
    (fun s action => (s.resetToDefault texts action (accepts action).1 (accepts action).2).2) s

/-- Registers the bindings there are, and returns the actions that were refused. -/
def setRegistrar (s : HotkeySystem) (registrar : Option Nat) (accepts : HotkeyAction → Bool) :
    List HotkeyAction × HotkeySystem :=
  match registrar with
  | none => ([], { s with registrar := none })
  | some registrar =>
      let asked := HotkeyAction.all.filterMap fun action =>
        (registrable (s.bindings action)).map fun c => (action, c)
      ((asked.filter fun ask => !accepts ask.1).map Prod.fst,
        { s with
          registrar := some registrar
          held := asked.foldl
            (fun held ask => held.register registrar ask.1 ask.2 (accepts ask.1)) s.held })

end HotkeySystem

def unsetSentinel : String := "<unset>"

/-- The binding that a stored string stands for. -/
def loadedBinding (texts : KeyTexts) (action : HotkeyAction) (stored : String) : KeySequence :=
  if stored = unsetSentinel then []
  else if stored.toList.all texts.isSpace then defaultBinding action
  else
    let seq := texts.fromString stored
    if !seq.isEmpty && validateSequence seq == .none then seq else defaultBinding action

def HotkeySystem.loadFromStrings (texts : KeyTexts) (s : HotkeySystem)
    (stored : HotkeyAction → String) : HotkeySystem :=
  { s with bindings := fun action => loadedBinding texts action (stored action) }

/-! ## Calls -/

inductive HotkeyCall where
  | loadFromStrings (stored : HotkeyAction → String)
  | setRegistrar (registrar : Option Nat) (accepts : HotkeyAction → Bool)
  | trySetBinding (action : HotkeyAction) (seq : KeySequence) (acceptsNew acceptsOld : Bool)
  | unsetBinding (action : HotkeyAction)
  | resetToDefault (action : HotkeyAction) (acceptsNew acceptsOld : Bool)

def HotkeySystem.call (texts : KeyTexts) (s : HotkeySystem) : HotkeyCall → HotkeySystem
  | .loadFromStrings stored => s.loadFromStrings texts stored
  | .setRegistrar registrar accepts => (s.setRegistrar registrar accepts).2
  | .trySetBinding action seq acceptsNew acceptsOld =>
      (s.trySetBinding texts action seq acceptsNew acceptsOld).2
  | .unsetBinding action => s.unsetBinding action
  | .resetToDefault action acceptsNew acceptsOld =>
      (s.resetToDefault texts action acceptsNew acceptsOld).2

end Exosnap.Hotkeys

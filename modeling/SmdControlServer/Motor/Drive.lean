import SmdControlServer.Commands.Registers
import SmdControlServer.Device.Triggered
import SmdControlServer.Motor.Commands

/-!
# The drive behind the registers

What the register map of the commands comes to on the other side of the connection.  A drive
is a device that holds a word of 16 bits in each register.  The programs rely on what
`Drive.KeepsRegisterMap` says of it: a write to register 1024 triggers it, the word written
there says what is to be done, and the parameters are read out of the other registers as they
are at that moment, whoever has written them.  Nothing more is known of the drive.

* `MotorCommand.performs` — from any registers, the program of a command makes a drive that
  keeps the register map do what the command says, with the parameters of the command, and
  nothing else.
* `plainDrive` — the least that such a drive can be.
-/

namespace SmdControlServer

open CString Interaction

/-! ## Registers -/

abbrev Registers := Int → BitVec 16

/-- What `modbus_write_register` sends of an `int`. -/
def registerWord (value : Int) : BitVec 16 :=
  BitVec.ofInt 16 value

def deviceWrite (write : Int × Int) : Int × BitVec 16 :=
  (write.1, registerWord write.2)

namespace Registers

/-- A register as a signed number. -/
def number (regs : Registers) (r : Int) : Int :=
  (regs r).toInt

/-- A register as an unsigned number. -/
def unsigned (regs : Registers) (r : Int) : Int :=
  (regs r).toNat

/-- Two registers, the upper of which counts thousands. -/
def thousands (regs : Registers) (upper lower : Int) : Int :=
  1000 * regs.number upper + regs.number lower

/-- The highest bit of register 1025. -/
def enabled (regs : Registers) : Bool :=
  (regs 1025).msb

end Registers

/-! ## What the drive does -/

/-- What is done when register 1024 gets its word. -/
inductive Trigger where
  | relativeMove
  | holdMove
  | immediateStop
  | findHomeCW
  | findHomeCCW
  | jogCW
  | jogCCW
  | presetMotor
  | resetErrors
  | programBlock
  | moveSegment
  | runAssembledMove
  | presetEncoder
  deriving DecidableEq, Repr

namespace Trigger

/-- The word that triggers it. -/
def word : Trigger → Int
  | relativeMove => 2
  | holdMove => 4
  | immediateStop => 16
  | findHomeCW => 32
  | findHomeCCW => 64
  | jogCW => 128
  | jogCCW => 256
  | presetMotor => 512
  | resetErrors => 1024
  | programBlock => 2048
  | moveSegment => 6144
  | runAssembledMove => 8192
  | presetEncoder => 16384

def all : List Trigger :=
  [relativeMove, holdMove, immediateStop, findHomeCW, findHomeCCW, jogCW, jogCCW, presetMotor,
    resetErrors, programBlock, moveSegment, runAssembledMove, presetEncoder]

/-- The trigger of a word, if it is that of one. -/
def ofWord (w : BitVec 16) : Option Trigger :=
  all.find? fun trigger => registerWord trigger.word = w

end Trigger

/-- What the drive does, with the parameters that it has read. -/
inductive DriveAction where
  | relativeMove (relPos accel decel jerk speed : Int)
  | holdMove
  | immediateStop
  | findHome (direction speed accel decel jerk : Int)
  | jog (direction accel decel jerk speed : Int)
  | presetMotor (pos : Int)
  | resetErrors
  | programBlock
  | moveSegment (targetPos programmedSpeed accel decel jerk : Int)
  | runAssembledMove (lsw dwellTime : Int)
  | presetEncoder (pos : Int)
  deriving DecidableEq, Repr

/-- The parameters stand in the registers where the programs put them. -/
def Trigger.action (regs : Registers) : Trigger → DriveAction
  | relativeMove => .relativeMove (regs.thousands 1026 1027) (regs.number 1030)
      (regs.number 1031) (regs.number 1033) (regs.thousands 1028 1029)
  | holdMove => .holdMove
  | immediateStop => .immediateStop
  | findHomeCW => .findHome 0 (regs.thousands 1028 1029) (regs.number 1030) (regs.number 1031)
      (regs.number 1033)
  | findHomeCCW => .findHome 1 (regs.thousands 1028 1029) (regs.number 1030)
      (regs.number 1031) (regs.number 1033)
  | jogCW => .jog 0 (regs.number 1030) (regs.number 1031) (regs.number 1033)
      (regs.thousands 1028 1029)
  | jogCCW => .jog 1 (regs.number 1030) (regs.number 1031) (regs.number 1033)
      (regs.thousands 1028 1029)
  | presetMotor => .presetMotor (regs.thousands 1026 1027)
  | resetErrors => .resetErrors
  | programBlock => .programBlock
  | moveSegment => .moveSegment (regs.thousands 1026 1027) (regs.thousands 1028 1029)
      (regs.number 1030) (regs.number 1031) (regs.number 1033)
  | runAssembledMove => .runAssembledMove (regs.unsigned 1025) (regs.unsigned 1033)
  | presetEncoder => .presetEncoder (regs.thousands 1026 1027)

def DriveAction.trigger : DriveAction → Trigger
  | relativeMove _ _ _ _ _ => .relativeMove
  | holdMove => .holdMove
  | immediateStop => .immediateStop
  | findHome direction _ _ _ _ => if direction = 0 then .findHomeCW else .findHomeCCW
  | jog direction _ _ _ _ => if direction = 0 then .jogCW else .jogCCW
  | presetMotor _ => .presetMotor
  | resetErrors => .resetErrors
  | programBlock => .programBlock
  | moveSegment _ _ _ _ _ => .moveSegment
  | runAssembledMove _ _ => .runAssembledMove
  | presetEncoder _ => .presetEncoder

@[simp] theorem Trigger.trigger_action (regs : Registers) (trigger : Trigger) :
    (trigger.action regs).trigger = trigger := by
  cases trigger <;> rfl

/-! ## What is relied on -/

/-- What is behind the registers.  It takes up actions. -/
abbrev Drive := Device Int (BitVec 16) DriveAction

/-- The trigger that a word written to a register is. -/
def wordTrigger (write : Int × BitVec 16) : Option Trigger :=
  if write.1 = 1024 then Trigger.ofWord write.2 else none

/-- It does something only when register 1024 gets the word for that. -/
def Drive.Triggered (d : Drive) : Prop :=
  ∀ r regs action, d.react r regs = some action → wordTrigger (r, regs r) = some action.trigger

/-- What the programs of the commands rely on. -/
structure Drive.KeepsRegisterMap (d : Drive) : Prop where
  triggered : d.Triggered
  /-- while it is enabled, it does what a word in register 1024 is for, with the parameters
  that stand in the registers for them -/
  acts : ∀ (trigger : Trigger) (regs : Registers), regs 1024 = registerWord trigger.word →
    regs.enabled = true → d.react 1024 regs = some (trigger.action regs)
  /-- its errors can be reset also while it is not enabled -/
  resets : ∀ regs : Registers, regs 1024 = registerWord Trigger.resetErrors.word →
    d.react 1024 regs = some .resetErrors

/-- A drive that does nothing but reset its errors unless it is enabled. -/
def plainDrive : Drive where
  react r regs :=
    if r = 1024 then
      (Trigger.ofWord (regs 1024)).bind fun trigger =>
        if trigger = .resetErrors ∨ Registers.enabled regs = true then
          some (trigger.action regs)
        else
          none
    else
      none

theorem triggered_plainDrive : plainDrive.Triggered := by
  intro r regs action h
  change (if r = 1024 then Option.bind (Trigger.ofWord (regs 1024)) _ else none) = _ at h
  by_cases hr : r = 1024
  · subst hr
    rw [if_pos rfl] at h
    obtain ⟨trigger, htrigger, hdone⟩ := Option.bind_eq_some_iff.mp h
    show (if (1024 : Int) = 1024 then Trigger.ofWord (regs 1024) else none) = _
    rw [if_pos rfl, htrigger]
    split at hdone
    · cases hdone
      rw [Trigger.trigger_action]
    · cases hdone
  · rw [if_neg hr] at h
    cases h

theorem toInt_registerWord {value : Int} (hlo : -32768 ≤ value) (hhi : value ≤ 32767) :
    (registerWord value).toInt = value := by
  unfold registerWord
  rw [BitVec.toInt_ofInt]
  exact Int.bmod_eq_of_le (by omega) (by omega)

theorem toNat_registerWord {value : Int} (hlo : 0 ≤ value) (hhi : value ≤ 65535) :
    ((registerWord value).toNat : Int) = value := by
  unfold registerWord
  rw [BitVec.toNat_ofInt]
  omega

/-- The registers have the values that the program leaves in them. -/
def Registers.Hold (regs : Registers) (cmd : RegisterProgram) : Prop :=
  ∀ r value, cmd.finalValue r = some value → regs r = registerWord value

/-- Whatever the registers have held before. -/
theorem hold_after (regs : Registers) (cmd : RegisterProgram) :
    Registers.Hold (Device.after regs (cmd.writes.map deviceWrite)) cmd := by
  intro r value hvalue
  unfold RegisterProgram.finalValue at hvalue
  obtain ⟨write, hfind, rfl⟩ := Option.map_eq_some_iff.mp hvalue
  have hsame : (fun write : Int × BitVec 16 => decide (write.1 = r)) ∘ deviceWrite =
      fun write => decide (write.1 = r) := rfl
  rw [Device.after_apply, ← List.map_reverse, List.find?_map, hsame, hfind]
  rfl

/-- A value of an `int16_t`. -/
def IsInt16 (value : Int) : Prop :=
  -32768 ≤ value ∧ value ≤ 32767

theorem isInt16_toInt16 (n : Int) : IsInt16 (toInt16 n) := by
  unfold IsInt16 toInt16
  omega

theorem isInt16_of_eq {value : Int} (h : toInt16 value = value) : IsInt16 value := by
  rw [← h]
  exact isInt16_toInt16 value

namespace Registers.Hold

variable {regs : Registers} {cmd : RegisterProgram}

theorem number (h : regs.Hold cmd) {r value : Int} (hvalue : cmd.finalValue r = some value)
    (hrange : IsInt16 value) : regs.number r = value := by
  unfold Registers.number
  rw [h r value hvalue, toInt_registerWord hrange.1 hrange.2]

theorem unsigned (h : regs.Hold cmd) {r value : Int} (hvalue : cmd.finalValue r = some value)
    (hlo : 0 ≤ value) (hhi : value ≤ 65535) : regs.unsigned r = value := by
  unfold Registers.unsigned
  rw [h r value hvalue, toNat_registerWord hlo hhi]

theorem thousands (h : regs.Hold cmd) {upper lower upperWord lowerWord : Int}
    (hupper : cmd.finalValue upper = some upperWord)
    (hlower : cmd.finalValue lower = some lowerWord) (hupperRange : IsInt16 upperWord)
    (hlowerRange : IsInt16 lowerWord) :
    regs.thousands upper lower = 1000 * upperWord + lowerWord := by
  unfold Registers.thousands
  rw [h.number hupper hupperRange, h.number hlower hlowerRange]

/-- The words that `convert_int_to_words` makes of a number. -/
theorem words (h : regs.Hold cmd) {upper lower n : Int}
    (hupper : cmd.finalValue upper = some (convertIntToWords n).upperWord)
    (hlower : cmd.finalValue lower = some (convertIntToWords n).lowerWord) :
    regs.thousands upper lower =
      1000 * (convertIntToWords n).upperWord + (convertIntToWords n).lowerWord :=
  h.thousands hupper hlower (isInt16_toInt16 _) (isInt16_toInt16 _)

theorem words_eq (h : regs.Hold cmd) {upper lower n : Int}
    (hupper : cmd.finalValue upper = some (convertIntToWords n).upperWord)
    (hlower : cmd.finalValue lower = some (convertIntToWords n).lowerWord)
    (hlo : -8388607 ≤ n) (hhi : n ≤ 8388607) : regs.thousands upper lower = n := by
  rw [h.words hupper hlower]
  exact convertIntToWords_value (by omega) (by omega)

/-- The words that `SMD_jog` makes of a speed. -/
theorem speed (h : regs.Hold cmd) {upper lower speed : Int}
    (hupper : cmd.finalValue upper = some (inlineSpeedWords speed).2)
    (hlower : cmd.finalValue lower = some (inlineSpeedWords speed).1) (hlo : 0 ≤ speed)
    (hhi : speed ≤ 2999999) : regs.thousands upper lower = speed := by
  have hwords := inlineSpeedWords_eq hlo (show speed ≤ 32767999 by omega)
  obtain ⟨_, hsigns⟩ := tdiv_thousand_cases speed
  rw [hwords] at hupper hlower
  have hrange : IsInt16 (speed.tdiv 1000) ∧ IsInt16 (speed.tmod 1000) := by
    unfold IsInt16
    omega
  rw [h.thousands hupper hlower hrange.1 hrange.2]
  exact Int.mul_tdiv_add_tmod speed 1000

end Registers.Hold

/-! ## What the drive makes of a program -/

section

variable {d : Drive}

/-- A write triggers nothing if it is not to register 1024 or if its word is no trigger. -/
theorem Drive.Triggered.silent (hd : d.Triggered) {write : Int × Int}
    (h : write.1 = 1024 → Trigger.ofWord (registerWord write.2) = none) :
    d.Silent (deviceWrite write) := by
  obtain ⟨r, value⟩ := write
  intro regs
  by_contra hreact
  obtain ⟨action, haction⟩ := Option.ne_none_iff_exists'.mp hreact
  have htrigger := hd _ _ _ haction
  change (if r = 1024 then Trigger.ofWord (Function.update regs r (registerWord value) r)
    else none) = some action.trigger at htrigger
  by_cases hr : r = 1024
  · rw [if_pos hr, Function.update_self, h hr] at htrigger
    cases htrigger
  · rw [if_neg hr] at htrigger
    cases htrigger

/-- A program that enables the drive and triggers it with its last write. -/
structure RegisterProgram.Triggers (cmd : RegisterProgram) (trigger : Trigger) : Prop where
  writes : ∃ before, cmd.writes = before ++ [(1024, trigger.word)] ∧
    ∀ write ∈ before, write.1 = 1024 → write.2 = 0
  enables : ∃ value, cmd.finalValue 1025 = some value ∧ (registerWord value).msb = true

/-- The drive does what it reads out of the registers that the program has written. -/
theorem RegisterProgram.Triggers.performs (hd : d.KeepsRegisterMap) {cmd : RegisterProgram}
    {trigger : Trigger} {action : DriveAction} (h : cmd.Triggers trigger)
    (haction : ∀ regs : Registers, regs.Hold cmd → trigger.action regs = action) :
    d.Performs (cmd.writes.map deviceWrite) [action] := by
  obtain ⟨⟨before, hwrites, hzero⟩, value, hvalue, hmsb⟩ := h
  have hsilent : ∀ write ∈ before.map deviceWrite, d.Silent write := by
    intro write hmem
    obtain ⟨write, hwrite, rfl⟩ := List.mem_map.mp hmem
    refine hd.triggered.silent fun hr => ?_
    rw [hzero write hwrite hr]
    decide
  have hmap : cmd.writes.map deviceWrite =
      before.map deviceWrite ++ [deviceWrite (1024, trigger.word)] := by
    rw [hwrites, List.map_append, List.map_singleton]
  rw [hmap]
  refine Device.performs_concat hsilent fun regs => ?_
  have hhold := hold_after regs cmd
  rw [hmap] at hhold
  have hword : Device.after regs (before.map deviceWrite ++ [deviceWrite (1024, trigger.word)])
      1024 = registerWord trigger.word := Device.after_concat_self (deviceWrite (1024, _))
  have henabled : Registers.enabled (Device.after regs (before.map deviceWrite ++
      [deviceWrite (1024, trigger.word)])) = true := by
    unfold Registers.enabled
    rw [hhold 1025 value hvalue]
    exact hmsb
  have hreact := hd.acts trigger _ hword henabled
  rw [haction _ hhold] at hreact
  show (d.react 1024 _).toList = _
  exact congrArg Option.toList hreact

/-- Every write to register 1024 is one of zero. -/
theorem performs_silent (hd : d.Triggered) {cmd : RegisterProgram}
    (h : ∀ write ∈ cmd.writes, write.1 = 1024 →
      Trigger.ofWord (registerWord write.2) = none) :
    d.Performs (cmd.writes.map deviceWrite) [] := by
  refine Device.performs_of_silent fun write hmem => ?_
  obtain ⟨write, hwrite, rfl⟩ := List.mem_map.mp hmem
  exact hd.silent (h write hwrite)

end

/-! ## The commands -/

/-- A number as the drive gets it in two words. -/
def Words.number (words : Words) : Int :=
  1000 * words.upperWord + words.lowerWord

namespace MotorCommand

/-- What the drive is to do for a command. -/
def actions : MotorCommand → List DriveAction
  | jog direction accel decel jerk speed => [.jog direction accel decel jerk speed]
  | relativeMove relPos accel decel jerk speed => [.relativeMove relPos accel decel jerk speed]
  | findHome direction speed accel decel jerk => [.findHome direction speed accel decel jerk]
  | holdMove => [.holdMove]
  | immediateStop => [.immediateStop]
  | resetErrors => [.resetErrors]
  | presetEncoder pos => [.presetEncoder pos]
  | presetMotor pos => [.presetMotor pos]
  | programFirstBlock => [.programBlock]
  | moveSegment s => [.moveSegment (convertIntToWords s.targetPosInches).number
      (convertIntToWords s.programmedSpeed).number s.accel s.decel s.jerk]
  | prepareForNextSegment => [.programBlock]
  | runAssembledMove lsw dwellTime => [.runAssembledMove lsw dwellTime]
  | _ => []

/-- The control word of a configuration is not checked, so it could be a trigger. -/
def Quiet : MotorCommand → Prop
  | setConfiguration controlWord _ _ _ _ _ _ =>
      Trigger.ofWord (registerWord controlWord) = none
  | _ => True

section

variable {direction accel decel jerk speed relPos pos lsw dwellTime : Int}
  {s : AssembledMoveSegment} {d : Drive}

/-- What the checks of a move say of the words. -/
theorem isInt16_of_valid (h : moveParametersValid accel decel jerk speed = true) :
    IsInt16 accel ∧ IsInt16 decel ∧ IsInt16 jerk ∧ 0 ≤ speed ∧ speed ≤ 2999999 := by
  rw [moveParametersValid_iff] at h
  unfold IsInt16
  omega

theorem triggers_jog (trigger : Trigger)
    (htrigger : trigger.word = if direction = 0 then 128 else 256) :
    (jogProgram direction accel decel jerk speed).Triggers trigger := by
  refine ⟨⟨(jogProgram direction accel decel jerk speed).writes.dropLast, ?_, ?_⟩,
    32768, rfl, by decide⟩
  · rw [htrigger]
    rfl
  · show ∀ write ∈ [((1024 : Int), (0 : Int)), (1025, _), (1026, _), (1027, _), (1028, _),
      (1029, _), (1030, _), (1031, _), (1032, _), (1033, _)], write.1 = 1024 → write.2 = 0
    simp

theorem performs_jog (hd : d.KeepsRegisterMap)
    (h : (jog direction accel decel jerk speed).Checked) :
    d.Performs ((jogProgram direction accel decel jerk speed).writes.map deviceWrite)
      [.jog direction accel decel jerk speed] := by
  obtain ⟨hdirection, hvalid⟩ := h
  obtain ⟨haccel, hdecel, hjerk, hlo, hhi⟩ := isInt16_of_valid hvalid
  have haction : ∀ regs : Registers, regs.Hold (jogProgram direction accel decel jerk speed) →
      regs.number 1030 = accel ∧ regs.number 1031 = decel ∧ regs.number 1033 = jerk ∧
        regs.thousands 1028 1029 = speed := fun regs hhold =>
    ⟨hhold.number rfl haccel, hhold.number rfl hdecel, hhold.number rfl hjerk,
      hhold.speed rfl rfl hlo hhi⟩
  rcases hdirection with rfl | rfl
  · refine (triggers_jog .jogCW rfl).performs hd fun regs hhold => ?_
    obtain ⟨h₁, h₂, h₃, h₄⟩ := haction regs hhold
    simp only [Trigger.action, h₁, h₂, h₃, h₄]
  · refine (triggers_jog .jogCCW rfl).performs hd fun regs hhold => ?_
    obtain ⟨h₁, h₂, h₃, h₄⟩ := haction regs hhold
    simp only [Trigger.action, h₁, h₂, h₃, h₄]

theorem performs_relativeMove (hd : d.KeepsRegisterMap)
    (h : (relativeMove relPos accel decel jerk speed).Checked) :
    d.Performs ((relativeMoveProgram relPos accel decel jerk speed).writes.map deviceWrite)
      [.relativeMove relPos accel decel jerk speed] := by
  obtain ⟨hpos, hvalid⟩ := h
  obtain ⟨haccel, hdecel, hjerk, hlo, hhi⟩ := isInt16_of_valid hvalid
  obtain ⟨hposLo, hposHi⟩ := positionValid_iff.mp hpos
  have htriggers : (relativeMoveProgram relPos accel decel jerk speed).Triggers .relativeMove := by
    refine ⟨⟨(relativeMoveProgram relPos accel decel jerk speed).writes.dropLast, rfl, ?_⟩,
      32768, rfl, by decide⟩
    show ∀ write ∈ [((1024 : Int), (0 : Int)), (1025, _), (1026, _), (1027, _), (1028, _),
      (1029, _), (1030, _), (1031, _), (1033, _)], write.1 = 1024 → write.2 = 0
    simp
  refine htriggers.performs hd fun regs hhold => ?_
  have hrelPos : regs.thousands 1026 1027 = relPos := hhold.words_eq rfl rfl hposLo hposHi
  have hspeed : regs.thousands 1028 1029 = speed :=
    hhold.words_eq rfl rfl (by omega) (by omega)
  unfold Trigger.action
  rw [hrelPos, hspeed, hhold.number rfl haccel, hhold.number rfl hdecel,
    hhold.number rfl hjerk]

theorem triggers_findHome (trigger : Trigger)
    (htrigger : trigger.word = if direction = 0 then 32 else 64) :
    (findHomeProgram direction speed accel decel jerk).Triggers trigger := by
  refine ⟨⟨(findHomeProgram direction speed accel decel jerk).writes.dropLast, ?_, ?_⟩,
    32768, rfl, by decide⟩
  · rw [htrigger]
    rfl
  · show ∀ write ∈ [((1025 : Int), (32768 : Int)), (1028, _), (1029, _), (1030, _), (1031, _),
      (1033, _), (1032, _)], write.1 = 1024 → write.2 = 0
    simp

theorem performs_findHome (hd : d.KeepsRegisterMap)
    (h : (findHome direction speed accel decel jerk).Checked) :
    d.Performs ((findHomeProgram direction speed accel decel jerk).writes.map deviceWrite)
      [.findHome direction speed accel decel jerk] := by
  obtain ⟨hdirection, hvalid⟩ := h
  obtain ⟨haccel, hdecel, hjerk, hlo, hhi⟩ := isInt16_of_valid hvalid
  have haction : ∀ regs : Registers,
      regs.Hold (findHomeProgram direction speed accel decel jerk) →
        regs.number 1030 = accel ∧ regs.number 1031 = decel ∧ regs.number 1033 = jerk ∧
          regs.thousands 1028 1029 = speed := fun regs hhold =>
    ⟨hhold.number rfl haccel, hhold.number rfl hdecel, hhold.number rfl hjerk,
      hhold.words_eq rfl rfl (by omega) (by omega)⟩
  rcases hdirection with rfl | rfl
  · refine (triggers_findHome .findHomeCW rfl).performs hd fun regs hhold => ?_
    obtain ⟨h₁, h₂, h₃, h₄⟩ := haction regs hhold
    simp only [Trigger.action, h₁, h₂, h₃, h₄]
  · refine (triggers_findHome .findHomeCCW rfl).performs hd fun regs hhold => ?_
    obtain ⟨h₁, h₂, h₃, h₄⟩ := haction regs hhold
    simp only [Trigger.action, h₁, h₂, h₃, h₄]

theorem performs_preset (hd : d.KeepsRegisterMap) {commandName : Text}
    {named : commandName ≠ []} (trigger : Trigger) {action : Int → DriveAction}
    (h : positionValid pos = true)
    (haction : ∀ regs : Registers, trigger.action regs = action (regs.thousands 1026 1027)) :
    d.Performs ((presetProgram commandName named trigger.word pos).writes.map deviceWrite)
      [action pos] := by
  obtain ⟨hlo, hhi⟩ := positionValid_iff.mp h
  have htriggers : (presetProgram commandName named trigger.word pos).Triggers trigger := by
    refine ⟨⟨(presetProgram commandName named trigger.word pos).writes.dropLast, rfl, ?_⟩,
      32768, rfl, by decide⟩
    show ∀ write ∈ [((1025 : Int), (32768 : Int)), (1026, _), (1027, _)],
      write.1 = 1024 → write.2 = 0
    simp
  refine htriggers.performs hd fun regs hhold => ?_
  have hpos : regs.thousands 1026 1027 = pos := hhold.words_eq rfl rfl hlo hhi
  rw [haction, hpos]

theorem performs_moveSegment (hd : d.KeepsRegisterMap)
    (h : s.Narrowed) :
    d.Performs ((moveSegmentProgram s).writes.map deviceWrite) (moveSegment s).actions := by
  obtain ⟨haccel, hdecel, hjerk⟩ := h
  have htriggers : (moveSegmentProgram s).Triggers .moveSegment := by
    refine ⟨⟨(moveSegmentProgram s).writes.dropLast, rfl, ?_⟩, 32768, rfl, by decide⟩
    show ∀ write ∈ [((1025 : Int), (32768 : Int)), (1026, _), (1027, _), (1028, _), (1029, _),
      (1030, _), (1031, _), (1033, _)], write.1 = 1024 → write.2 = 0
    simp
  refine htriggers.performs hd fun regs hhold => ?_
  have hpos : regs.thousands 1026 1027 = (convertIntToWords s.targetPosInches).number :=
    hhold.words rfl rfl
  have hspeed : regs.thousands 1028 1029 = (convertIntToWords s.programmedSpeed).number :=
    hhold.words rfl rfl
  unfold Trigger.action
  rw [hpos, hspeed, hhold.number rfl (isInt16_of_eq haccel),
    hhold.number rfl (isInt16_of_eq hdecel), hhold.number rfl (isInt16_of_eq hjerk)]

theorem performs_runAssembledMove (hd : d.KeepsRegisterMap)
    (h : (runAssembledMove lsw dwellTime).Checked) :
    d.Performs ((runAssembledMoveProgram lsw dwellTime).writes.map deviceWrite)
      [.runAssembledMove lsw dwellTime] := by
  obtain ⟨hlsw, hlo, hhi⟩ := h
  have hword : (registerWord lsw).msb = true ∧ 0 ≤ lsw ∧ lsw ≤ 65535 := by
    have hall : ∀ n ∈ ([32768, 32784, 33280] : List Int),
        (registerWord n).msb = true ∧ 0 ≤ n ∧ n ≤ 65535 := by decide
    exact hall lsw hlsw
  have htriggers : (runAssembledMoveProgram lsw dwellTime).Triggers .runAssembledMove := by
    refine ⟨⟨(runAssembledMoveProgram lsw dwellTime).writes.dropLast, rfl, ?_⟩, lsw, rfl,
      hword.1⟩
    show ∀ write ∈ [((1025 : Int), lsw), (1033, dwellTime)], write.1 = 1024 → write.2 = 0
    simp
  refine htriggers.performs hd fun regs hhold => ?_
  unfold Trigger.action
  rw [hhold.unsigned rfl hword.2.1 hword.2.2, hhold.unsigned rfl hlo hhi]

/-- The commands without parameters, but for the one that resets errors. -/
theorem performs_fixed (hd : d.KeepsRegisterMap) {cmd : RegisterProgram} (trigger : Trigger)
    {action : DriveAction}
    (hwrites : cmd.writes = cmd.writes.dropLast ++ [(1024, trigger.word)])
    (hzero : ∀ write ∈ cmd.writes.dropLast, write.1 = 1024 → write.2 = 0)
    (henables : cmd.finalValue 1025 = some 32768)
    (haction : ∀ regs : Registers, trigger.action regs = action) :
    d.Performs (cmd.writes.map deviceWrite) [action] := by
  have htriggers : cmd.Triggers trigger :=
    ⟨⟨_, hwrites, hzero⟩, 32768, henables, by decide⟩
  exact htriggers.performs hd fun regs _ => haction regs

/-- The errors are reset before the drive is enabled. -/
theorem performs_resetErrors (hd : d.KeepsRegisterMap) :
    d.Performs (resetErrorsProgram.writes.map deviceWrite) [.resetErrors] := by
  have hfirst : d.Silent (deviceWrite (1024, 0)) := hd.triggered.silent fun _ => by decide
  have hlast : d.Performs [deviceWrite (1025, 32768)] [] :=
    Device.performs_of_silent fun write hmem => by
      rw [List.mem_singleton.mp hmem]
      exact hd.triggered.silent (by decide)
  have hreset : d.Performs ([deviceWrite (1024, 0)] ++ [deviceWrite (1024, 1024)])
      [.resetErrors] := by
    refine Device.performs_concat (fun write hmem => ?_) fun regs => ?_
    · rw [List.mem_singleton.mp hmem]
      exact hfirst
    · have hword : Device.after regs ([deviceWrite (1024, 0)] ++ [deviceWrite (1024, 1024)])
          1024 = registerWord Trigger.resetErrors.word :=
        Device.after_concat_self (deviceWrite (1024, 1024))
      exact congrArg Option.toList (hd.resets _ hword)
  exact hreset.append hlast

/-- From any registers, the program of a command makes the drive do what the command says
and nothing else. -/
theorem performs (hd : d.KeepsRegisterMap) {command : MotorCommand} (hchecked : command.Checked)
    (hquiet : command.Quiet) :
    d.Performs (command.program.writes.map deviceWrite) command.actions := by
  cases command with
  | jog direction accel decel jerk speed => exact performs_jog hd hchecked
  | relativeMove relPos accel decel jerk speed => exact performs_relativeMove hd hchecked
  | findHome direction speed accel decel jerk => exact performs_findHome hd hchecked
  | driveEnable => exact performs_silent hd.triggered (by decide)
  | driveDisable => exact performs_silent hd.triggered (by decide)
  | holdMove => exact performs_fixed hd .holdMove rfl (by decide) rfl fun _ => rfl
  | immediateStop =>
      exact performs_fixed hd .immediateStop rfl (by decide) rfl fun _ => rfl
  | resetErrors => exact performs_resetErrors hd
  | loadConfiguration => exact performs_silent hd.triggered (by decide)
  | presetEncoder pos => exact performs_preset hd .presetEncoder hchecked fun _ => rfl
  | presetMotor pos => exact performs_preset hd .presetMotor hchecked fun _ => rfl
  | setConfiguration controlWord configWord startingSpeed stepsPerTurn encPulsesPerTurn
      idleCurrentPercentage motorCurrent =>
      have hword : Trigger.ofWord (registerWord controlWord) = none := hquiet
      refine performs_silent hd.triggered ?_
      show ∀ write ∈ [((1025 : Int), configWord), (1024, controlWord), (1026, _), (1027, _),
        (1028, _), (1030, _), (1031, _), (1032, _)],
        write.1 = 1024 → Trigger.ofWord (registerWord write.2) = none
      simp [hword]
  | programFirstBlock =>
      exact performs_fixed hd .programBlock rfl (by decide) rfl fun _ => rfl
  | moveSegment s => exact performs_moveSegment hd hchecked
  | prepareForNextSegment =>
      exact performs_fixed hd .programBlock rfl (by decide) rfl fun _ => rfl
  | runAssembledMove lsw dwellTime => exact performs_runAssembledMove hd hchecked

end

end MotorCommand

end SmdControlServer

import SmdControlServer.Session.Dialogue

/-!
# What the commands do to the dialogue

All the commands of the ordinary mode but two leave the flags alone.  Most of these have
nothing to do with the client, and two write the registers to it.  An upload writes a line
for each segment that was accepted.
-/

namespace SmdControlServer

open CString Interaction

/-! ## The codes -/

section Codes

variable {codes : List SmdResponseCode} {input : Text} {cl : Int}

/-- A check that refuses the parameters. -/
theorem returns_guard {c : Prop} [Decidable c] {p : Server SmdResponseCode}
    (h : .invalidParameter ∈ codes) (hp : ReturnsOneOf codes p) :
    ReturnsOneOf codes (if c then pure .invalidParameter else p) :=
  returns_ite (returns_pure h) hp

theorem returns_withTokens {n : Nat} {f : Tokenized → Server SmdResponseCode}
    (h : .invalidParameter ∈ codes) (hf : ∀ tokens, ReturnsOneOf codes (f tokens)) :
    ReturnsOneOf codes (withTokens input n f) :=
  returns_guard h (returns_guard h (hf _))

/-- A program is sent, or the parameters are refused. -/
abbrev sendingCodes : List SmdResponseCode :=
  [.invalidParameter, .commandSuccess, .commandFailed]

theorem returns_sending (cmd : RegisterProgram) :
    ReturnsOneOf sendingCodes (sendModbusCommand cmd) :=
  returns_of_subset (returns_sendModbusCommand cmd) (by simp)

theorem returns_checkedSending {c c' : Prop} [Decidable c] [Decidable c']
    (cmd : RegisterProgram) :
    ReturnsOneOf sendingCodes (if c then pure .invalidParameter else
      if c' then pure .invalidParameter else sendModbusCommand cmd) :=
  returns_guard (by simp) (returns_guard (by simp) (returns_sending cmd))

theorem returns_smdJog (direction accel decel jerk speed : Int) :
    ReturnsOneOf sendingCodes (smdJog direction accel decel jerk speed) :=
  returns_bind _ fun _ => returns_checkedSending _

theorem returns_smdFindHome (direction speed accel decel jerk : Int) :
    ReturnsOneOf sendingCodes (smdFindHome direction speed accel decel jerk) :=
  returns_checkedSending _

theorem returns_smdRunAssembledMove (direction dwellTime : Int)
    (moveType : SmdAssembledMoveType) :
    ReturnsOneOf sendingCodes (smdRunAssembledMove direction dwellTime moveType) := by
  have hrefused : ReturnsOneOf sendingCodes (pure .invalidParameter) := returns_pure (by simp)
  apply returns_bind
  intro g
  apply returns_ite (returns_sending _)
  exact returns_ite (returns_ite (returns_sending _) hrefused) hrefused

theorem returns_oneParameter {act : Int → Server SmdResponseCode}
    (h : .invalidParameter ∈ codes) (hact : ∀ n, ReturnsOneOf codes (act n)) :
    ReturnsOneOf codes (withTokens input 2 fun tokens => do
      let n ← convertStringToLongInt (tokens.token 1)
      act n) :=
  returns_withTokens h fun _ => returns_bind _ hact

theorem returns_fourParameters {act : Int → Int → Int → Int → Server SmdResponseCode}
    (hact : ∀ a b c d, ReturnsOneOf sendingCodes (act a b c d)) :
    ReturnsOneOf sendingCodes (withTokens input 5 fun tokens => do
      let a ← convertStringToLongInt (tokens.token 1)
      let b ← convertStringToLongInt (tokens.token 2)
      let c ← convertStringToLongInt (tokens.token 3)
      let d ← convertStringToLongInt (tokens.token 4)
      act a b c d) := by
  apply returns_withTokens (by simp)
  intro tokens
  apply returns_bind _ fun a => returns_bind _ fun b => ?_
  exact returns_bind _ fun c => returns_bind _ fun d => hact a b c d

theorem returns_handleSaveConfig :
    ReturnsOneOf Command.saveConfig.codes (handleSaveConfig input) := by
  apply returns_withTokens (by simp [Command.codes])
  intro tokens
  apply returns_bind _ fun _ => returns_bind _ fun _ => returns_bind _ fun _ => ?_
  apply returns_bind _ fun _ => returns_bind _ fun _ => returns_bind _ fun _ => ?_
  apply returns_bind _ fun _ => returns_guard (by simp [Command.codes]) ?_
  exact returns_of_subset (returns_sendAnd _ _ _) (by simp [Command.codes])

theorem returns_handleRelativeMove :
    ReturnsOneOf sendingCodes (handleRelativeMove input) := by
  apply returns_withTokens (by simp)
  intro tokens
  apply returns_bind _ fun _ => returns_bind _ fun _ => returns_bind _ fun _ => ?_
  exact returns_bind _ fun _ => returns_bind _ fun _ => returns_checkedSending _

/-- Each command comes to one of its codes. -/
theorem returns_code (c : Command) : ReturnsOneOf c.codes (c.code input cl) := by
  cases c with
  | jogCW => exact returns_fourParameters fun _ _ _ _ => returns_smdJog _ _ _ _ _
  | jogCCW => exact returns_fourParameters fun _ _ _ _ => returns_smdJog _ _ _ _ _
  | homeCW => exact returns_fourParameters fun _ _ _ _ => returns_smdFindHome _ _ _ _ _
  | homeCCW => exact returns_fourParameters fun _ _ _ _ => returns_smdFindHome _ _ _ _ _
  | disconnect => exact returns_bind _ fun _ => returns_pure (by simp [Command.codes])
  | saveConfig => exact returns_handleSaveConfig
  | relativeMove => exact returns_handleRelativeMove
  | driveEnable => exact returns_sendAnd _ _ _
  | driveDisable => exact returns_sendAnd _ _ _
  | holdMove => exact returns_bind _ fun _ => returns_sendModbusCommand _
  | immedStop => exact returns_sendModbusCommand _
  | resetErrors => exact returns_sendModbusCommand _
  | readInputRegisters => exact returns_smdReadRegisters _ _
  | loadCurrentConfiguration => exact returns_sendAnd _ _ _
  | readCurrentConfiguration => exact returns_smdReadRegisters _ _
  | presetMotorPosition =>
      refine returns_oneParameter (by simp [Command.codes]) fun pos => ?_
      apply returns_guard (by simp [Command.codes])
      exact returns_of_subset (returns_sendAnd _ _ _) (by simp [Command.codes])
  | presetEncoderPosition =>
      refine returns_oneParameter (by simp [Command.codes]) fun pos => ?_
      apply returns_guard (by simp [Command.codes])
      exact returns_of_subset (returns_sendAnd _ _ _) (by simp [Command.codes])
  | programAssembledMove => exact returns_smdProgramAssembledMove
  | runAssembledDwellMove =>
      exact returns_oneParameter (by simp [Command.codes]) fun _ =>
        returns_guard (by simp [Command.codes]) (returns_smdRunAssembledMove _ _ _)
  | runAssembledBlendMove =>
      exact returns_oneParameter (by simp [Command.codes]) fun _ =>
        returns_guard (by simp [Command.codes]) (returns_smdRunAssembledMove _ _ _)
  | startManualMode => exact returns_startManualMode

end Codes

/-! ## Commands apart from the client -/

section Apart

variable {input : Text} {cl : Int}

theorem sendsCommands_keepingFlags : Rights.keepingFlags.SendsCommands where
  sends _ _ := trivial
  motorNotes _ hn := hn
  erange := trivial

theorem apart_sendModbusCommand (cmd : RegisterProgram) : Apart (sendModbusCommand cmd) where
  within := within_sendModbusCommand trivial
  serves _ := serves_sendModbusCommand cmd

theorem apart_readForCaller (registers : RegisterStrings) (count : Nat)
    (readType : SmdRegisterReadType) (line : Option Text) (size : Nat) :
    Apart (returnModbusRegisters registers count readType (-1) line size) where
  within := within_returnModbusRegisters _ _ _ _ _ _
  serves _ := serves_readForCaller registers count readType line size

/-- Only the reads know which client there is. -/
theorem Command.code_eq_of_no_read {c : Command} (h : c.readType? = none) (cl' : Int) :
    c.code input cl = c.code input cl' := by
  cases c <;> first | rfl | cases h

theorem apart_code {c : Command} (hread : c.readType? = none) (hdisconnect : c ≠ .disconnect)
    (hstart : c ≠ .startManualMode) : Apart (c.code input cl) where
  within := (composed_code sendsCommands_keepingFlags hdisconnect hstart).within
  serves cl' := by
    rw [Command.code_eq_of_no_read hread cl']
    exact (attends_code c).serves

end Apart

/-! ## Lines that the commands write themselves -/

section Lines

variable {g : Globals} {input : Text} {told : List Text} {past : Conversation} {cl : Int}
  {readType : SmdRegisterReadType} {β : Type}

/-- The message is being answered: what has been told makes no difference to the address. -/
theorem addressed_told {g' : Globals} {client client' : Option Int} {told' : List Text}
    (h : Dialogue.Addressed ⟨g, client, ⟨input, told⟩ :: past⟩)
    (hsame : g'.deviceIp = g.deviceIp) :
    Dialogue.Addressed ⟨g', client', ⟨input, told'⟩ :: past⟩ :=
  hsame.trans h

theorem dialogue_writeToClient {line : Text} {f : Int → Server β}
    {post : β → Option Dialogue → Prop}
    (hf : ∀ n, (f n).Safe dialogueMonitor post
      (talking g (some cl) (⟨input, told ++ [line]⟩ :: past))) :
    (writeToClient cl line >>= f).Safe dialogueMonitor post
      (talking g (some cl) (⟨input, told⟩ :: past)) := by
  refine ⟨⟨rfl, List.cons_ne_nil _ _⟩, fun written _ => ?_⟩
  cases written with
  | none => exact hf 0
  | some e => exact ⟨trivial, fun _ _ => hf (-1)⟩

/-- What a read has told the client. -/
abbrev HasRead (g : Globals) (input : Text) (past : Conversation) (cl : Int)
    (readType : SmdRegisterReadType) (ok : Prop) (q : Option Dialogue) : Prop :=
  ∃ told, q = talking g (some cl) (⟨input, told⟩ :: past) ∧
    (told = [] ∨ ok ∧ ∃ words, told = [clientWriteString readType words])

theorem dialogue_readModbusRegistersWorker {registers : RegisterStrings} {line : Option Text}
    (haddressed : Dialogue.Addressed ⟨g, some cl, ⟨input, []⟩ :: past⟩) :
    (readModbusRegistersWorker registers readType cl line).Safe dialogueMonitor
      (fun reply q' => HasRead g input past cl readType (reply.result = .commandSuccess) q')
      (talking g (some cl) (⟨input, []⟩ :: past)) := by
  have hrefused : ∀ (ctx : Context) (reply : RegistersReply), Program.Safe dialogueMonitor (do
      modbusClose ctx
      modbusFree ctx
      pure reply)
      (fun reply q' => HasRead g input past cl readType (reply.result = .commandSuccess) q')
      (talking g (some cl) (⟨input, []⟩ :: past)) := fun _ _ =>
    ⟨trivial, fun _ _ => ⟨trivial, fun _ _ => ⟨[], rfl, Or.inl rfl⟩⟩⟩
  unfold readModbusRegistersWorker
  refine ⟨trivial, fun ctx _ => ⟨haddressed, fun ip _ => ?_⟩⟩
  refine Program.Safe.ite (fun _ => hrefused _ _) fun _ => ⟨trivial, fun connected _ => ?_⟩
  refine Program.Safe.ite (fun _ => hrefused _ _) fun _ => ⟨trivial, fun words _ => ?_⟩
  cases words with
  | none => exact hrefused _ _
  | some words =>
      refine Program.Safe.ite (fun _ => ?_) fun _ => hrefused _ _
      refine ⟨⟨rfl, List.cons_ne_nil _ _⟩, fun _ _ => ⟨trivial, fun _ _ => ⟨trivial, ?_⟩⟩⟩
      exact fun _ _ => ⟨[clientWriteString readType words], rfl, Or.inr ⟨rfl, words, rfl⟩⟩

theorem dialogue_readModbusRegisters {registers : RegisterStrings}
    (haddressed : Dialogue.Addressed ⟨g, some cl, ⟨input, []⟩ :: past⟩) :
    (readModbusRegisters registers 10 readType cl).Safe dialogueMonitor
      (fun reply q' => HasRead g input past cl readType (reply.result = .commandSuccess) q')
      (talking g (some cl) (⟨input, []⟩ :: past)) := by
  unfold readModbusRegisters returnModbusRegisters
  refine Program.Safe.ite (fun hsmall => absurd hsmall (by decide)) fun _ => ?_
  refine Program.Safe.ite (fun hcount => absurd rfl hcount) fun _ => ⟨trivial, fun created _ => ?_⟩
  refine Program.Safe.ite (fun _ => ⟨[], rfl, Or.inl rfl⟩) fun _ => ?_
  exact dialogue_readModbusRegistersWorker haddressed

/-- The registers are told at most once, and then there is nothing more to tell. -/
theorem dialogue_smdReadRegisters
    (haddressed : Dialogue.Addressed ⟨g, some cl, ⟨input, []⟩ :: past⟩) :
    (smdReadRegisters readType cl).Safe dialogueMonitor
      (fun r q' => HasRead g input past cl readType (r = .handledByClient) q')
      (talking g (some cl) (⟨input, []⟩ :: past)) := by
  unfold smdReadRegisters
  refine dialogue_ask trivial fun stack => ?_
  refine dialogue_bind ((dialogue_readModbusRegisters haddressed).mono ?_)
  rintro reply _ ⟨told, rfl, htold⟩
  refine Program.Safe.ite (fun hfailed => ⟨told, rfl, htold.imp id ?_⟩) fun _ =>
    ⟨told, rfl, htold.imp id fun h => ⟨rfl, h.2⟩⟩
  rintro ⟨hsuccess, _⟩
  rw [hsuccess] at hfailed
  simp at hfailed

/-- The segments are told in their order. -/
theorem dialogue_uploadSegments (numSegments i : Nat) (segments : List AssembledMoveSegment)
    (haddressed : Dialogue.Addressed ⟨g, some cl, ⟨input, told⟩ :: past⟩) :
    (uploadSegments numSegments cl i segments).Safe dialogueMonitor
      (fun _ q' => ∃ g' lines, q' = talking g' (some cl) (⟨input, told ++ lines⟩ :: past) ∧
        g.SameDrive g' ∧ lines.Sublist ((List.range' i segments.length).map fun k =>
          segmentAcceptedMessage k numSegments))
      (talking g (some cl) (⟨input, told⟩ :: past)) := by
  induction segments generalizing g told i with
  | nil => exact ⟨g, [], by simp, .refl g, List.nil_sublist _⟩
  | cons s rest ih =>
      have hfailed : ∀ g' : Globals, g.SameDrive g' → ∃ g'' lines,
          talking g' (some cl) (⟨input, told⟩ :: past) =
            talking g'' (some cl) (⟨input, told ++ lines⟩ :: past) ∧ g.SameDrive g'' ∧
          lines.Sublist ((List.range' i (s :: rest).length).map fun k =>
            segmentAcceptedMessage k numSegments) :=
        fun g' hsame => ⟨g', [], by simp, hsame, List.nil_sublist _⟩
      unfold uploadSegments
      refine dialogue_bind_of_apart (apart_sendModbusCommand _) haddressed fun _ g₁ h₁ => ?_
      refine dialogue_ask trivial fun _ => dialogue_ask trivial fun stack => ?_
      refine dialogue_bind_of_apart (apart_readForCaller _ _ _ _ _)
        (addressed_told haddressed h₁.deviceIp) fun reply g₂ h₂ => ?_
      have h₁₂ := h₁.trans h₂
      refine dialogue_ask trivial fun _ => ?_
      refine Program.Safe.ite (fun _ => hfailed g₂ h₁₂) fun _ => ?_
      refine Program.Safe.ite (fun _ => ?_) fun _ => hfailed g₂ h₁₂
      refine dialogue_bind_of_apart (apart_sendModbusCommand _)
        (addressed_told haddressed h₁₂.deviceIp) fun prepared g₃ h₃ => ?_
      have h₁₃ := h₁₂.trans h₃
      refine Program.Safe.ite (fun _ => dialogue_ask trivial fun _ => ?_) fun _ =>
        hfailed g₃ h₁₃
      refine dialogue_bind_of_apart (apart_readForCaller _ _ _ _ _)
        (addressed_told haddressed h₁₃.deviceIp) fun reply g₄ h₄ => ?_
      have h₁₄ := h₁₃.trans h₄
      refine Program.Safe.ite (fun _ => hfailed g₄ h₁₄) fun _ => ?_
      refine Program.Safe.ite (fun _ => ?_) fun _ => ?_
      · refine dialogue_writeToClient fun _ => ?_
        refine (ih (i + 1) (addressed_told haddressed h₁₄.deviceIp)).mono ?_
        rintro _ _ ⟨g₅, lines, rfl, h₅, hlines⟩
        refine ⟨g₅, segmentAcceptedMessage i numSegments :: lines, ?_, h₁₄.trans h₅, ?_⟩
        · rw [List.append_assoc]
          rfl
        · exact hlines.cons_cons _
      · refine (ih (i + 1) (addressed_told haddressed h₁₄.deviceIp)).mono ?_
        rintro _ _ ⟨g₅, lines, rfl, h₅, hlines⟩
        exact ⟨g₅, lines, rfl, h₁₄.trans h₅, hlines.cons _⟩

end Lines

end SmdControlServer

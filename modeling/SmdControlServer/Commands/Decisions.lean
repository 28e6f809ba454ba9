import SmdControlServer.Commands.Conversion
import SmdControlServer.Drive.Sending
import SmdControlServer.Server.SocketOps

/-!
# What a command comes to

Most commands read their message, and then either refuse it or send one register
program and report how that went.  `Decides p w d` says that the code `p`, started
in `w`, comes to the decision `d`; until then it has only converted tokens and
noted what it is about to do.
-/

namespace SmdControlServer

open CString Interaction

/-- What a command does once it has read its message. -/
inductive Decision where
  | refuses (code : SmdResponseCode)
  | sends (cmd : RegisterProgram) (success failure : SmdResponseCode)

/-- The code that is left when the decision has been made. -/
def Decision.program : Decision → Server SmdResponseCode
  | refuses code => pure code
  | sends cmd success failure => sendAnd cmd success failure

/-- The world after conversions and notes. -/
@[simps -fullyApplied] def World.prepared (w : World) (errno : Int)
    (perrors : Stream' (Option PerrorErrno)) (notes : List Note) : World :=
  { w with
    errno := errno
    perrors := perrors
    log := w.log ++ notes.map Event.noted }

/-- Between the two worlds there are conversions and notes at most. -/
def World.Prepares (w w₁ : World) : Prop :=
  ∃ (errno : Int) (perrors : Stream' (Option PerrorErrno)) (notes : List Note),
    w₁ = w.prepared errno perrors notes

/-- In this world the code comes to the decision. -/
def Decides (p : Server SmdResponseCode) (w : World) (d : Decision) : Prop :=
  ∃ w₁, w.Prepares w₁ ∧ ∀ r w', Runs server p w r w' ↔ Runs server d.program w₁ r w'

namespace World

theorem Prepares.refl (w : World) : w.Prepares w :=
  ⟨w.errno, w.perrors, [], by simp [prepared]⟩

theorem Prepares.trans {w₁ w₂ w₃ : World} (h : w₁.Prepares w₂) (h' : w₂.Prepares w₃) :
    w₁.Prepares w₃ := by
  obtain ⟨e, perrors, notes, rfl⟩ := h
  obtain ⟨e', perrors', notes', rfl⟩ := h'
  exact ⟨e', perrors', notes ++ notes', by simp [prepared]⟩

theorem prepares_afterConversion (w : World) (str : Text) :
    w.Prepares (w.afterConversion str) := by
  have herrno : ∀ v : World, (∃ e, v = w.setErrno e) → w.Prepares v.afterPerror := by
    rintro v ⟨e, rfl⟩
    refine ⟨(w.setErrno e).afterPerror.errno, w.perrors.tail, [], ?_⟩
    simp [prepared, setErrno, afterPerror]
  unfold afterConversion
  split
  · split
    · exact herrno _ ⟨erange, rfl⟩
    · exact herrno _ ⟨w.errno, rfl⟩
  · exact Prepares.refl w

theorem prepares_note (w : World) (n : Note) : w.Prepares (w.recordAll [.noted n]) :=
  ⟨w.errno, w.perrors, [n], rfl⟩

end World

section Decides

variable {w : World} {d : Decision}

theorem decides_pure (code : SmdResponseCode) : Decides (pure code) w (.refuses code) :=
  ⟨w, .refl w, fun _ _ => Iff.rfl⟩

theorem decides_sendAnd (cmd : RegisterProgram) (success failure : SmdResponseCode) :
    Decides (sendAnd cmd success failure) w (.sends cmd success failure) :=
  ⟨w, .refl w, fun _ _ => Iff.rfl⟩

/-- A program is sent with one of two results. -/
theorem runs_sendModbusCommand_result {cmd : RegisterProgram} {w' : World}
    {r : SmdResponseCode} (h : Runs server (sendModbusCommand cmd) w r w') :
    r = .commandSuccess ∨ r = .commandFailed := by
  cases runs_sendModbusCommand_iff.mp h with
  | written => exact Or.inl rfl
  | noThread => exact Or.inr rfl
  | refused => exact Or.inr rfl
  | resent => exact Or.inr rfl

theorem runs_sendAnd_iff {cmd : RegisterProgram} {success failure : SmdResponseCode}
    {r : SmdResponseCode} {w' : World} :
    Runs server (sendAnd cmd success failure) w r w' ↔
      (Runs server (sendModbusCommand cmd) w .commandSuccess w' ∧ r = success) ∨
        (Runs server (sendModbusCommand cmd) w .commandFailed w' ∧ r = failure) := by
  unfold sendAnd
  rw [Program.bind_eq_bind, runs_bind_iff]
  constructor
  · rintro ⟨r', w₁, hsend, hrest⟩
    rcases runs_sendModbusCommand_result hsend with rfl | rfl
    · obtain ⟨rfl, rfl⟩ := runs_done_iff.mp hrest
      exact Or.inl ⟨hsend, rfl⟩
    · obtain ⟨rfl, rfl⟩ := runs_done_iff.mp hrest
      exact Or.inr ⟨hsend, rfl⟩
  · rintro (⟨hsend, rfl⟩ | ⟨hsend, rfl⟩)
    · exact ⟨_, w', hsend, runs_done_iff.mpr ⟨rfl, rfl⟩⟩
    · exact ⟨_, w', hsend, runs_done_iff.mpr ⟨rfl, rfl⟩⟩

theorem decides_sendModbusCommand (cmd : RegisterProgram) :
    Decides (sendModbusCommand cmd) w (.sends cmd .commandSuccess .commandFailed) := by
  refine ⟨w, .refl w, fun r w' => ?_⟩
  change _ ↔ Runs server (sendAnd _ _ _) _ _ _
  rw [runs_sendAnd_iff]
  constructor
  · intro hsend
    rcases runs_sendModbusCommand_result hsend with rfl | rfl
    · exact Or.inl ⟨hsend, rfl⟩
    · exact Or.inr ⟨hsend, rfl⟩
  · rintro (⟨hsend, rfl⟩ | ⟨hsend, rfl⟩)
    · exact hsend
    · exact hsend

theorem decides_conversion {str : Text} {k : Int → Server SmdResponseCode}
    (h : Decides (k (w.latch.read (strtol str))) (w.afterConversion str) d) :
    Decides (convertStringToLongInt str >>= k) w d := by
  obtain ⟨w₁, hprepares, hruns⟩ := h
  refine ⟨w₁, (w.prepares_afterConversion str).trans hprepares, fun r w' => ?_⟩
  rw [Program.bind_eq_bind, runs_bind_iff, ← hruns]
  constructor
  · rintro ⟨n, w₂, hconversion, hrest⟩
    obtain ⟨rfl, rfl⟩ := runs_convertStringToLongInt_iff.mp hconversion
    exact hrest
  · intro hrest
    exact ⟨_, _, runs_convertStringToLongInt_iff.mpr ⟨rfl, rfl⟩, hrest⟩

theorem decides_note {n : Note} {k : Unit → Server SmdResponseCode}
    (h : Decides (k ()) (w.recordAll [.noted n]) d) : Decides (note n >>= k) w d := by
  obtain ⟨w₁, hprepares, hruns⟩ := h
  exact ⟨w₁, (w.prepares_note n).trans hprepares, fun r w' => runs_note.trans (hruns r w')⟩

theorem decides_globals {k : Globals → Server SmdResponseCode}
    (h : Decides (k w.globals) w d) : Decides (getGlobals >>= k) w d := by
  obtain ⟨w₁, hprepares, hruns⟩ := h
  exact ⟨w₁, hprepares, fun r w' => runs_globals.trans (hruns r w')⟩

end Decides

/-! ## Fair reports -/

/-- The lines that tell the client of a program that was written. -/
def successLines : List Text :=
  ["COMMAND_SUCCESS\n".toList, "ENABLE_SUCCESS\n".toList, "DISABLE_SUCCESS\n".toList,
    "PRESET_ENCODER_SUCCESS\n".toList, "PRESET_POSITION_SUCCESS\n".toList,
    "CONFIG_SAVE_SUCCESS\n".toList, "READY_TO_READ_CONFIG\n".toList]

/-- The client is told of a success. -/
def SmdResponseCode.TellsSuccess (code : SmdResponseCode) : Prop :=
  ∃ line ∈ successLines, responseLine code = some line

instance (code : SmdResponseCode) : Decidable code.TellsSuccess :=
  inferInstanceAs (Decidable (∃ line ∈ successLines, _))

/-- A refusal is not reported as a success, a program that was sent is reported as
one exactly when the send returns one. -/
def Decision.Fair : Decision → Prop
  | refuses code => ¬ code.TellsSuccess
  | sends _ success failure => success.TellsSuccess ∧ ¬ failure.TellsSuccess

/-- In every world the code comes to a decision that is reported fairly. -/
def Settled (p : Server SmdResponseCode) : Prop :=
  ∀ w, ∃ d, Decides p w d ∧ d.Fair

section Settled

theorem settled_pure {code : SmdResponseCode} (h : ¬ code.TellsSuccess) :
    Settled (pure code) :=
  fun _ => ⟨_, decides_pure code, h⟩

theorem settled_sendModbusCommand (cmd : RegisterProgram) : Settled (sendModbusCommand cmd) :=
  fun _ => ⟨_, decides_sendModbusCommand cmd, by decide, by decide⟩

theorem settled_sendAnd (cmd : RegisterProgram) {success failure : SmdResponseCode}
    (hsuccess : success.TellsSuccess) (hfailure : ¬ failure.TellsSuccess) :
    Settled (sendAnd cmd success failure) :=
  fun _ => ⟨_, decides_sendAnd cmd success failure, hsuccess, hfailure⟩

theorem settled_note {n : Note} {k : Unit → Server SmdResponseCode} (h : Settled (k ())) :
    Settled (note n >>= k) := by
  intro w
  obtain ⟨d, hd, hfair⟩ := h (w.recordAll [.noted n])
  exact ⟨d, decides_note hd, hfair⟩

theorem settled_smdHoldMove : Settled smdHoldMove :=
  settled_note (settled_sendModbusCommand _)

end Settled

end SmdControlServer

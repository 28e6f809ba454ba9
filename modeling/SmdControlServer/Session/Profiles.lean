import SmdControlServer.Drive.RegisterLine
import SmdControlServer.Session.Executions
import SmdControlServer.Upload.Loaded

/-!
# Profiles in a conversation

`ASSEMBLED_MOVE_ACCEPTED` is a line of the loading mode, and there is one way into that mode:
a `programAssembledMove` that was answered with the request for the profile.  So the two
lines come in turn.
-/

namespace SmdControlServer

open CString Interaction

theorem selects_of_selected? {message : Text} {c : Command}
    (h : Command.selected? message = some c) : Command.Selects message c := by
  unfold Command.selected? at h
  have hselects := List.find?_some h
  exact of_decide_eq_true hselects

/-- The only way into the loading mode. -/
theorem Mode.selects_of_after_eq_loading {mode : Mode} {e : Exchange Text Text}
    (h : mode.after e = .loading) : Command.Selects e.asked .programAssembledMove ∧
      e.told.getLast? = responseLine .readyForAssembledMove := by
  cases mode with
  | disconnected =>
      simp only [Mode.after] at h
      split at h <;> cases h
  | ordinary =>
      cases hselected : Command.selected? e.asked with
      | none => simp [Mode.after, hselected] at h
      | some c =>
          have hselects := selects_of_selected? hselected
          rw [Mode.after_of_selects hselects] at h
          cases c with
          | programAssembledMove =>
              refine ⟨hselects, ?_⟩
              by_contra hline
              rw [Command.modeAfter, if_neg hline] at h
              cases h
          | _ => cases h
  | manual =>
      simp only [Mode.after] at h
      split at h
      · split at h <;> cases h
      · cases h
  | loading => cases h

/-- The line that closes an upload that succeeded. -/
abbrev profileAccepted : Text := "ASSEMBLED_MOVE_ACCEPTED\n".toList

theorem clientWriteString_ne_profileAccepted (readType : SmdRegisterReadType)
    (words : Fin 10 → BitVec 16) : clientWriteString readType words ≠ profileAccepted := by
  rw [clientWriteString_eq]
  unfold firstField
  cases readType with
  | readInputRegisters => exact fun heq => absurd (List.cons.inj heq).1 (by decide)
  | readConfigRegisters => exact fun heq => absurd (List.cons.inj heq).1 (by decide)

theorem eq_assembledMoveAccepted {r : SmdResponseCode}
    (h : profileAccepted ∈ (responseLine r).toList) : r = .assembledMoveAccepted := by
  cases r with
  | assembledMoveAccepted => rfl
  | _ => exact absurd h (by decide)

theorem Command.assembledMoveAccepted_notMem_codes (c : Command) :
    .assembledMoveAccepted ∉ c.codes := by
  cases c <;> decide

theorem Mode.eq_loading_of_mem_codes {mode : Mode} {message : Text}
    (h : .assembledMoveAccepted ∈ mode.codes message) : mode = .loading := by
  cases mode with
  | loading => rfl
  | disconnected =>
      change _ ∈ (if _ then _ else _) at h
      split at h
      · exact absurd h (by decide)
      · exact absurd h (by decide)
  | ordinary =>
      change _ ∈ (Command.selected? message).elim _ Command.codes at h
      cases hselected : Command.selected? message with
      | none =>
          rw [hselected] at h
          exact absurd h (by decide)
      | some c =>
          rw [hselected] at h
          exact absurd h c.assembledMoveAccepted_notMem_codes
  | manual =>
      change _ ∈ (if _ then _ else if _ then _ else _) at h
      split at h
      · exact absurd h (by decide)
      · split at h
        · exact absurd h (by decide)
        · exact absurd h (by decide)

/-- A profile is accepted in the loading mode only. -/
theorem Mode.eq_loading_of_accepted {mode : Mode} {message : Text} {lines : List Text}
    (h : mode.Replies message lines) (haccepted : profileAccepted ∈ lines) : mode = .loading := by
  obtain ⟨r, hr, announced, hannounced, rfl⟩ := h
  rcases List.mem_append.mp haccepted with hline | hline
  · rcases hannounced with rfl | ⟨hloading, _⟩ | ⟨readType, _, _, words, rfl⟩
    · cases hline
    · exact hloading
    · exact absurd (List.mem_singleton.mp hline).symm
        (clientWriteString_ne_profileAccepted readType words)
  · rw [eq_assembledMoveAccepted hline] at hr
    exact Mode.eq_loading_of_mem_codes hr

/-- In every interleaving: a client is told `ASSEMBLED_MOVE_ACCEPTED` only for the message
right after the one for which it was told to send the profile. -/
theorem accepted_after_ready {P : ServerThreads → Nat → Prop} {w : World}
    (hinitial : w.globals = Globals.initial) {es : Trace} {c : ServerThreads}
    (h : ServerExecutes P (serverStart w) es c) (hreads : readsMessage c = true)
    {later past : Conversation} {e : Exchange Text Text}
    (hsplit : conversationOf es = later ++ e :: past) (haccepted : profileAccepted ∈ e.told) :
    ∃ ready past', past = ready :: past' ∧
      Command.Selects ready.asked .programAssembledMove ∧
        ready.told.getLast? = some "SEND_ASSEMBLED_MOVE_PARAMETERS\n".toList := by
  have hconforms := (settled_of_reads hinitial h hreads).conforms
  rw [hsplit] at hconforms
  have hloading := Mode.eq_loading_of_accepted hconforms.replies haccepted
  cases past with
  | nil => cases hloading
  | cons ready past' =>
      obtain ⟨hselects, hline⟩ := Mode.selects_of_after_eq_loading hloading
      exact ⟨ready, past', rfl, hselects, hline⟩

/-- The trace of a profile that is accepted. -/
theorem accepted_after_ready_upload :
    ∃ es c, ServerExecutes (fun _ _ => True) (serverStart (World.started
        [connectLine, programLine, profileLine]
        (programmingDrive fun k => if k = 6 then 0x8608 else 0x8408))) es c ∧
      ∃ e past, conversationOf es = e :: past ∧ profileAccepted ∈ e.told ∧
        ∃ ready past', past = ready :: past' ∧
          Command.Selects ready.asked .programAssembledMove ∧
            ready.told.getLast? = some "SEND_ASSEMBLED_MOVE_PARAMETERS\n".toList := by
  have htraced : ((Threads.traced server serverSharing (List.replicate 90 0)
      (serverStart (World.started [connectLine, programLine, profileLine]
        (programmingDrive fun k => if k = 6 then 0x8608 else 0x8408)))).map fun r =>
      readsMessage r.2 && ((conversationOf r.1).head?.any fun e =>
        decide (profileAccepted ∈ e.told))) = some true := by
    decide +kernel
  obtain ⟨⟨es, c⟩, hes, htest⟩ := Option.map_eq_some_iff.mp htraced
  obtain ⟨hreads, hhead⟩ := Bool.and_eq_true_iff.mp htest
  have hexecutes := Threads.executes_of_traced hes
  cases hconversation : conversationOf es with
  | nil =>
      rw [show (es, c).1 = es from rfl, hconversation] at hhead
      cases hhead
  | cons e past =>
      rw [show (es, c).1 = es from rfl, hconversation] at hhead
      have haccepted : profileAccepted ∈ e.told := of_decide_eq_true hhead
      have hsplit : conversationOf es = [] ++ e :: past := hconversation
      refine ⟨es, c, hexecutes, e, past, hconversation, haccepted, ?_⟩
      exact accepted_after_ready rfl hexecutes hreads hsplit haccepted

end SmdControlServer

import SmdControlServer.Manual.Executions

/-!
# The connection and the flags

What holds of the globals between two messages, in every interleaving: the flags are
bits that exclude each other, and the server is connected exactly while
`smd_command_connection` points to the one context that the main thread has not freed.
-/

namespace SmdControlServer

open CString Interaction

/-- The contexts that have been allocated in a trace and not been freed. -/
def liveContexts (es : Trace) : List Nat :=
  es.foldl (fun live e => e.request.liveAfter e.answer live) []

theorem live_accounts (i : Nat) (es : Trace) :
    (accounts Globals.initial es i).live = liveContexts (ownEntries i es) := by
  have hfollow : ∀ (es : Trace) (q : Account), (accountMonitor.follow q es).live =
      es.foldl (fun live e => e.request.liveAfter e.answer live) q.live := by
    intro es
    induction es with
    | nil => exact fun _ => rfl
    | cons e es ih => exact fun q => ih (accountMonitor.next q e.request e.answer)
  have hstart : (startAccounts Globals.initial i).live = [] := by
    cases i with
    | zero => rfl
    | succ i => rfl
  unfold accounts liveContexts
  rw [Monitor.followAll_apply, hfollow, hstart]

/-- The tests of `parse_socket_input` that come before Scenario 4 all fail. -/
def Globals.InScenario4 (g : Globals) : Prop :=
  g.smdConnected ≠ 0 ∧
    ¬ (g.smdConnected = 1 ∧ g.statusWaitingForAssembledMove = 0 ∧ g.statusManualModeEnable = 0) ∧
    ¬ (g.smdConnected = 1 ∧ g.statusWaitingForAssembledMove = 0 ∧ g.statusManualModeEnable = 1) ∧
    ¬ (g.smdConnected = 1 ∧ g.statusWaitingForAssembledMove = 1)

/-- The flags, the pointer and the contexts that have not been freed agree. -/
structure Globals.AgreesWith (g : Globals) (live : List Nat) : Prop where
  flags : g.FlagsAreBits
  connected : g.smdConnected = 1 ↔ ∃ ctx, g.smdCommandConnection = some ctx ∧
    ctx.session.allocated = true ∧ ctx.id ∈ live
  closed : g.smdConnected = 0 →
    g.statusWaitingForAssembledMove = 0 ∧ g.statusManualModeEnable = 0
  exclusive : ¬ (g.statusWaitingForAssembledMove = 1 ∧ g.statusManualModeEnable = 1)
  scenario : ¬ g.InScenario4

theorem Globals.Accounted.agreesWith {g : Globals} {live : List Nat} (h : g.Accounted live) :
    g.AgreesWith live where
  flags := h.flags
  connected := by
    constructor
    · intro hone
      obtain ⟨ctx, hctx, hallocated, hlive⟩ := h.connected hone
      refine ⟨ctx, hctx, hallocated, ?_⟩
      rw [hlive]
      exact List.mem_singleton_self _
    · rintro ⟨ctx, _, _, hmem⟩
      rcases h.flags.smdConnected with hzero | hone
      · rw [(h.closed hzero).2.2] at hmem
        cases hmem
      · exact hone
  closed := fun hzero => ⟨(h.closed hzero).1, (h.closed hzero).2.1⟩
  exclusive := fun hboth => h.exclusive hboth.1 hboth.2
  scenario := by
    rintro ⟨hconnected, h1, h2, h3⟩
    have hone := h.flags.smdConnected.resolve_left hconnected
    have hwaiting := h.flags.waiting
    have hmanual := h.flags.manualMode
    omega

/-- The main thread is about to read a message, to handle one or to wait for a client. -/
def BetweenMessages (c : ServerThreads) : Prop :=
  (∃ cl, c.next 0 = some (.readClient cl)) ∨ (∃ input, c.next 0 = some (.note (.message input))) ∨
    c.next 0 = some .acceptClient

theorem monitored_of_betweenMessages {P : ServerThreads → Nat → Prop} {w : World}
    (hinitial : w.globals = Globals.initial) {es : Trace} {c : ServerThreads}
    (h : ServerExecutes P (serverStart w) es c) (hc : BetweenMessages c) :
    c.state.globals.Accounted (liveContexts (ownEntries 0 es)) := by
  obtain ⟨hmonitored, hlinked⟩ := monitored_of_executes hinitial h
  have hsettled : (accounts Globals.initial es 0).Settled := by
    rcases hc with ⟨cl, hnext⟩ | ⟨input, hnext⟩ | hnext
    · exact hmonitored.allows hnext
    · exact hmonitored.allows hnext
    · exact (hmonitored.allows hnext).1
  rw [← live_accounts]
  exact hsettled.globals _ hlinked.known

/-- In every interleaving, after any messages and whatever the drive does: the flags are
bits, every context is freed once, between two messages the flags agree with the
contexts, and a server that waits in `accept` has nothing open. -/
theorem connection_agrees {w : World} (hinitial : w.globals = Globals.initial) {es : Trace}
    {c : ServerThreads} (h : ServerExecutes (fun _ _ => True) (serverStart w) es c) :
    c.state.globals.FlagsAreBits ∧
      (∀ i ctx, c.next i = some (.modbusFree ctx) → ctx.id ∈ liveContexts (ownEntries i es)) ∧
      (BetweenMessages c → c.state.globals.AgreesWith (liveContexts (ownEntries 0 es))) ∧
      (c.next 0 = some .acceptClient →
        c.state.globals.smdConnected = 0 ∧ c.state.globals.statusWaitingForAssembledMove = 0 ∧
          c.state.globals.statusManualModeEnable = 0 ∧ liveContexts (ownEntries 0 es) = []) := by
  obtain ⟨hmonitored, hlinked⟩ := monitored_of_executes hinitial h
  refine ⟨hlinked.flags, fun i ctx hnext => ?_, fun hc => ?_, fun hnext => ?_⟩
  · rw [← live_accounts]
    exact (hmonitored.allows hnext).1
  · exact (monitored_of_betweenMessages hinitial h hc).agreesWith
  · have haccounted := monitored_of_betweenMessages hinitial h (Or.inr (Or.inr hnext))
    have hzero : c.state.globals.smdConnected = 0 :=
      (hmonitored.allows hnext).2 _ hlinked.known
    exact ⟨hzero, haccounted.closed hzero⟩

/-- A client has connected and started the manual mode. -/
theorem connection_agrees_in_manualMode :
    ∃ es c, ServerExecutes (fun _ _ => True) (serverStart World.stopsManualMode) es c ∧
      c.state.globals.smdConnected = 1 ∧ c.state.globals.statusManualModeEnable = 1 ∧
      c.state.globals.AgreesWith (liveContexts (ownEntries 0 es)) := by
  have htraced : ((Threads.traced server serverSharing (List.replicate 21 0)
      (serverStart World.stopsManualMode)).map fun r =>
        (readsMessage r.2, r.2.state.globals.smdConnected,
          r.2.state.globals.statusManualModeEnable)) = some (true, 1, 1) := by decide +kernel
  obtain ⟨⟨es, c⟩, hes, hc⟩ := Option.map_eq_some_iff.mp htraced
  obtain ⟨hreads, hrest⟩ := Prod.mk.inj hc
  obtain ⟨hconnected, hmanual⟩ := Prod.mk.inj hrest
  have hexecutes := Threads.executes_of_traced hes
  have hinitial : World.stopsManualMode.globals = Globals.initial := rfl
  exact ⟨es, c, hexecutes, hconnected, hmanual,
    (connection_agrees hinitial hexecutes).2.2.1 (Or.inl (next_of_readsMessage hreads))⟩

end SmdControlServer

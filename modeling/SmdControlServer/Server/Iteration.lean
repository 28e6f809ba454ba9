import Mathlib.Logic.Relation
import SmdControlServer.Server.Rules

/-!
# The server's loop

One turn of the read loop is a step from the client's descriptor and the world to
the next ones.  `ServerRun` is any number of turns, each of which meets a
condition on the state before it, and the induction over it is done once.
-/

namespace SmdControlServer

open CString Interaction

namespace World

/-- What one `read` of the client's socket leaves of the world. -/
def afterClientRead (w : World) (cl : Int) : World :=
  (match w.clientReads.head with
  | .failed e => { w with clientReads := w.clientReads.tail, errno := e }
  | _ => { w with clientReads := w.clientReads.tail }).recordAll [.clientRead cl]

/-- The text that the next turn of the loop dispatches, if it reads one. -/
def nextMessage (w : World) : Option Text :=
  match w.clientReads.head with
  | .received chunk =>
      some (messageText chunk
        (if chunk.bytes.length < bufSize then [] else w.memory.head.text))
  | _ => none

/-- The world in which the text that was read is dispatched. -/
def afterMessageRead (w : World) (cl : Int) : World :=
  match w.clientReads.head with
  | .received chunk =>
      if chunk.bytes.length < bufSize then w.afterClientRead cl
      else (w.afterClientRead cl).takeMemory
  | _ => w.afterClientRead cl

theorem globals_afterMessageRead (w : World) (cl : Int) :
    (w.afterMessageRead cl).globals = w.globals := by
  unfold afterMessageRead afterClientRead
  cases w.clientReads.head with
  | received chunk => by_cases hroom : chunk.bytes.length < bufSize <;> simp [hroom]
  | endOfFile => rfl
  | failed e => rfl

end World

@[simp] theorem runs_readClient {α : Type} {w w' : World} {a : α} {cl : Int}
    {k : ClientRead → Server α} :
    Runs server (.perform (Request.readClient cl) k) w a w' ↔
      Runs server (k w.clientReads.head) (w.afterClientRead cl) a w' :=
  runs_perform_of_handle rfl

/-- A turn of the loop dispatches a message for the client it has, or goes on to
the next client. -/
theorem runs_serverIteration_iff {w w' : World} {cl cl' : Int} :
    Runs server (serverIteration cl) w cl' w' ↔
      match w.nextMessage with
      | some input =>
          cl' = cl ∧
            Runs server (parseSmdResponseToClientInput input cl) (w.afterMessageRead cl) () w'
      | none => Runs server (serveNextClient cl) (w.afterClientRead cl) cl' w' := by
  unfold serverIteration World.nextMessage World.afterMessageRead
  rw [Program.bind_eq_bind, Program.perform_bind, runs_readClient]
  simp only [Program.done_bind]
  cases hread : w.clientReads.head with
  | endOfFile => rfl
  | failed e => rfl
  | received chunk =>
      -- a read that fills the buffer leaves no room for the NUL
      by_cases hfull : chunk.bytes.length < bufSize
      · simp only [hfull, if_true, Program.bind_eq_bind, runs_bind_iff, Program.pure_eq_done,
          runs_done_iff]
        constructor
        · rintro ⟨_, w₁, hrun, rfl, rfl⟩
          exact ⟨rfl, hrun⟩
        · rintro ⟨rfl, hrun⟩
          exact ⟨(), w', hrun, rfl, rfl⟩
      · simp only [hfull, if_false, Program.bind_eq_bind, Program.perform_bind,
          Program.done_bind, runs_uninitialised, runs_bind_iff, Program.pure_eq_done,
          runs_done_iff]
        have hmemory : (w.afterClientRead cl).memory = w.memory := by
          unfold World.afterClientRead
          rw [hread]
          rfl
        rw [hmemory]
        constructor
        · rintro ⟨_, w₁, hrun, rfl, rfl⟩
          exact ⟨rfl, hrun⟩
        · rintro ⟨rfl, hrun⟩
          exact ⟨(), w', hrun, rfl, rfl⟩

/-! ## A message -/

theorem parseSocketInput_eq (input : Text) (cl : Int) :
    parseSocketInput input cl = getGlobals >>= fun g => dispatchIn g input cl := rfl

theorem answerClient_eq (r : SmdResponseCode) (cl : Int) :
    answerClient r cl =
      if r = .readyForAssembledMove then
        assign (.statusWaitingForAssembledMove 1) >>= fun _ => tellResponse r cl
      else
        tellResponse r cl := rfl

/-- A message is noted, dispatched and answered. -/
theorem runs_parseSmdResponseToClientInput_iff {w w' : World} {input : Text} {cl : Int} :
    Runs server (parseSmdResponseToClientInput input cl) w () w' ↔
      ∃ r w₁, Runs server (parseSocketInput input cl)
          (w.recordAll [.noted (.message input)]) r w₁ ∧
        Runs server (answerClient r cl) w₁ () w' := by
  unfold parseSmdResponseToClientInput
  simp only [Program.bind_eq_bind, Program.perform_bind, Program.done_bind, runs_note]
  exact runs_bind_iff

/-! ## Turns of the loop -/

/-- One turn of the loop, begun in a state that meets the condition. -/
def ServerStep (P : Int × World → Prop) (s s' : Int × World) : Prop :=
  P s ∧ Runs server (serverIteration s.1) s.2 s'.1 s'.2

/-- Any number of turns. -/
def ServerRun (P : Int × World → Prop) : Int × World → Int × World → Prop :=
  Relation.ReflTransGen (ServerStep P)

/-- What holds at the start and is kept by every turn under the condition holds
of every state reached. -/
theorem ServerRun.invariant {P inv : Int × World → Prop}
    (hstep : ∀ s s', inv s → P s → Runs server (serverIteration s.1) s.2 s'.1 s'.2 → inv s')
    {s s' : Int × World} (hs : inv s) (h : ServerRun P s s') : inv s' := by
  induction h with
  | refl => exact hs
  | tail _ hlast ih => exact hstep _ _ ih hlast.1 hlast.2

/-- A number of turns. -/
def ServerTurns : Nat → Int × World → Int × World → Prop
  | 0, s, s' => s' = s
  | n + 1, s, s' =>
      ∃ s₁ : Int × World, Runs server (serverIteration s.1) s.2 s₁.1 s₁.2 ∧
        ServerTurns n s₁ s'

theorem serverRun_iff_exists_turns {s s' : Int × World} :
    ServerRun (fun _ => True) s s' ↔ ∃ n, ServerTurns n s s' := by
  constructor
  · intro h
    induction h using Relation.ReflTransGen.head_induction_on with
    | refl => exact ⟨0, rfl⟩
    | head hstep _ ih =>
        obtain ⟨n, hn⟩ := ih
        exact ⟨n + 1, _, hstep.2, hn⟩
  · rintro ⟨n, h⟩
    induction n generalizing s with
    | zero =>
        rw [show s' = s from h]
        exact .refl
    | succ n ih =>
        obtain ⟨s₁, hturn, hrest⟩ := h
        exact .head ⟨trivial, hturn⟩ (ih hrest)

end SmdControlServer

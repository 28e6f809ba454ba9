/-!
# Conversations

A client asks, and is told some lines before it asks again.  A protocol says which lines
may be told for a question, and in which mode they leave the server.  The mode is a function
of the conversation, so whoever has listened to it from the start knows what the next
question will be taken for.
-/

namespace Interaction

/-- What was asked, and the lines that were told for it. -/
structure Exchange (Question Line : Type) where
  asked : Question
  told : List Line
  deriving DecidableEq, Repr

variable {Question Line Mode : Type}

/-- One more line in the present exchange.  Conversations have the latest exchange first. -/
def tellLine (line : Line) : List (Exchange Question Line) → List (Exchange Question Line)
  | [] => []
  | e :: past => { e with told := e.told ++ [line] } :: past

@[simp] theorem tellLine_cons (line : Line) (asked : Question) (told : List Line)
    (past : List (Exchange Question Line)) :
    tellLine line (⟨asked, told⟩ :: past) = ⟨asked, told ++ [line]⟩ :: past := rfl

structure Protocol (Mode Question Line : Type) where
  start : Mode
  replies : Mode → Question → List Line → Prop
  after : Mode → Exchange Question Line → Mode

namespace Protocol

variable (P : Protocol Mode Question Line)

/-- The mode that a conversation has led to. -/
def mode : List (Exchange Question Line) → Mode
  | [] => P.start
  | e :: past => P.after (mode past) e

/-- Each question was answered as the protocol says in the mode it came in. -/
def Conforms : List (Exchange Question Line) → Prop
  | [] => True
  | e :: past => P.replies (P.mode past) e.asked e.told ∧ Conforms past

variable {P}

@[simp] theorem mode_nil : P.mode [] = P.start := rfl

@[simp] theorem mode_cons (e : Exchange Question Line) (past : List (Exchange Question Line)) :
    P.mode (e :: past) = P.after (P.mode past) e := rfl

theorem Conforms.of_append {later past : List (Exchange Question Line)}
    (h : P.Conforms (later ++ past)) : P.Conforms past := by
  induction later with
  | nil => exact h
  | cons e later ih => exact ih h.2

/-- Any exchange of a conversation that conforms. -/
theorem Conforms.replies {later past : List (Exchange Question Line)}
    {e : Exchange Question Line} (h : P.Conforms (later ++ e :: past)) :
    P.replies (P.mode past) e.asked e.told :=
  h.of_append.1

end Protocol

end Interaction

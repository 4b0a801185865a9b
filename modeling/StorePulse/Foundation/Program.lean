/-!
# Programs that wait for their environment

A program is a value, or an operation with a continuation for its reply.  The
operations are those of a signature.  Nothing is said here about what an
operation does: an interpreter runs the head of a program against a state and
keeps the rest, so the operations of several programs can be interleaved.
-/

namespace StorePulse

/-- Operations, each with the type of its reply. -/
structure Signature where
  /-- The operations. -/
  Op : Type
  /-- The reply to an operation. -/
  Reply : Op → Type

/-- A program over a signature. -/
inductive Program (S : Signature) (α : Type) : Type where
  /-- The program has ended. -/
  | ret (a : α) : Program S α
  /-- The program performs `op` and goes on with the reply. -/
  | call (op : S.Op) (k : S.Reply op → Program S α) : Program S α

namespace Program

variable {S : Signature} {α β : Type}

/-- Run one program and then another on its value. -/
def bind (m : Program S α) (f : α → Program S β) : Program S β :=
  match m with
  | .ret a => f a
  | .call op k => .call op fun r => (k r).bind f

instance : Monad (Program S) where
  pure := .ret
  bind := .bind

/-- Perform one operation. -/
def perform (op : S.Op) : Program S (S.Reply op) := .call op .ret

end Program

end StorePulse

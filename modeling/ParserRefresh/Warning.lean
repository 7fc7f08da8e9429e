import ParserRefresh.Fault

/-! # Warnings, and attempts that give them

An attempt ends in a value or a fault and lists the warnings that were given on the way. The
warnings of a failed attempt are not lost. -/

namespace ParserRefresh

/-- What is worth a warning. -/
inductive Warning where
  /-- The prelude holds the text that ends its own literal. -/
  | rawTerminator
  /-- A test block of several items was removed, so its sentinel may belong to an item without
  braces. -/
  | manyItems (sentinel : Text) (line items : Nat)
  deriving DecidableEq

/-- A value or a fault, with the warnings given before it was reached. -/
structure Attempt (α : Type) where
  result : Except Fault α
  warnings : List Warning

namespace Attempt

def succeed {α : Type} (value : α) : Attempt α := ⟨.ok value, []⟩

def quiet {α : Type} (result : Except Fault α) : Attempt α := ⟨result, []⟩

/-- Goes on with the value of an attempt; a fault ends it, and the warnings add up. -/
def andThen {α β : Type} (attempt : Attempt α) (next : α → Attempt β) : Attempt β :=
  match attempt.result with
  | .error fault => ⟨.error fault, attempt.warnings⟩
  | .ok value => ⟨(next value).result, attempt.warnings ++ (next value).warnings⟩

@[simp] theorem succeed_andThen {α β : Type} (value : α) (next : α → Attempt β) :
    (succeed value).andThen next = next value := rfl

end Attempt

end ParserRefresh

import Mathlib.Logic.Basic

/-!
# A value that is sent after each change

One party changes a value and after each change sends the new one into a queue, so that another
party, far behind, can follow. The queue may also have copies of the value as it was when they
were sent, and messages that are about something else.

`Leads R a messages b` says that the messages lead from `a` to `b`: whoever has `a` and takes them
in order goes through every change, each related to the one before by `R`, and ends with `b`. Two
queues behind one another compose (`leads_append`), and what is taken from the front or added at
the end keeps the statement (`leads_concat_next`, `leads_concat_copy`, `leads_concat_other`).
-/

set_option autoImplicit false

namespace Flextunnel.Lib

variable {α : Type}

/-- A message: the next value, a copy of the value at that time, or anything else. -/
inductive Update (α : Type) where
  | next (a : α)
  | copy (a : α)
  | other

/-- The messages lead from one value to another. -/
def Leads (R : α → α → Prop) : α → List (Update α) → α → Prop
  | a, [], b => a = b
  | a, .next a' :: messages, b => R a a' ∧ Leads R a' messages b
  | a, .copy a' :: messages, b => a' = a ∧ Leads R a messages b
  | a, .other :: messages, b => Leads R a messages b

variable {R : α → α → Prop} {a b c : α} {messages messages' : List (Update α)}

/-- Messages in sequence lead from one value to another over a value between them. -/
theorem leads_append :
    Leads R a (messages ++ messages') c ↔ ∃ b, Leads R a messages b ∧ Leads R b messages' c := by
  induction messages generalizing a with
  | nil =>
    constructor
    · exact fun h => ⟨a, rfl, h⟩
    · rintro ⟨b, rfl, h⟩
      exact h
  | cons message messages ih =>
    cases message with
    | next a' | copy a' => simp only [List.cons_append, Leads, ih, and_assoc, exists_and_left]
    | other => exact ih

theorem leads_concat_next (h : Leads R a messages b) (hR : R b c) :
    Leads R a (messages ++ [.next c]) c :=
  leads_append.2 ⟨b, h, hR, rfl⟩

theorem leads_concat_copy (h : Leads R a messages b) : Leads R a (messages ++ [.copy b]) b :=
  leads_append.2 ⟨b, h, rfl, rfl⟩

theorem leads_concat_other (h : Leads R a messages b) : Leads R a (messages ++ [.other]) b :=
  leads_append.2 ⟨b, h, rfl⟩

end Flextunnel.Lib

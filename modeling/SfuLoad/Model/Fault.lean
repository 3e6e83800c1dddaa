import Mathlib.Data.List.Infix
import SfuLoad.Kit.Outcomes

/-!
# Errors with their contexts

A failure is a message with the contexts it has been given, the outermost first.
`Fault.text` is the alternate display, which messages about several failures embed.
-/

namespace SfuLoad.Model

open Kit.Outcomes

/-- The chain of an error, the outermost context first. -/
structure Fault where
  causes : List String
deriving DecidableEq

namespace Fault

/-- A failure without a context. -/
def msg (message : String) : Fault := ⟨[message]⟩

/-- A context is put in front of those there are. -/
def context (self : Fault) (message : String) : Fault := ⟨message :: self.causes⟩

/-- The whole chain on one line. -/
def text (self : Fault) : String := ": ".intercalate self.causes

/-- Two failures in one message. -/
def also (subject conjunction : String) (first second : Fault) : Fault :=
  msg (subject ++ first.text ++ conjunction ++ second.text)

/-- The part's text can be read in this failure's text. -/
def Shows (self part : Fault) : Prop := part.text.toList <:+: self.text.toList

/-- A bare message displays as itself. -/
theorem text_msg (message : String) : (msg message).text = message := by
  rw [text, msg, String.intercalate_singleton]

/-- A joined message shows both failures, whatever words stand around them. -/
theorem keeps_also (subject conjunction : String) : Keeps (also subject conjunction) Shows where
  refl _ := List.infix_refl _
  trans outer inner := List.IsInfix.trans inner outer
  left first second := by
    refine ⟨subject.toList, (conjunction ++ second.text).toList, ?_⟩
    rw [also, text_msg]
    simp only [String.toList_append, List.append_assoc]
  right first second := by
    refine ⟨(subject ++ first.text ++ conjunction).toList, [], ?_⟩
    rw [also, text_msg]
    simp only [String.toList_append, List.append_assoc, List.append_nil]

end Fault

/-- The failures of a call, under the context the source gives them. -/
def withContext {α : Type} (message : String) (io : Except Fault α) : Except Fault α :=
  io.mapError (·.context message)

/-- A success needs no context. -/
@[simp] theorem withContext_ok {α : Type} (message : String) (value : α) :
    withContext message (.ok value) = .ok value := rfl

/-- A failure is given the context. -/
@[simp] theorem withContext_error {α : Type} (message : String) (failure : Fault) :
    withContext message (.error failure : Except Fault α) = .error (failure.context message) := rfl

end SfuLoad.Model

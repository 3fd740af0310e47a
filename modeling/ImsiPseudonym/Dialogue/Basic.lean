import ImsiPseudonym.Aka
import ImsiPseudonym.Failure
import ImsiPseudonym.ServerUrl
import ImsiPseudonym.Json.Printer

/-!
Dialogues with a server and a SIM, as data: each is finished, or sends a request and goes on with
whatever comes back, or asks the SIM and goes on with its answer.  Nothing is said about the two
partners, so that a law about a dialogue holds whatever they do.
-/
namespace ImsiPseudonym

/-- A request to a server. -/
structure Request where
  server : ServerUrl
  body : Json.Value

/-- The text that is sent. -/
def Request.bodyText (r : Request) : String :=
  r.body.compact

/-- What a server sends back: a body, or the reason why the exchange broke off. -/
abbrev Reply := Except TransportError String

/-- What a SIM says to a challenge; none if it cannot be asked. -/
abbrev SimAnswer := Option AkaResponse

inductive Dialogue (α : Type) where
  | done (result : α)
  | send (request : Request) (next : Reply → Dialogue α)
  | ask (challenge : String) (next : SimAnswer → Dialogue α)

namespace Dialogue

variable {α β γ : Type}

/-- Goes on with a second dialogue once the first is finished. -/
def andThen (f : α → Dialogue β) : Dialogue α → Dialogue β
  | .done result => f result
  | .send request next => .send request fun reply => (next reply).andThen f
  | .ask challenge next => .ask challenge fun answer => (next answer).andThen f

instance : Monad Dialogue where
  pure := .done
  bind d f := d.andThen f

/-- Sends one request. -/
def request (r : Request) : Dialogue Reply := .send r .done

/-- Puts one challenge to the SIM. -/
def query (challenge : String) : Dialogue SimAnswer := .ask challenge .done

@[simp] theorem pure_eq (a : α) : (pure a : Dialogue α) = .done a := rfl

@[simp] theorem done_bind (a : α) (f : α → Dialogue β) : (Dialogue.done a >>= f) = f a := rfl

@[simp] theorem send_bind (r : Request) (next : Reply → Dialogue α) (f : α → Dialogue β) :
    (Dialogue.send r next >>= f) = .send r fun reply => next reply >>= f := rfl

@[simp] theorem ask_bind (c : String) (next : SimAnswer → Dialogue α) (f : α → Dialogue β) :
    (Dialogue.ask c next >>= f) = .ask c fun answer => next answer >>= f := rfl

@[simp] theorem request_bind (r : Request) (f : Reply → Dialogue β) :
    (request r >>= f) = .send r f := rfl

@[simp] theorem query_bind (c : String) (f : SimAnswer → Dialogue β) :
    (query c >>= f) = .ask c f := rfl

private theorem andThen_done (d : Dialogue α) : d.andThen (fun a => .done a) = d := by
  induction d with
  | done a => rfl
  | send r next ih => exact congrArg (Dialogue.send r) (funext ih)
  | ask c next ih => exact congrArg (Dialogue.ask c) (funext ih)

private theorem andThen_assoc (d : Dialogue α) (f : α → Dialogue β) (g : β → Dialogue γ) :
    (d.andThen f).andThen g = d.andThen fun a => (f a).andThen g := by
  induction d with
  | done a => rfl
  | send r next ih => exact congrArg (Dialogue.send r) (funext ih)
  | ask c next ih => exact congrArg (Dialogue.ask c) (funext ih)

instance : LawfulMonad Dialogue :=
  LawfulMonad.mk' Dialogue andThen_done (fun _ _ => rfl) andThen_assoc

end Dialogue
end ImsiPseudonym

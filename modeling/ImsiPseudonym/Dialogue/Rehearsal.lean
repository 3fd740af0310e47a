import ImsiPseudonym.Dialogue.Basic

/-!
Dialogues played against given partners: a server whose replies are laid down in advance, and a SIM
whose answers depend on how often it has been asked.  The outcome comes with a transcript of all that
was said.
-/
namespace ImsiPseudonym

/-- What a SIM does when it is asked: it answers, or the program that asks it breaks down. -/
inductive SimReaction where
  | answers (answer : SimAnswer)
  | breaksDown

/-- A server and a SIM. -/
structure Partners where
  replies : List Reply
  afterwards : Reply
  /-- The reaction to a challenge, by the number of challenges before it. -/
  sim : Nat → String → SimReaction
  /-- How many challenges there have been. -/
  asked : Nat

namespace Partners

def reply (p : Partners) : Reply × Partners :=
  match p.replies with
  | [] => (p.afterwards, p)
  | first :: rest => (first, { p with replies := rest })

def react (p : Partners) (challenge : String) : SimReaction × Partners :=
  (p.sim p.asked challenge, { p with asked := p.asked + 1 })

end Partners

/-- One thing that was said in a dialogue. -/
inductive Turn where
  | sent (request : Request) (reply : Reply)
  | asked (challenge : String) (reaction : SimReaction)

namespace Turn

def request? : Turn → Option Request
  | .sent request _ => some request
  | .asked .. => none

def challenge? : Turn → Option String
  | .sent .. => none
  | .asked challenge _ => some challenge

end Turn

/-- A dialogue that was played: its result, unless it broke down, all turns in order, and the
partners afterwards. -/
structure Played (α : Type) where
  result : Option α
  turns : List Turn
  partners : Partners

namespace Played

variable {α : Type}

def requests (p : Played α) : List Request := p.turns.filterMap Turn.request?

def challenges (p : Played α) : List String := p.turns.filterMap Turn.challenge?

def after (turn : Turn) (p : Played α) : Played α := { p with turns := turn :: p.turns }

end Played

namespace Dialogue

variable {α β : Type}

def play : Dialogue α → Partners → Played α
  | .done result, partners => ⟨some result, [], partners⟩
  | .send request next, partners =>
    let (reply, partners) := partners.reply
    ((next reply).play partners).after (.sent request reply)
  | .ask challenge next, partners =>
    let (reaction, partners) := partners.react challenge
    match reaction with
    | .breaksDown => ⟨none, [.asked challenge .breaksDown], partners⟩
    | .answers answer => ((next answer).play partners).after (.asked challenge (.answers answer))

end Dialogue
end ImsiPseudonym

import ServiceBus.Message

/-
ServiceBus.Transport — channels that messages are sent through.

A channel follows a script: what it does with each send is an outcome taken
from the list of the address, else from the common list, else the standing
one. It keeps every message it was given, and changes a message only where it
delivers it.
-/
namespace ServiceBus

/-- A failure as the channel reports it. -/
structure TransportFault where
  code : Option Int32 := none
  message : Option String := none
  detail : Option String := none
deriving Repr, DecidableEq, Inhabited

namespace TransportFault

/-- The text of a fault. -/
def text (f : TransportFault) : String :=
  let code := match f.code with
    | some c => "Some(" ++ String.ofList (ErrorCodes.codeText c) ++ ")"
    | none => "None"
  "transport fault (code=" ++ code ++ "): " ++ f.message.getD "no message"

end TransportFault

/-- What a channel does with one send. -/
inductive Outcome where
  | success
  /-- Succeeds, and the reply replaces the body. -/
  | respond (payload : Payload)
  | fault (fault : TransportFault)
  /-- Never ends. -/
  | hang
  | after (delay : Nat) (outcome : Outcome)
deriving Inhabited

/-- A message as a channel was given it. -/
structure SentMessage where
  address : Option String
  message : Message
deriving Inhabited

/-- A scripted channel. -/
structure Transport where
  script : List Outcome := []
  byAddress : Dict (List Outcome) := ∅
  standing : Outcome := .success
  /-- What happens to the message after the first, second, … send that
  succeeds. -/
  edits : List (List (Edit Mediator)) := []
  /-- The number of sends so far. -/
  sends : Nat := 0
  /-- The messages sent, latest first. -/
  sent : List SentMessage := []
deriving Inhabited

namespace Transport

/-- The outcome of the next send to an address. -/
def nextOutcome (t : Transport) (address : Option String) : Outcome × Transport :=
  let fromScript : Outcome × Transport :=
    match t.script with
    | o :: rest => (o, { t with script := rest })
    | [] => (t.standing, t)
  match address with
  | none => fromScript
  | some a =>
    match t.byAddress.get? a with
    | some (o :: rest) => (o, { t with byAddress := t.byAddress.insert a rest })
    | _ => fromScript

/-- Takes a message: notes it and settles what becomes of it. -/
def accept (t : Transport) (address : Option String) (m : Message) : Outcome × Transport :=
  let t := { t with sent := ⟨address, m⟩ :: t.sent, sends := t.sends + 1 }
  t.nextOutcome address

/-- The messages sent, in order. -/
def calls (t : Transport) : List SentMessage := t.sent.reverse

/-- Adds an outcome at the end of the common list. -/
def push (t : Transport) (o : Outcome) : Transport := { t with script := t.script ++ [o] }

/-- Forgets the messages sent and all lists of outcomes. -/
def clear (t : Transport) : Transport := { t with sent := [], script := [], byAddress := ∅ }

end Transport

end ServiceBus

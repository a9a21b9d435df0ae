import Telecontrol.Connection.Step
import Telecontrol.Primary.Step
import Telecontrol.Secondary.Step

/-!
# Stations that run

A running station is a station together with the commands that wait for it. Commands are taken in
the order in which they were handed over. When several things are ready at once, arrived octets go
before commands and commands before timers.
-/

namespace Telecontrol

/-- A station and the commands that wait for it. -/
inductive Station
  | connection (c : Connection) (mail : List Connection.Command)
  | secondary (s : Secondary) (mail : List Secondary.Command)
  | primary (p : Primary) (mail : List Primary.Command)
deriving DecidableEq, Repr

namespace Station

/-- What one turn of a station brings about. -/
structure Result where
  station : Station
  inbox : Inbox
  output : List (Output Unit)
  ending : Option CloseReason

def connectionResult (mail : List Connection.Command) (inbox : Inbox) (t : Connection.Turn) :
    Result :=
  ⟨.connection t.state mail, inbox, t.output.map Output.bare, t.ending⟩

def secondaryResult (mail : List Secondary.Command) (inbox : Inbox) (t : Secondary.Turn) :
    Result :=
  ⟨.secondary t.state mail, inbox, t.output.map Output.bare, t.ending⟩

def primaryResult (mail : List Primary.Command) (inbox : Inbox) (t : Primary.Turn) : Result :=
  ⟨.primary t.state mail, inbox, t.output.map Output.bare, t.ending⟩

def isDue (now : Nat) (deadline : Option Nat) : Bool := deadline.any (· ≤ now)

def turnConnection (m : Moment) (abandoned : Bool) (inbox : Inbox) (c : Connection)
    (mail : List Connection.Command) : Option Result :=
  match inbox.take (Apdu.reader c.widths), mail with
  | some (arrival, inbox), _ => some (connectionResult mail inbox (c.step m (.arrival arrival)))
  | none, command :: mail => some (connectionResult mail inbox (c.step m (.command command)))
  | none, [] =>
    if abandoned then some (connectionResult [] inbox (c.step m .abandoned))
    else
      (Connection.Timer.all.find? fun timer => isDue m.now (c.deadline timer)).map fun timer =>
        connectionResult [] inbox (c.step m (.timer timer))

def turnSecondary (m : Moment) (abandoned : Bool) (inbox : Inbox) (s : Secondary)
    (mail : List Secondary.Command) : Option Result :=
  match s.take inbox, mail with
  | some (input, inbox), _ => some (secondaryResult mail inbox (s.step m input))
  | none, command :: mail => some (secondaryResult mail inbox (s.step m (.command command)))
  | none, [] =>
    if abandoned then some (secondaryResult [] inbox (s.step m .abandoned)) else none

/-- The primary station takes commands only when it is idle, and reads nothing while it pauses. -/
def turnPrimary (m : Moment) (abandoned : Bool) (inbox : Inbox) (p : Primary)
    (mail : List Primary.Command) : Option Result :=
  match if p.isListening then p.take inbox else none with
  | some (input, inbox) => some (primaryResult mail inbox (p.step m input))
  | none =>
    match mail, p.isIdle with
    | command :: mail, true => some (primaryResult mail inbox (p.step m (.command command)))
    | _, idle =>
      if idle && abandoned then some (primaryResult mail inbox (p.step m .abandoned))
      else if isDue m.now p.deadline then some (primaryResult mail inbox (p.step m .deadline))
      else none

/-- The next turn of a station, if anything is ready. -/
def turn (m : Moment) (abandoned : Bool) (inbox : Inbox) : Station → Option Result
  | connection c mail => turnConnection m abandoned inbox c mail
  | secondary s mail => turnSecondary m abandoned inbox s mail
  | primary p mail => turnPrimary m abandoned inbox p mail

/-- When a station has to act if nothing happens before. -/
def deadline : Station → Option Nat
  | connection c _ => (Connection.Timer.all.filterMap c.deadline).min?
  | secondary .. => none
  | primary p _ => p.deadline

def refuse (requests : List Nat) : List (Output Unit) :=
  requests.map fun request => .answered request (.refused .notConnected)

/-- The end of a station. Commands that still wait are refused. -/
def close (reason : CloseReason) : Station → Station × List (Output Unit)
  | connection c mail =>
    let (c, output) := c.close reason
    (.connection c [],
      refuse (mail.filterMap Connection.Command.request?) ++ output.map Output.bare)
  | secondary s mail =>
    let (s, output) := s.close reason
    (.secondary s [],
      refuse (mail.filterMap Secondary.Command.request?) ++ output.map Output.bare)
  | primary p mail =>
    let (p, output) := p.close reason
    (.primary p [], refuse (mail.filterMap Primary.Command.request?) ++ output.map Output.bare)

/-- Requests that an application makes of a station. -/
inductive Request
  | startTransfer
  | stopTransfer
  | send (asdu : Asdu)
  | sendTo (address : Nat) (asdu : Asdu)
  | noReply (address : Nat) (asdu : Asdu)
  | broadcast (asdu : Asdu)
  | linkStates
deriving DecidableEq, Repr

/-- Puts the command for a request behind the commands that wait. A request that is refused before
it becomes a command, or that the station does not know, changes nothing. -/
def post (number : Nat) (request : Request) (station : Station) :
    Option (Except Fault Station) :=
  match station, request with
  | connection c mail, .startTransfer =>
    some (.ok (.connection c (mail ++ [.startTransfer number])))
  | connection c mail, .stopTransfer =>
    some (.ok (.connection c (mail ++ [.stopTransfer number])))
  | connection c mail, .send asdu =>
    some (.ok (.connection c (mail ++ [.send asdu number])))
  | secondary s mail, .send asdu =>
    some ((Secondary.commandOf s.link s.widths asdu number).map fun command =>
      .secondary s (mail ++ [command]))
  | primary p mail, .send asdu =>
    p.peers.head?.map fun peer =>
      (Primary.sendCommand p.link p.widths peer.address asdu number).map fun command =>
        .primary p (mail ++ [command])
  | primary p mail, .sendTo address asdu =>
    some ((Primary.sendCommand p.link p.widths address asdu number).map fun command =>
      .primary p (mail ++ [command]))
  | primary p mail, .noReply address asdu =>
    some ((Primary.noReplyCommand p.link p.widths address asdu number).map fun command =>
      .primary p (mail ++ [command]))
  | primary p mail, .broadcast asdu =>
    some ((Primary.broadcastCommand p.link p.widths asdu number).map fun command =>
      .primary p (mail ++ [command]))
  | primary p mail, .linkStates => some (.ok (.primary p (mail ++ [.linkStates number])))
  | _, _ => none

/-- Asks a station to end, after the commands that wait. -/
def postClose : Station → Station
  | connection c mail => .connection c (mail ++ [.close])
  | secondary s mail => .secondary s (mail ++ [.close])
  | primary p mail => .primary p (mail ++ [.close])

end Station

end Telecontrol

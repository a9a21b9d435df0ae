import Telecontrol.Asdu.Basic

/-!
# Commands of a controlling station

A command is an ASDU of one row that activates something at the controlled station. The read command
is a request instead, and its row is empty.
-/

namespace Telecontrol.Asdu

/-- A command of one row. -/
def command (type : TypeId) (commonAddress address : Nat) (row : Row) : Except Fault Asdu :=
  (empty type .activation commonAddress).push (.single address row)

def interrogationCommand (commonAddress : Nat) (q : InterrogationQualifier) :
    Except Fault Asdu :=
  command .interrogationCommand commonAddress 0 [.interrogation q]

def counterInterrogationCommand (commonAddress : Nat) (q : CounterQualifier) :
    Except Fault Asdu :=
  command .counterInterrogation commonAddress 0 [.counterInterrogation q]

def clockSyncCommand (commonAddress : Nat) (time : Cp56) : Except Fault Asdu :=
  command .clockSync commonAddress 0 [.time56 time]

def readCommand (commonAddress address : Nat) : Except Fault Asdu :=
  (empty .readCommand .request commonAddress).push (.single address [])

/-- Asks for everything that a station has. -/
def stationInterrogation (commonAddress : Nat) : Except Fault Asdu :=
  interrogationCommand commonAddress .station

/-- Switches a single point, or only selects it. -/
def singleCommand (commonAddress address : Nat) (on select : Bool) : Except Fault Asdu := do
  let element ← SingleCommand.make on select 0
  command .singleCommand commonAddress address [.singleCommand element]

/-- Switches a double point, or only selects it. -/
def doubleCommand (commonAddress address : Nat) (state : DoubleCommandState) (select : Bool) :
    Except Fault Asdu := do
  let element ← DoubleCommand.make state select 0
  command .doubleCommand commonAddress address [.doubleCommand element]

/-- Sets a set-point, or only selects it. -/
def setpointFloat (commonAddress address : Nat) (value : Binary32) (select : Bool) :
    Except Fault Asdu := do
  let qualifier ← SetpointQualifier.make 0 select
  command .setpointFloat commonAddress address [.float value, .setpointQualifier qualifier]

end Telecontrol.Asdu

import DungeonCrawler.Client.CommandRouter

/-!
The controller of the client: what a typed line and a pressed key are turned into.
-/

namespace DungeonCrawler

namespace Ui

/-- The command of a key, whose case does not matter. -/
def commandFromKey (key : Char) : Option Text :=
  match key.toLower with
  | 'w' => some "MOVE UP".toList
  | 'a' => some "MOVE LEFT".toList
  | 's' => some "MOVE DOWN".toList
  | 'd' => some "MOVE RIGHT".toList
  | 'x' => some "ATTACK".toList
  | '1' => some "JOIN 12345".toList
  | '2' => some "CREATE_LOBBY".toList
  | '3' => some []
  | '4' => some []
  | '5' => some "START_GAME".toList
  | '6' => some []
  | '7' => some "EXIT".toList
  | _ => none

end Ui

namespace ClientController

open Ui

/-- The lines put out, and the message given to the client, if there is one. -/
def sendCommand (lib : Libcbor) (line : Text) : Routed := routeCommand lib line

def onStdinLine (lib : Libcbor) (line : Text) : Routed :=
  match sendCommand lib line with
  | (output, none) => (output ++ ["Failed to send command".toList], none)
  | (output, some message) => (output, some message)

def onKeyPressed (lib : Libcbor) (key : Char) : Routed :=
  match commandFromKey key with
  | some cmd => sendCommand lib cmd
  | none => ([], none)

/-- The message a command makes the client send. -/
def message (lib : Libcbor) (command : Text) : Option ByteBuffer := (routeCommand lib command).2

/-- The lines that are the commands of a key, none or one. -/
def keyCommands (key : Char) : List Text := (commandFromKey key).toList

variable (lib : Libcbor)

lemma onStdinLine_message (line : Text) : (onStdinLine lib line).2 = message lib line := by
  unfold onStdinLine message sendCommand
  split <;> rename_i h <;> rw [h]

lemma onKeyPressed_message (key : Char) :
    (onKeyPressed lib key).2 = (commandFromKey key).bind (message lib) := by
  unfold onKeyPressed
  split <;> rename_i h <;> rw [h] <;> rfl

end ClientController

end DungeonCrawler

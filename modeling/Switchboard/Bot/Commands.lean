import Switchboard.Exchange

/-!
# A bot that answers commands

Each line of input is an update in JSON. The commands are found in the text of its message.

    /start              a welcome
    /ban user [time]    a ban, which nothing else reacts to
    /echo text          the text
    anything else       a complaint, if the update has a message

The bot emits the lines that it prints.
-/

namespace Switchboard.Bot

/-! ## Commands -/

def start : Handler String := .ofParameters [.payload] fun
  | [.payload p] =>
    let name := (p.string? "message.from.first_name").getD "stranger"
    (.unit, ["Welcome, " ++ name ++ "! Try /echo or /ban."])
  | _ => (.unit, [])

def ban : Handler String := .ofParameters [.string, .optional .string] fun
  | [.string user, .present (.string time)] =>
    (.bool false, ["Banned " ++ user ++ " for " ++ time])
  | [.string user, _] => (.bool false, ["Banned " ++ user ++ " permanently"])
  | _ => (.bool false, [])

def echo : Handler String := .ofParameters [.string] fun
  | [.string text] => (.unit, [text])
  | _ => (.unit, [])

def unknown : Handler String := .ofParameters [.payload] fun
  | [.payload p] =>
    (.unit, ["Unknown command: " ++ Quoted.quoted ((p.string? "message.text").getD "")])
  | _ => (.unit, [])

/-- The name under which bans are found. -/
def banName : String := "Moderation.ban"

/-- A pattern for the text of the message. -/
def textPattern (expected : String) : Pattern := ⟨[.keyValue "message.text" (.string expected)]⟩

/-- A callback of the bot's own. -/
def callback (handler : Handler String) : Callback String := .handler "command" handler

/-- The exchange in which bans are found. -/
def withBans (x : Exchange String) : Exchange String := x.register banName ban

/-- The dispatcher of the bot. The two hooks that the bot registers as well are left out: they write
to the log and nothing else, and neither stops a run. -/
def dispatcher (x : Exchange String) : Dispatcher String :=
  x.dispatcher
    |>.on (textPattern "/start") (callback start)
    |>.on (textPattern "/ban {user} {:time?}") (.symbol banName) 100
    |>.on (textPattern "/echo {text}") (callback echo)
    |>.fallback ["message"] (callback unknown)

/-! ## Lines -/

/-- Dispatches one line; the result says whether that went well. -/
def answer [Regex.Capacity] (x : Exchange String) (d : Dispatcher String) (line : String) :
    Bool × List String × Dispatcher String :=
  match d.setPayload (Payload.ofText line) with
  | (.error _, d) => (false, [], d)
  | (.ok _, d) =>
    let (result, progress, d) := d.run x.directory
    match result with
    | .ok _ => (true, progress.emitted, d)
    | .error _ => (false, progress.emitted, d)

/-- The lines printed for lines of input, the first of which has this number. The number of a line
that failed comes back if the bot is to stop there. -/
def answers [Regex.Capacity] (x : Exchange String) (failFast : Bool) :
    Nat → Dispatcher String → List String → List String × Option Nat
  | _, _, [] => ([], none)
  | number, d, line :: rest =>
    if line.toList.all isBlank then answers x failFast (number + 1) d rest
    else
      let (fine, printed, d) := answer x d line
      if failFast && !fine then (printed, some number)
      else
        let (more, failed) := answers x failFast (number + 1) d rest
        (printed ++ more, failed)

end Switchboard.Bot

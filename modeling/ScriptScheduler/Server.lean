import ScriptScheduler.Json.Parser
import ScriptScheduler.Scheduler.Control
import ScriptScheduler.Scheduler.Pass

/-!
# The server loop

A server launches program files and drives the scheduler on a simulated clock: a pass, a look at
the sleepers, then an idle wait. It goes on until no script is live, nothing can wake a script, or
a given number of ticks is over; then it shuts the scheduler down.
-/

namespace ScriptScheduler

/-! ### Program files -/

/-- Why a program file could not be launched. -/
inductive LaunchError where
  | unreadable (file : String)
  | malformed (file : String)
  | refused (file : String) (cause : SchedulerError)

namespace LaunchError

/-- The text about a program file that could not be launched. -/
def message : LaunchError → String
  | .unreadable file => "Failed to read program " ++ file
  | .malformed file => "Failed to parse program " ++ file
  | .refused file _ => "Failed to start " ++ file

/-- The refusal behind a failed launch. -/
def cause? : LaunchError → Option SchedulerError
  | .refused _ cause => some cause
  | _ => none

end LaunchError

/-- The program in a file, given the text of the file if it can be read. -/
def Program.ofFile (file : String) (text : Option String) : Except LaunchError Program :=
  match text with
  | none => .error (.unreadable file)
  | some text =>
    match (Json.scan? text).bind Program.ofJson? with
    | some program => .ok program
    | none => .error (.malformed file)

namespace Scheduler

/-- Launches the program in a file. -/
def launchFile (s : Scheduler) (file : String) (text : Option String) :
    Except LaunchError (Logged Scheduler) :=
  match Program.ofFile file text with
  | .error cause => .error cause
  | .ok program =>
    match s.startScript program with
    | .error refusal => .error (.refused file refusal.cause)
    | .ok launched => .ok do
      let (pid, s) ← launched
      Logged.tell (.fileLoaded pid file)
      pure s

/-- Launches the programs in files. If one cannot be launched, those before it are ended. -/
def launchFiles : List (String × Option String) → Scheduler →
    Logged (Except LaunchError Scheduler)
  | [], s => pure (.ok s)
  | (file, text) :: rest, s =>
    match s.launchFile file text with
    | .ok launched => do
      let s ← launched
      launchFiles rest s
    | .error cause => do
      let _ ← s.shutdown
      pure (.error cause)

end Scheduler

/-! ### Ticks -/

/-- A scheduler on a simulated clock. -/
structure Server where
  scheduler : Scheduler
  now : Nat := 0
  ticks : Nat := 0

/-- What follows a tick. -/
inductive Turn where
  /-- The server stops. -/
  | stop
  /-- The server idles before the next tick. -/
  | idle (ms : Nat)

namespace Server

/-- Whether no more ticks are allowed. -/
def atLimit (server : Server) (maxTicks : Option Nat) : Bool :=
  match maxTicks with
  | some limit => limit ≤ server.ticks
  | none => false

/-- How the server goes on after a pass and a look at the sleepers; `left` is what remains of the
longest idle wait. -/
def afterPass (config : ServerConfig) (server : Server) (left : Nat) : Logged Turn :=
  match server.scheduler.clocksLeft server.now with
  | some 0 => pure (.idle config.tickMs)
  | some distance => pure (.idle (min distance left))
  | none =>
    if 0 < server.scheduler.external.length then pure (.idle config.tickMs)
    else if server.scheduler.isEmpty then pure .stop
    else do
      Logged.tell (.nothingToWake server.scheduler.size)
      pure .stop

/-- One tick. Without a result a script has used up the patience. -/
def tick (config : ServerConfig) (patience : Nat) (server : Server) :
    Option (Logged (Turn × Server)) :=
  (server.scheduler.runReady patience server.now).map fun pass => do
    let s ← pass
    let (left, s) ← s.checkBlocked server.now config.idleClocks
    let server := { server with scheduler := s }
    let turn ← afterPass config server left
    pure (turn, server)

/-- The server after an idle wait. -/
def advance (server : Server) (ms : Nat) : Server :=
  { server with now := server.now + ms, ticks := server.ticks + 1 }

/-- What the server does next: stop, or a tick. -/
def turn (config : ServerConfig) (maxTicks : Option Nat) (patience : Nat) (server : Server) :
    Option (Logged (Turn × Server)) :=
  if server.scheduler.isEmpty then some (pure (.stop, server))
  else if server.atLimit maxTicks then some do
    Logged.tell (.tickLimit server.ticks server.scheduler.size)
    pure (.stop, server)
  else server.tick config patience

/-- Runs turns until the server stops. Without a result it has not stopped after `turns` turns, or
a script has used up the patience. -/
def runTurns (config : ServerConfig) (maxTicks : Option Nat) (patience : Nat) :
    Nat → Array Entry → Server → Option (Logged Server)
  | 0, _, _ => none
  | turns + 1, told, server =>
    match server.turn config maxTicks patience with
    | none => none
    | some ran =>
      let told := told ++ ran.entries
      match ran.value with
      | (.stop, server) => some ⟨server, told.toList⟩
      | (.idle ms, server) => runTurns config maxTicks patience turns told (server.advance ms)

/-- The exit records of all scripts, after the scheduler has been shut down. -/
def finish (server : Server) : Logged (List ScriptExit) := do
  let s ← server.scheduler.shutdown
  pure s.exits

end Server

/-- The outcome of a run of program files: the exit records and the time spent idle. -/
structure RunReport where
  exits : List ScriptExit
  slept : Nat

/-- Launches program files and runs them to the end. -/
def runFiles (config : Config) (files : List (String × Option String)) (maxTicks : Option Nat)
    (patience : Nat) : Option (Logged (Except LaunchError RunReport)) :=
  let launched := Scheduler.launchFiles files (.empty config.scheduler none)
  match launched.value with
  | .error cause => some ⟨.error cause, launched.entries⟩
  | .ok s =>
    (Server.runTurns config.server maxTicks patience patience #[] { scheduler := s }).map
      fun ran =>
        let ended := ran.value.finish
        ⟨.ok ⟨ended.value, ran.value.now⟩, launched.entries ++ ran.entries ++ ended.entries⟩

end ScriptScheduler

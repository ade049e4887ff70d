/-
Module: ServerDriven.Main
Purpose: The client as a program: the machine that it runs on, and its entry.
Main exports:
  main
-/
import ServerDriven.CommandLine
import ServerDriven.Http.Wire
import ServerDriven.Session.Token
import Std.Async.DNS
import Std.Async.TCP
import Std.Async.Timer

namespace ServerDriven.Program

open Std.Async

/-! ### The network -/

/-- All that arrives on a connection until it is closed. -/
partial def drain (socket : TCP.Socket.Client) (read : ByteArray) : Async ByteArray := do
  match ← socket.recv? 65536 with
  | some bytes => drain socket (read ++ bytes)
  | none => return read

/-- What comes of an action, or nothing if that takes too long. -/
def within (limit : Duration) (action : Async (Option ByteArray)) : Async (Option ByteArray) :=
  Async.race action do
    sleep (.ofNat limit.ceilMillis)
    return none

/-- The address of a host. -/
def resolve (host : Host) (port : UInt16) : Async (Option Std.Net.SocketAddress) := do
  let name := match host with
    | .address6 pieces => Host.address6Text pieces
    | host => host.text
  match (← DNS.getAddrInfo name (toString port)).toList with
  | .v4 address :: _ => return some (.v4 ⟨address, port⟩)
  | .v6 address :: _ => return some (.v6 ⟨address, port⟩)
  | [] => return none

/-- Send a request on a connection of its own. -/
def ask (config : Config) (request : HttpRequest) : Async (Option ByteArray) := do
  match request.url.authority with
  | none => return none
  | some authority =>
    let port := UInt16.ofNat (authority.port.getD 80)
    match ← resolve authority.host port with
    | none => return none
    | some address =>
      let socket ← TCP.Socket.Client.mk
      let connected ← within config.connectTimeout do
        socket.connect address
        return some .empty
      if connected.isNone then return none
      socket.send request.wire.toUTF8
      return some (← drain socket .empty)

/-- Requests over plain connections.  A server that wants encryption stays unanswered. -/
def transport (config : Config) : Transport IO := fun request => do
  if request.url.scheme != "http" then return .unanswered
  try
    match ← (within config.requestTimeout (ask config request)).block with
    | some bytes => return .ofBytes bytes.toList
    | none => return .unanswered
  catch _ => return .unanswered

/-! ### Files -/

def readMedium (path : String) : IO Medium := do
  try return { content := some (← IO.FS.readFile path) }
  catch _ => return {}

/-- Bring a file up to date; one that cannot be written stays as it is. -/
def writeMedium (path : String) (medium : Medium) : IO Unit := do
  let before ← readMedium path
  match medium.content with
  | none => return
  | some text =>
    if before.content == some text then return
    try
      match Medium.directory? path with
      | some directory => IO.FS.createDirAll directory
      | none => pure ()
      IO.FS.writeFile path text
    catch _ => return

/-! ### The program -/

/-- A number that nobody can foresee. -/
def seed : IO Nat := do
  return (← IO.getRandomBytes 16).toList.foldl (fun n b => 256 * n + b.toNat) 0

/-- The settings that are there. -/
def settings : IO (String → Option String) := do
  let values ← Config.allSettings.mapM fun name => return (name, ← IO.getEnv name)
  return fun name => (values.lookup name).join

/-- Run the client and say what came of it. -/
def run (args : List String) : IO UInt32 := do
  let setting ← settings
  let seed ← seed
  let machine : Machine IO := {
    setting
    medium := fun path => readMedium (path.getD (Config.customaryStoragePath setting))
    transport
    pause := fun d => IO.sleep (UInt32.ofNat (min d.ceilMillis (UInt32.size - 1)))
    fresh := Token.ofSeed seed }
  let report ← CommandLine.run machine args
  match report.file with
  | some medium => writeMedium (Config.storagePathIn setting) medium
  | none => pure ()
  IO.print report.stdout
  IO.eprint report.stderr
  return UInt32.ofNat report.exitCode

end ServerDriven.Program

def main (args : List String) : IO UInt32 := ServerDriven.Program.run args

import Fingerprint.CommandLine.Run
import Std.Time.Zoned

/-! # The program

Takes a picture of the machine, runs the command line on it and passes on what came of it. The
picture holds the files that the arguments, the search for a config file and the log file can lead
to, the environment, and standard input where the task reads it. -/
set_option autoImplicit false
namespace Fingerprint.Program

/-- The fault with a number of the system, which may come with its sign turned. -/
def faultOfNumber (path : Text) (number : UInt32) (reason : String) : Fault :=
  let n := if number < 0x80000000 then number.toNat else (0 - number).toNat
  match n with
  | 2 => .notFound path
  | 13 => .onPath 13 "Permission denied" path
  | 20 => .notDirectory path
  | 21 => .isDirectory path
  | 36 => .nameTooLong path
  | n => .onPath n (.ofString reason) path

def faultOf (path : Text) : IO.Error → Fault
  | .noFileOrDirectory _ number reason | .permissionDenied _ number reason
  | .inappropriateType _ number reason | .invalidArgument _ number reason =>
    faultOfNumber path number reason
  | .otherError number reason => faultOfNumber path number reason
  | e => .onPath 5 (.ofString e.toString) path

def probe (path : Text) : IO (Except Fault DiskEntry) := do
  match path.toString? with
  | none => return .error (.notFound path)
  | some place =>
    match ← (IO.FS.readBinFile place).toBaseIO with
    | .ok content => return .ok (.file content.toList)
    | .error e =>
      let fault := faultOf path e
      return if fault.kind = .isDirectory then .ok .directory else .error fault

/-- Enters what the machine holds at a path into the picture, from the top down. A fault that the
picture itself would not show is kept for the path. -/
def enter (h : Host) (path : Text) : IO Host := do
  let place := (h.directory.within (Path.ofText path)).collapsed
  let mut disk := h.disk
  for ancestor in place.chain.reverse do
    match ← probe ancestor.text with
    | .ok entry => disk := disk.put (Disk.locationOf ancestor) entry
    | .error f =>
      let told := f.kind = .notFound || f.kind = .notDirectory
      let devices := if told then h.devices else (path, .refused f) :: h.devices
      return { h with disk, devices }
  return { h with disk }

def paths (s : Session) (args : List Text) : List Text :=
  let named := args.flatMap fun arg => [arg, ((Text.splitFirst? "=" arg).map Prod.snd).getD arg]
  let sought := s.host.directory.chain.flatMap fun d =>
    [Settings.configPath d, d.child Settings.projectFileName]
  named ++ sought.map Path.text

/-- The log file and the files put aside, which a run can change. -/
def logFiles (s : Session) : List Text :=
  let path := s.logFile.text
  path :: (List.range LogFile.kept).map fun n => LogFile.aside path (n + 1)

def clockText : IO Text := do
  let now ← Std.Time.PlainDateTime.now
  let two (n : Int) : Text := Text.ofDigits 10 2 n.toNat
  return Text.concat [Text.ofInt now.year, "-", two now.month.val, "-", two now.day.val, " ",
    two now.hour.val, ":", two now.minute.val, ":", two now.second.val]

def takePicture (args : List Text) : IO Session := do
  let directory := Path.ofText (.ofString (← IO.currentDir).toString)
  let home := Path.ofText (.ofString ((← IO.getEnv "HOME").getD "/"))
  let mut host : Host := ⟨Disk.empty, directory, [], []⟩
  for name in Settings.variableNames do
    if let some v ← IO.getEnv (name.toString?.getD "") then
      host := host.setVariable name (.ofString v)
  let s := Session.onHost host home (← clockText)
  for path in paths s args ++ logFiles s do
    host ← enter host path
  return { s with host }

def keepLogs (before after : Session) : IO Unit := do
  for path in logFiles before do
    let content := after.host.disk.content? LogFile.root path
    if content ≠ before.host.disk.content? LogFile.root path then
      match path.toString?, (before.logFile.parent).text.toString?, content with
      | some place, some directory, some content => do
        IO.FS.createDirAll directory
        IO.FS.writeBinFile place ⟨content.toArray⟩
      | _, _, _ => pure ()

def emit (stream : IO.FS.Stream) (t : Text) : IO Unit :=
  match Utf8.encodeEscaped t with
  | .ok bytes => stream.write ⟨bytes.toArray⟩
  | .error _ => pure ()

def lastWords : Error → Text
  | .failure f => f.text
  | .fault f => f.text
  | .invalid issues => Text.join ", " (issues.map fun (place, _) => Text.join "." place)
  | .unparsable name => name

end Fingerprint.Program

open Fingerprint Fingerprint.Program in
def main (arguments : List String) : IO UInt32 := do
  let args := arguments.map Text.ofString
  let s ← takePicture args
  let reads := ((CommandLine.Task.ofCommandLine? args).map CommandLine.Task.readsInput).getD false
  let input ← if reads then (← IO.getStdin).readBinToEnd else pure ByteArray.empty
  let (ending, t) := CommandLine.run s input.toList args
  keepLogs s t.session
  emit (← IO.getStdout) t.output
  emit (← IO.getStderr) t.session.console
  match ending with
  | .status code => return code.toUInt32
  | .escaped e => do
    emit (← IO.getStderr) (lastWords e ++ "\n")
    return 1

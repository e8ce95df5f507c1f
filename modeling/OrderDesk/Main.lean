import OrderDesk.CommandLine.Help
import OrderDesk.Http.Line
import OrderDesk.Publisher.Log
import OrderDesk.Publisher.Partitioned
import OrderDesk.Relay
import OrderDesk.Shard.Deployment
import OrderDesk.Store.SeedFile

/-!
# The desk as a program

Opens a desk as arguments and environment say and answers the requests on its standard input, one
line each. After every request the relay ticks once.
-/

namespace OrderDesk.Program

/-- The variables of the environment that are set, among the given ones. -/
def lookAll (names : List String) : IO (List (String × String)) :=
  names.filterMapM fun name => do
    return (← IO.getEnv name).map fun value => (name, value)

/-- The variables about so many shards from the given one on, up to the first without a
    primary. -/
def shardVariables (first : Nat) : Nat → IO (List (String × String))
  | 0 => return []
  | count + 1 => do
    match ← lookAll [Settings.primaryVariable first, Settings.replicaVariable first] with
    | [] => return []
    | found => return found ++ (← shardVariables (first + 1) count)

/-- What the desk is started with. -/
def commandLine (arguments : List String) : IO (Except Refusal CommandLine) := do
  let options ← lookAll (Key.all.map Key.environmentName)
  match Draft.ofArguments (fun name => options.lookup name) arguments with
  | .error error => return .error (.usage error)
  | .ok draft =>
    let shards ← shardVariables 0 (draft.shardCount.getD 1).toNat
    return CommandLine.read (fun name => (options ++ shards).lookup name) arguments

/-- The publisher that the settings ask for. No broker can be reached from here, so a topic has
    no partitions. -/
def publisher (settings : Settings) : Publisher Unit :=
  let direct : Publisher Unit :=
    match settings.bus.kind with
    | .log => .log
    | .kafka => Producer.publisher ⟨settings.outbox.topic, ([] : List Empty)⟩ fun client =>
        nomatch client
  direct.retrying settings.bus.retryMax

/-- The bytes of a file, if it can be read. -/
def fileBytes (path : String) : IO (Option (List UInt8)) := do
  try
    return some (← IO.FS.readBinFile path).toList
  catch _ => return none

/-- Answers requests until the input ends. -/
partial def serve (settings : Settings) (cluster : Cluster) : IO Unit := do
  let line ← (← IO.getStdin).getLine
  if line.isEmpty then return
  let request := Http.Request.ofLine (String.ofList (line.toList.takeWhile (· != '\n')))
  let (response, cluster) := Http.handle request cluster
  IO.println response.line
  let relay : RelaySettings := ⟨settings.outbox.topic, settings.outbox.batchSize.toNat⟩
  let (_, cluster, ()) := Relay.tick (publisher settings) relay cluster ()
  serve settings cluster

/-- Opens a desk in memory and answers requests. The answer is the exit code. -/
def openInMemory (settings : Settings) : IO UInt32 := do
  let start ← IO.monoMsNow
  match Cluster.create settings.shards.length false fun _ reading => ⟨start + reading⟩ with
  | .error error =>
    IO.eprintln s!"error: {error.message}"
    return 1
  | .ok cluster =>
    match settings.stockSeedPath with
    | none =>
      serve settings cluster
      return 0
    | some path =>
      match cluster.loadSeed path (← fileBytes path) with
      | (.error error, _) =>
        IO.eprintln s!"error: failed to load stock seed {path}: {error.message}"
        return 1
      | (.ok _, cluster) =>
        serve settings cluster
        return 0

/-- No database can be reached from here. -/
def noDatabase : Deployment.Opener Id Empty where
  reach _ := none
  prepare _ := none

/-- Opens a desk. The answer is the exit code. -/
def run (arguments : List String) : IO UInt32 := do
  match ← commandLine arguments with
  | .error (.usage .helpRequested) =>
    IO.println CommandLine.help
    return 0
  | .error (.usage .versionRequested) =>
    IO.println "order-desk 0.1.0"
    return 0
  | .error refusal =>
    IO.eprintln refusal.message
    return 2
  | .ok line =>
    match line.backend with
    | .memory => openInMemory line.settings
    | .postgres =>
      match Id.run (Deployment.connect noDatabase line.settings.shards) with
      | .error error =>
        IO.eprintln s!"error: failed to connect to shard databases: {error.message}"
        return 1
      | .ok _ => return 0

end OrderDesk.Program

/-- Opens a desk with the given arguments. -/
def main (arguments : List String) : IO UInt32 := OrderDesk.Program.run arguments

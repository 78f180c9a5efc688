import QueryClient.Scenario.World

/-!
# Running scenarios

`run` opens a connection and takes the steps of a scenario one after the other. Steps that are taken
in the middle of others may again have steps in their middle; how deep they may go is bounded by
`depthLimit`.
-/

namespace QueryClient.Scenario

/-- How to take a step in the middle of another one. -/
abbrev Hook := Step → Play Answer

namespace Play

/-! ### Executions -/

/-- Have a step wait for the rows of a new cursor to be looked at. -/
def await (id : CursorId) (watch : Option Watch) : Play Unit :=
  match watch with
  | none => return
  | some w => modify fun world => { world with watches := world.watches ++ [(id, w)] }

/-- Go through a dialogue that fetches no rows. -/
def talk {α : Type} (hook : Hook) (dialogue : Connection → Dialogue α) : Play (Result α) := do
  let (result, _) ← converse hook (dialogue (← get).connection)
  return result

/-- Run a query. -/
def executeQuery (hook : Hook) (i : Nat) (sql : String) (params : List Param) :
    Play (Result CursorId) := do
  let (result, watch) ← converse hook ((← get).connection.executeQuery i sql params)
  match result with
  | .error e => return .error e
  | .ok id =>
    await id watch
    return .ok id

/-- Make a cursor of the rows that an execution has left behind. -/
def resultCursor (hook : Hook) (i : Nat) : Play (Result (Option CursorId)) := do
  let (result, watch) ← converse hook ((← get).connection.resultCursor i)
  match result with
  | .ok (some id) =>
    await id watch
    return .ok (some id)
  | _ => return result

/-! ### Cursors -/

/-- Take the step that has been waiting for the rows of a cursor to be looked at, if they are. -/
def notice (hook : Hook) (id : CursorId) : Play Unit := do
  let w ← get
  match w.watches.find? fun entry => entry.1 = id with
  | none => return
  | some (_, watch) =>
    match (w.connection.cursor id).source with
    | some (.stream elements) =>
      if watch.offset < elements.input.looked then
        set { w with watches := w.watches.filter fun entry => entry.1 ≠ id }
        log (.hook (← hook watch.step))
    | _ => return

/-- Go to the next row. -/
def next (hook : Hook) (id : CursorId) : Play (Result Bool) := do
  match ← onCursor id Cursor.startNext with
  | some answer => return answer
  | none =>
    let pulled ← onCursor id Cursor.pull
    notice hook id
    onCursor id fun c => c.finishNext pulled

/-- Go through the remaining rows, at most `count` of them. -/
def all (hook : Hook) (id : CursorId) (count : Nat) :
    Play (List (List (Result (Option Getter.Reading))) × Option ClientError) := do
  match ← next hook id with
  | .error e => return ([], some e)
  | .ok false => return ([], none)
  | .ok true =>
    let columns := (← ask fun c => c.cursor id).columns
    let row ← (List.range columns.length).mapM fun i =>
      onCursor id fun c => c.get .value (.position (i + 1))
    match count with
    | 0 => return ([row], none)
    | n + 1 =>
      let (rows, failure) ← all hook id n
      return (row :: rows, failure)

/-! ### Steps -/

/-- Name a new cursor and show its columns. -/
def nameCursor (s : Step) : Result CursorId → Play Answer
  | .error e => return .failure e
  | .ok id => do
    name s (.cursor id)
    return .cursor (← ask fun c => c.cursor id).columns

/-- A step on the connection. -/
def stepConnection (hook : Hook) (s : Step) : Play Answer := do
  match s.action with
  | .createStatement =>
    match ← connection Connection.createStatement with
    | .error e => return .failure e
    | .ok i =>
      name s (.statement i)
      return .unit
  | .prepare sql =>
    match ← talk hook fun c => c.prepare sql with
    | .error e => return .failure e
    | .ok p =>
      name s (.prepared p)
      return .prepared (← ask fun c => c.preparedStatement p).params.length
  | .metadata =>
    match ← connection Connection.openCatalog with
    | .error e => return .failure e
    | .ok i => ask fun c => .catalog c.version (c.statement i).closed
  | .typeInfo => nameCursor s (← connection Connection.typeInfo)
  | .emptyResult columns => nameCursor s (← connection fun c => c.emptyResult columns)
  | .serverVersion => ask fun c => .version c.version
  | .dataverse => ask fun c => .ofResult .text (c.whenOpen c.dataverse)
  | .setDataverse d =>
    return .ofResult (fun _ => .unit) (← connection fun c => c.setDataverse d)
  | .isValid timeout =>
    .ofResult .bool <$> talk hook fun c => c.isValid timeout
  | .warnings => ask fun c => .ofResult .warnings (c.whenOpen c.warnings)
  | .clearWarnings => return .ofResult (fun _ => .unit) (← connection Connection.clearWarnings)
  | .close =>
    .ofResult (fun _ => .unit) <$> talk hook fun c => Connection.teardown c.close
  | .closeDeferred => .scheduled <$> connection Connection.closeDeferred
  | .isClosed => .bool <$> ask Connection.closed
  | _ => return .noSuchObject

/-- A step on statement `i` that a prepared statement knows as well. -/
def stepExecutable (hook : Hook) (s : Step) (i : Nat) : Play Answer := do
  match s.action with
  | .warnings =>
    ask fun c => .ofResult .warnings ((c.statement i).whenOpen (c.statement i).warnings)
  | .context =>
    let token ← ask fun c => (c.statement i).token
    name s (.context token)
    .text <$> nameToken token
  | .cancel => .ofResult (fun _ => .unit) <$> talk hook fun c => c.cancelRunning i
  | .close =>
    change fun c => c.closeStatement i
    return .unit
  | .isClosed => ask fun c => .bool (c.statement i).closed
  | _ => return .noSuchObject

/-- A step on a statement. -/
def stepStatement (hook : Hook) (s : Step) (i : Nat) : Play Answer := do
  let unit : Result Unit → Answer := .ofResult fun _ => .unit
  match s.action with
  | .executeQuery sql => nameCursor s (← executeQuery hook i sql [])
  | .executeUpdate sql => .ofResult .number <$> talk hook fun c => c.executeUpdate i sql []
  | .execute sql => .ofResult .bool <$> talk hook fun c => c.execute i sql []
  | .resultCursor =>
    match ← resultCursor hook i with
    | .error e => return .failure e
    | .ok none => return .nothing
    | .ok (some id) => nameCursor s (.ok id)
  | .moreResults => .ofResult .bool <$> connection fun c => c.moreResults i
  | .updateCount =>
    ask fun c => .ofResult (fun n => (n.map Answer.number).getD .nothing)
      ((c.statement i).whenOpen (c.statement i).updateCount)
  | .queryTimeout =>
    ask fun c => .ofResult (fun n => .number n) ((c.statement i).whenOpen (c.statement i).timeout)
  | .setQueryTimeout n => unit <$> onStatement i fun st => st.setTimeout n
  | .maxRows =>
    ask fun c => .ofResult (fun n => .number n) ((c.statement i).whenOpen (c.statement i).maxRows)
  | .setMaxRows n => unit <$> onStatement i fun st => st.setMaxRows n
  | .clearWarnings => unit <$> onStatement i Statement.clearWarnings
  | .generatedKeys => nameCursor s (← connection fun c => c.generatedKeys i)
  | .cancelContext context =>
    match Members.get? context (← get).objects with
    | some (.context token) => unit <$> talk hook fun c => c.cancelIfCurrent i token
    | _ => return .noSuchObject
  | .closeOnCompletion => unit <$> onStatement i Statement.setCloseOnCompletion
  | .isCloseOnCompletion =>
    ask fun c => .ofResult .bool ((c.statement i).whenOpen (c.statement i).closeOnCompletion)
  | _ => stepExecutable hook s i

/-- A step on a prepared statement. -/
def stepPrepared (hook : Hook) (s : Step) (p : Nat) : Play Answer := do
  let unit : Result Unit → Answer := .ofResult fun _ => .unit
  let own ← ask fun c => c.preparedStatement p
  match s.action with
  | .bind position value => unit <$> connection fun c => c.bindParam p position value
  | .clearParameters => unit <$> connection fun c => c.clearParams p
  | .parameterCount => return .number own.params.length
  | .sql => return .text own.sql
  | .executeQuery _ => nameCursor s (← executeQuery hook own.statement own.sql own.params)
  | .executeUpdate _ =>
    .ofResult .number <$> talk hook fun c => c.executeUpdate own.statement own.sql own.params
  | .execute _ =>
    .ofResult .bool <$> talk hook fun c => c.execute own.statement own.sql own.params
  | .statement =>
    name s (.statement own.statement)
    return .unit
  | _ => stepExecutable hook s own.statement

/-- A step on a cursor. -/
def stepCursor (hook : Hook) (s : Step) (id : CursorId) : Play Answer := do
  let c ← ask fun c => c.cursor id
  match s.action with
  | .next => .ofResult .bool <$> next hook id
  | .row => return .ofResult (fun n => .number n) c.rowNumber
  | .position => return .position c.rowNumber c.isBeforeFirst c.isFirst c.isAfterLast
  | .columns => return .columns c.columns
  | .findColumn column => return .ofResult (fun n => .number n) (c.findColumn column)
  | .wasNull => return .ofResult .bool c.lastWasNull
  | .statement =>
    let w ← get
    if w.connection.keepsStatement id.statement || w.holdsStatement id.statement then
      name s (.statement id.statement)
      return .unit
    else return .nothing
  | .close =>
    change fun c => c.closeCursor id
    return .unit
  | .isClosed => return .bool c.closed
  | .get target column =>
    let reading ← onCursor id fun c => c.get target column
    return .ofResult (fun r => (r.map Answer.reading).getD .nothing) reading
  | .all =>
    let (rows, failure) ← all hook id ((c.source.map RowSource.size).getD 0)
    return .rows rows failure
  | _ => return .noSuchObject

/-- Take a step. -/
def step (hook : Hook) (s : Step) : Play Answer := do
  match s.action with
  | .drop =>
    forget s.subject
    return .unit
  | .runDeferred =>
    if ← connection Connection.runDeferred then
      let _ ← closeService
      return .bool true
    else return .bool false
  | .stopServer =>
    modify fun w =>
      match w.service with
      | .scripted _ => w
      | .remote l => { w with service := .remote l.stopServer }
    return .unit
  | _ =>
    match Members.get? s.subject (← get).objects with
    | none => return .noSuchObject
    | some object =>
      during object <|
        match object with
        | .connection => stepConnection hook s
        | .statement i => stepStatement hook s i
        | .prepared p => stepPrepared hook s p
        | .cursor id => stepCursor hook s id
        | .context token =>
          match s.action with
          | .id => .text <$> nameToken token
          | _ => return .noSuchObject

/-- Take a step in whose middle steps nest at most `depth` deep. -/
def nested : (depth : Nat) → Hook
  | 0 => fun _ => return .noSuchObject
  | depth + 1 => step (nested depth)

end Play

/-- How deep steps may nest. -/
def depthLimit : Nat := 64

/-- Take a step and see what is to be seen of it. -/
def observe (s : Step) : Play Entry := do
  let answer ← Play.nested depthLimit s
  let w ← get
  set { w with log := [] }
  return ⟨answer, w.log, w.closedNames⟩

/-- The name of the connection in every scenario. -/
def connectionName : String := "conn"

/-- The state after connecting. -/
def World.start (config : ClientConfig) (service : Service) (server : Option String) : World where
  connection := Connection.create config server
  service := service
  objects := [(connectionName, .connection)]
  log := []
  tokens := []
  watches := []
  inUse := []
  leaving := []

/-- Connect, given what connecting to the service has come to, and take the steps. Returns what is
seen of connecting and, if that succeeds, of every step. -/
def run (config : ClientConfig) (service : Service) (log : List LogEntry)
    (server : Result (Option String)) (steps : List Step) : Entry × Option (List Entry) :=
  match server with
  | .error e => (⟨.failure e, log, []⟩, none)
  | .ok name =>
    let (entries, _) := (steps.mapM observe).run (World.start config service name)
    (⟨.unit, log, []⟩, some entries)

/-- Connect to a scripted service and take the steps. -/
def runScripted (config : ClientConfig) (service : ScriptedService) (steps : List Step) :
    Entry × Option (List Entry) :=
  run config (.scripted service) [.connect] service.server steps

/-- Connect to a server and take the steps. -/
def runRemote (config : ClientConfig) (server : ScriptedServer) (steps : List Step) :
    Entry × Option (List Entry) :=
  match HttpTransport.create config with
  | .error e => (⟨.failure e, [], []⟩, none)
  | .ok transport =>
    let (name, request, l) := (Link.mk transport server).probe
    run config (.remote l) (request.map LogEntry.request).toList name steps

end QueryClient.Scenario

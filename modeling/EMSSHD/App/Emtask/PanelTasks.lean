import EMSSHD.App.Emtask.TaskConfig
import EMSSHD.Platform.TextFile

namespace EMSSHD.Emtask

open Call

structure TaskStore where
  rows : List TaskConfig
  names : (rows.map (·.name)).Nodup
  ports : (rows.map (·.port)).Nodup

namespace TaskStore

def CanInsert (store : TaskStore) (row : TaskConfig) : Prop :=
  ∀ r∈store.rows,r.name≠row.name ∧ r.port≠row.port

def CanUpdate (store : TaskStore) (oldName : Bytes) (row : TaskConfig) : Prop :=
  ∀ r∈store.rows,r.name≠oldName → r.name≠row.name ∧ r.port≠row.port

instance (store : TaskStore) (row : TaskConfig) : Decidable (store.CanInsert row) :=
  inferInstanceAs (Decidable (∀ _∈_,_))

instance (store : TaskStore) (oldName : Bytes) (row : TaskConfig) :
    Decidable (store.CanUpdate oldName row) := inferInstanceAs (Decidable (∀ _∈_,_))

variable {α : Type} {rows : List TaskConfig} {row : TaskConfig}

lemma nodup_map_concat (f : TaskConfig → α) (h : (rows.map f).Nodup) (hn : ∀ r∈rows,f r≠f row) :
    ((rows++[row]).map f).Nodup := by
  rw [map_append,List.nodup_append]
  refine ⟨h,by simp,fun a ha b hb => ?_⟩
  obtain ⟨r,hr,rfl⟩ := mem_map.mp ha
  obtain rfl : b=f row := by simpa using hb
  exact hn r hr

def insert (store : TaskStore) (row : TaskConfig) (h : store.CanInsert row) : TaskStore where
  rows := store.rows ++ [row]
  names := nodup_map_concat _ store.names fun r hr => (h r hr).1
  ports := nodup_map_concat _ store.ports fun r hr => (h r hr).2

def updatedRows (rows : List TaskConfig) (oldName : Bytes) (row : TaskConfig) : List TaskConfig :=
  rows.map fun r => if r.name=oldName then row else r

lemma nodup_map_updatedRows (f : TaskConfig → α) {oldName : Bytes}
    (hn : (rows.map (·.name)).Nodup) (h : (rows.map f).Nodup)
    (hnw : ∀ r∈rows,r.name≠oldName → f r≠f row) : ((updatedRows rows oldName row).map f).Nodup := by
  rw [updatedRows,map_map,List.Nodup,List.pairwise_map]
  rw [List.Nodup,List.pairwise_map] at hn h
  refine (hn.and h).imp_of_mem fun {a b} ha hb hab => ?_
  simp only [Function.comp_apply]
  split_ifs with hf hs hs
  · exact absurd (hf.trans hs.symm) hab.1
  · exact (hnw b hb hs).symm
  · exact hnw a ha hf
  · exact hab.2

def update (store : TaskStore) (oldName : Bytes) (row : TaskConfig)
    (h : store.CanUpdate oldName row) : TaskStore where
  rows := updatedRows store.rows oldName row
  names := nodup_map_updatedRows _ store.names store.names fun r hr hne => (h r hr hne).1
  ports := nodup_map_updatedRows _ store.names store.ports fun r hr hne => (h r hr hne).2

def delete (store : TaskStore) (name : Bytes) : TaskStore where
  rows := store.rows.filter (·.name≠name)
  names := store.names.sublist (List.filter_sublist.map _)
  ports := store.ports.sublist (List.filter_sublist.map _)

lemma delete_insert (store : TaskStore) (h : store.CanInsert row) :
    ((store.insert row h).delete row.name).rows=store.rows := by
  have hk : store.rows.filter (·.name≠row.name)=store.rows :=
    List.filter_eq_self.mpr fun r hr => decide_eq_true (h r hr).1
  change (store.rows++[row]).filter (·.name≠row.name)=store.rows
  rw [List.filter_append,hk]
  simp
end TaskStore

/-- What the panel and the listener threads keep of an emtask_task_t. -/
structure TaskSlot where
  config : TaskConfig
  initialized : Bool
  deleted : Bool
  stopRequested : Bool
  listenerThreadRunning : Bool
  workerCount : Nat

def zeroSlot : TaskSlot where
  config := ⟨[],[],[],[],0,0,0,0,false,false,false,false,false⟩
  initialized := false
  deleted := false
  stopRequested := false
  listenerThreadRunning := false
  workerCount := 0

def TaskSlot.active (slot : TaskSlot) : Bool := slot.initialized && !slot.deleted

structure PanelState where
  tasks : List TaskSlot
  taskCount : Nat
  taskLockInitialized : Bool
  store : TaskStore
  out : Bytes

namespace PanelState

def slot (s : PanelState) (i : Nat) : TaskSlot := s.tasks.getD i zeroSlot

def setSlot (i : Nat) (slot : TaskSlot) (s : PanelState) : PanelState :=
  {s with tasks := s.tasks.set i slot}

def taskIndex (s : PanelState) (name : Bytes) : Option Nat :=
  (List.range s.taskCount).find? fun i =>
    (s.slot i).active && keyEquals (s.slot i).config.name name

def freeIndex (s : PanelState) (current : Option Nat) : Option Nat :=
  (List.range (min s.tasks.length emtaskMaxTasks)).find? fun i =>
    some i≠current && !(s.slot i).initialized && !(s.slot i).listenerThreadRunning

def taken (s : PanelState) (task : TaskConfig) (current : Option Nat) : Bool :=
  (List.range s.taskCount).any fun i => some i≠current && (s.slot i).active &&
    (keyEquals (s.slot i).config.name task.name || (s.slot i).config.port=task.port)

def ActiveAt (s : PanelState) (i : Nat) (config : TaskConfig) : Prop :=
  i < s.taskCount ∧ (s.slot i).active=true ∧ (s.slot i).config=config

/-- The same active tasks with the same configurations, and the same rows. -/
def SameTasks (s t : PanelState) : Prop :=
  (∀ i config,t.ActiveAt i config ↔ s.ActiveAt i config) ∧ t.store.rows=s.store.rows
end PanelState

/-- emtask_validate_new_task_locked -/
def validateNewTask (global : GlobalConfig) (s : PanelState) (task : TaskConfig) :
    Except Err Unit :=
  if task.name=[] ∨ task.command=[] ∨ task.port=0 then .error .invalidArgument
  else if s.freeIndex none=none then .error .bufferTooSmall
  else if taskConflictsWithPanel global task=true then .error .alreadyExists
  else if s.taken task none=true then .error .alreadyExists
  else .ok ()

/-- emtask_validate_updated_task_locked -/
def validateUpdatedTask (global : GlobalConfig) (s : PanelState) (task : TaskConfig)
    (currentIndex : Nat) : Except Err Unit :=
  if s.taskCount ≤ currentIndex then .error .invalidArgument
  else if task.name=[] ∨ task.command=[] ∨ task.port=0 then .error .invalidArgument
  else if taskConflictsWithPanel global task=true then .error .alreadyExists
  else if s.taken task (some currentIndex)=true then .error .alreadyExists
  else .ok ()

def createRequest (global : GlobalConfig) (json : Bytes) (s : PanelState) :
    Except Err (TaskConfig×TaskConfig) := do
  let config ← jsonParseTask global (cString json)
  let workingDir ← resolvePath global.configDir config.workingDir
  checkThat (s.taskLockInitialized=true) .platform
  validateNewTask global s {config with workingDir}
  pure (config,{config with workingDir})

structure UpdateRequest where
  index : Nat
  freeIndex : Nat
  config : TaskConfig
  runtimeConfig : TaskConfig

def idleTask (s : PanelState) (taskName : Bytes) : Except Err Nat := do
  checkThat (taskName≠[]) .invalidArgument
  checkThat (s.taskLockInitialized=true) .platform
  match s.taskIndex taskName with
  | none => .error .notFound
  | some index => if (s.slot index).workerCount≠0 then .error .readOnly else .ok index

def updateRequest (global : GlobalConfig) (taskName json : Bytes) (s : PanelState) :
    Except Err UpdateRequest := do
  let index ← idleTask s taskName
  match s.freeIndex (some index) with
  | none => .error .bufferTooSmall
  | some freeIndex => do
    let config ← jsonPatchTask (cString json) (s.slot index).config
    let workingDir ← resolvePath global.configDir config.workingDir
    validateUpdatedTask global s {config with workingDir} index
    pure ⟨index,freeIndex,config,{config with workingDir}⟩

section
structure TaskLive where
  listenerOpen : Bool
  sessionActive : Bool
  initialized : Bool
  running : Bool
  attached : Bool
  faulted : Bool
  exited : Bool
  startedOnce : Bool
  lastExitStatus : Nat
  lastErrorStatus : Int
  lastErrorMs : Nat
  cols : Nat
  rows : Nat
  screenCols : Nat
  screenRows : Nat
  replayLen : Nat
  replayCapacity : Nat
  lastError : Bytes

structure Faults where
  dbInsert : Option Err
  dbUpdate : Option Err
  dbDelete : Option Err
  sessionManagerInit : Option Err
  termInit : Option Err
  openListener : Option Err
  startListener : Option Err
  live : TaskLive

variable (global : GlobalConfig) (faults : Faults)

def tasksDbWrite (fault : Option Err) (write : Call PanelState Err Unit) :
    Call PanelState Err Unit := do
  Call.require (global.panelTasksDbFile≠[]) .invalidArgument
  match fault with
  | some e => Call.fail e
  | none => write

/-- emtask_panel_tasks_db_insert -/
def tasksDbInsert (row : TaskConfig) : Call PanelState Err Unit :=
  tasksDbWrite global faults.dbInsert ⟨fun s =>
    if h : s.store.CanInsert row then (.ok (),{s with store := s.store.insert row h})
    else (.error .platform,s)⟩

/-- emtask_panel_tasks_db_update -/
def tasksDbUpdate (oldName : Bytes) (row : TaskConfig) : Call PanelState Err Unit := do
  Call.require (oldName≠[]) .invalidArgument
  tasksDbWrite global faults.dbUpdate ⟨fun s =>
    if ¬∃ r∈s.store.rows,r.name=oldName then (.error .notFound,s)
    else if h : s.store.CanUpdate oldName row then
      (.ok (),{s with store := s.store.update oldName row h})
    else (.error .platform,s)⟩

/-- emtask_panel_tasks_db_delete -/
def tasksDbDelete (taskName : Bytes) : Call PanelState Err Unit := do
  Call.require (taskName≠[]) .invalidArgument
  tasksDbWrite global faults.dbDelete ⟨fun s =>
    if ∃ r∈s.store.rows,r.name=taskName then (.ok (),{s with store := s.store.delete taskName})
    else (.error .notFound,s)⟩

/-- What makes emtask_task_init fail; a listener that cannot be opened does so only when it is not
tried again later. -/
def taskInitFault : Option Err :=
  match faults.sessionManagerInit,faults.termInit with
  | some e,_ => some e
  | none,some e => some e
  | none,none => if global.bindRetryEnabled=true then none else faults.openListener

/-- emtask_task_init -/
def taskInit (index : Nat) (config : TaskConfig) : Call PanelState Err Unit := do
  Call.modify (PanelState.setSlot index {zeroSlot with config})
  match taskInitFault global faults with
  | some e => Call.fail e
  | none => Call.modify (PanelState.setSlot index {zeroSlot with config,initialized := true})

/-- emtask_task_deinit -/
def taskDeinit (slot : TaskSlot) : TaskSlot :=
  if slot.initialized=true then {slot with stopRequested := true,initialized := false} else slot

def startTask (index : Nat) (config : TaskConfig) : Call PanelState Err Unit := do
  taskInit global faults index config
  Call.modify fun s => s.setSlot index {s.slot index with listenerThreadRunning := true}
  match faults.startListener with
  | some e => do
    Call.modify fun s =>
      s.setSlot index (taskDeinit {s.slot index with listenerThreadRunning := false})
    Call.fail e
  | none => Call.modify fun s => {s with taskCount := max s.taskCount (index+1)}

def boolText (b : Bool) : Bytes := if b then cstr "true" else cstr "false"
def natText (n : Nat) : Bytes := cstr (toString n)

def taskStatus (live : TaskLive) : Bytes×Bytes :=
  if live.faulted then (cstr "failed",cstr "task command failed; rerun is required")
  else if live.running then (cstr "running",cstr "task command is running")
  else if live.exited then (cstr "exited",cstr "task command exited")
  else if live.initialized && !live.startedOnce then
    (cstr "pending",cstr "task command has not started yet")
  else (cstr "stopped",cstr "task command is stopped")

/-- The texts that emtask_panel_append_task_json writes -/
def taskJson (config : TaskConfig) (live : TaskLive) : List Bytes :=
  [cstr "\x7b",cstr "\"name\":"] ++ jsonString config.name ++
  [cstr ",\"listen_address\":"] ++
  jsonString (if config.listenAddress≠[] then config.listenAddress else cstr "0.0.0.0") ++
  [cstr ",\"port\":" ++ natText config.port,cstr ",\"command\":"] ++ jsonString config.command ++
  [cstr ",\"working_dir\":"] ++ jsonString config.workingDir ++
  [cstr ",\"use_sftp\":" ++ boolText config.useSftp,
    cstr ",\"use_conpty\":" ++ boolText config.useConpty,
    cstr ",\"replay_on_attach\":" ++ boolText config.replayOnAttach,
    cstr ",\"repaint_on_attach\":" ++ boolText config.repaintOnAttach,
    cstr ",\"screen_snapshot\":" ++ boolText config.screenSnapshot,
    cstr ",\"restart_limit\":" ++ natText config.restartLimit,
    cstr ",\"restart_window_sec\":" ++ natText config.restartWindowSec,
    cstr ",\"listener_open\":" ++ boolText live.listenerOpen,
    cstr ",\"status\":"] ++ jsonString (taskStatus live).1 ++
  [cstr ",\"status_message\":"] ++ jsonString (taskStatus live).2 ++
  [cstr ",\"session\":\x7b\"terminal_active\":" ++ boolText live.sessionActive ++ cstr "\x7d",
    cstr ",\"terminal\":\x7b\"initialized\":" ++ boolText live.initialized ++
      cstr ",\"running\":" ++ boolText live.running ++
      cstr ",\"attached\":" ++ boolText live.attached ++
      cstr ",\"faulted\":" ++ boolText live.faulted ++
      cstr ",\"exited\":" ++ boolText live.exited ++
      cstr ",\"started_once\":" ++ boolText live.startedOnce ++
      cstr ",\"last_exit_status\":" ++ natText live.lastExitStatus ++
      cstr ",\"last_error_status\":" ++ cstr (toString live.lastErrorStatus) ++
      cstr ",\"last_error_ms\":" ++ natText live.lastErrorMs ++
      cstr ",\"cols\":" ++ natText live.cols ++ cstr ",\"rows\":" ++ natText live.rows ++
      cstr ",\"screen_cols\":" ++ natText live.screenCols ++
      cstr ",\"screen_rows\":" ++ natText live.screenRows ++
      cstr ",\"replay_len\":" ++ natText live.replayLen ++
      cstr ",\"replay_capacity\":" ++ natText live.replayCapacity ++ cstr ",\"last_error\":"] ++
  jsonString live.lastError ++ [cstr "\x7d",cstr "\x7d"]

def taskResponse (config : TaskConfig) (live : TaskLive) : List Bytes :=
  [cstr "\x7b\"task\":"] ++ taskJson config live ++ [cstr "\x7d\n"]

def deletedResponse (taskName : Bytes) : List Bytes :=
  [cstr "\x7b\"deleted\":true,\"task\":"] ++ jsonString taskName ++ [cstr "\x7d\n"]

def respond (texts : List Bytes) (outCapacity : Nat) : Call PanelState Err Unit := do
  Call.modify fun s => {s with out := ((panelBufferInit outCapacity).appendAll texts).text}
  Call.require (((panelBufferInit outCapacity).appendAll texts).truncated=false) .bufferTooSmall

/-- emtask_panel_write_error_json, for a store that does not take a new task -/
def storeErrorJson (status : Err) : List Bytes :=
  let (error,message) := match status with
    | .notFound => (cstr "sqlite_runtime_missing",cstr ("SQLite runtime not found; place " ++
      "sqlite3.dll/libsqlite3.so in the emtask current directory or install SQLite system-wide."))
    | .unsupported => (cstr "sqlite_runtime_incompatible",
      cstr "SQLite runtime is incompatible; missing required sqlite3 symbols.")
    | _ => (cstr "task_store_unavailable",cstr ("SQLite task database could not be opened or " ++
      "written; check panel_tasks_db_file and directory permissions."))
  [cstr "\x7b\"error\":"] ++ jsonString error ++ [cstr ",\"message\":"] ++ jsonString message ++
  (if global.panelTasksDbFile≠[] then
    [cstr ",\"db_file\":"] ++ jsonString global.panelTasksDbFile else []) ++ [cstr "\x7d\n"]

def createStored (config runtimeConfig : TaskConfig) (outCapacity : Nat) :
    Call PanelState Err Unit := do
  let s ← Call.get
  match s.freeIndex none with
  | none => do
    (tasksDbDelete global faults config.name).ignore
    Call.fail .bufferTooSmall
  | some index => do
    let started ← (startTask global faults index runtimeConfig).status
    match started with
    | .error e => do
      (tasksDbDelete global faults config.name).ignore
      Call.fail e
    | .ok () => respond (taskResponse runtimeConfig faults.live) outCapacity

/-- emtask_panel_create_task_from_json -/
def createTaskFromJson (json : Bytes) (outCapacity : Nat) : Call PanelState Err Unit := do
  Call.require (outCapacity≠0) .invalidArgument
  let s ← Call.get
  let (config,runtimeConfig) ← Call.lift (createRequest global json s)
  let inserted ← (tasksDbInsert global faults config).status
  match inserted with
  | .error e => do
    Call.modify fun s => {s with
      out := ((panelBufferInit outCapacity).appendAll (storeErrorJson global e)).text}
    Call.fail e
  | .ok () => createStored global faults config runtimeConfig outCapacity

def retireTask (index : Nat) : Call PanelState Err Unit :=
  Call.modify fun s =>
    s.setSlot index (taskDeinit {s.slot index with deleted := true,stopRequested := true})

/-- emtask_panel_update_task_from_json -/
def updateTaskFromJson (taskName json : Bytes) (outCapacity : Nat) : Call PanelState Err Unit := do
  Call.require (outCapacity≠0) .invalidArgument
  let s ← Call.get
  let request ← Call.lift (updateRequest global taskName json s)
  tasksDbUpdate global faults taskName request.config
  retireTask request.index
  startTask global faults request.freeIndex request.runtimeConfig
  respond (taskResponse request.runtimeConfig faults.live) outCapacity

/-- emtask_panel_delete_task_by_name -/
def deleteTaskByName (taskName : Bytes) (outCapacity : Nat) : Call PanelState Err Unit := do
  Call.require (outCapacity≠0) .invalidArgument
  let s ← Call.get
  let index ← Call.lift (idleTask s taskName)
  tasksDbDelete global faults taskName
  retireTask index
  respond (deletedResponse taskName) outCapacity
end

section
variable {s : PanelState} {index : Nat} {slot : TaskSlot}

lemma slot_setSlot_self (h : index < s.tasks.length) : (s.setSlot index slot).slot index=slot := by
  simp [PanelState.slot,PanelState.setSlot,h]

lemma slot_setSlot_ne {j : Nat} (h : j≠index) : (s.setSlot index slot).slot j=s.slot j := by
  simp [PanelState.slot,PanelState.setSlot,h.symm]

@[simp] lemma length_setSlot : (s.setSlot index slot).tasks.length=s.tasks.length := by
  simp [PanelState.setSlot]

lemma freeIndex_some {current : Option Nat} (h : s.freeIndex current=some index) :
    index < s.tasks.length ∧ some index≠current ∧ (s.slot index).active=false := by
  have hm := List.mem_of_find?_eq_some h
  have hf := find?_some h
  simp only [Bool.and_eq_true,Bool.not_eq_true',decide_eq_true_eq] at hf
  rw [mem_range] at hm
  refine ⟨by omega,hf.1.1,?_⟩
  simp [TaskSlot.active,hf.1.2]

lemma taskIndex_some {name : Bytes} (h : s.taskIndex name=some index) :
    s.ActiveAt index (s.slot index).config := by
  have hm := List.mem_of_find?_eq_some h
  have ha := find?_some h
  rw [Bool.and_eq_true] at ha
  exact ⟨mem_range.mp hm,ha.1,rfl⟩

lemma sameTasks_of_slot {t : PanelState} (hc : t.taskCount=s.taskCount)
    (hr : t.store.rows=s.store.rows) (hs : (s.slot index).active=false)
    (ht : (t.slot index).active=false) (hrs : ∀ j≠index,t.slot j=s.slot j) : s.SameTasks t := by
  refine ⟨fun j config => ?_,hr⟩
  by_cases hj : j=index
  · simp [PanelState.ActiveAt,hj,hs,ht]
  · simp [PanelState.ActiveAt,hc,hrs j hj]
end

section
variable {global : GlobalConfig} {faults : Faults} {s : PanelState} {outCapacity : Nat}

lemma tasksDbWrite_outcome {fault : Option Err} {write : Call PanelState Err Unit} {C : Prop}
    {P : PanelState → Prop}
    (h : write.Ensures s (Outcome (fun _ t => C ∧ P t) fun _ t => ¬C ∧ t=s)) :
    (tasksDbWrite global fault write).Ensures s (Outcome
      (fun _ t => (global.panelTasksDbFile≠[] ∧ fault=none ∧ C) ∧ P t)
      fun _ t => ¬(global.panelTasksDbFile≠[] ∧ fault=none ∧ C) ∧ t=s) := by
  refine .bindRequire (fun hf => ?_) fun hf => ⟨fun ha => hf ha.1,rfl⟩
  cases fault with
  | some e => exact ⟨by simp,rfl⟩
  | none =>
    refine h.mono fun r t hrt => ?_
    cases r with
    | ok a => exact ⟨⟨hf,rfl,hrt.1⟩,hrt.2⟩
    | error e => exact ⟨fun ha => hrt.1 ha.2.2,hrt.2⟩

def Inserts (global : GlobalConfig) (faults : Faults) (s : PanelState) (row : TaskConfig) : Prop :=
  global.panelTasksDbFile≠[] ∧ faults.dbInsert=none ∧ s.store.CanInsert row

lemma tasksDbInsert_outcome (row : TaskConfig) :
    (tasksDbInsert global faults row).Ensures s (Outcome
      (fun _ t => Inserts global faults s row ∧
        ∃ h : s.store.CanInsert row,t={s with store := s.store.insert row h})
      fun _ t => ¬Inserts global faults s row ∧ t=s) := by
  refine tasksDbWrite_outcome ?_
  by_cases h : s.store.CanInsert row
  · exact .of_run (dif_pos h) ⟨h,h,rfl⟩
  · exact .of_run (dif_neg h) ⟨h,rfl⟩

def Updates (global : GlobalConfig) (faults : Faults) (s : PanelState) (oldName : Bytes)
    (row : TaskConfig) : Prop :=
  global.panelTasksDbFile≠[] ∧ faults.dbUpdate=none ∧ (∃ r∈s.store.rows,r.name=oldName) ∧
    s.store.CanUpdate oldName row

lemma tasksDbUpdate_outcome {oldName : Bytes} (hn : oldName≠[]) (row : TaskConfig) :
    (tasksDbUpdate global faults oldName row).Ensures s (Outcome
      (fun _ t => Updates global faults s oldName row ∧
        ∃ store,t={s with store})
      fun _ t => ¬Updates global faults s oldName row ∧ t=s) := by
  refine .bindRequire (fun _ => tasksDbWrite_outcome ?_) fun h => absurd hn h
  by_cases hr : ∃ r∈s.store.rows,r.name=oldName
  · have hf : ¬¬∃ r∈s.store.rows,r.name=oldName := not_not.mpr hr
    by_cases h : s.store.CanUpdate oldName row
    · exact .of_run ((if_neg hf).trans (dif_pos h)) ⟨⟨hr,h⟩,_,rfl⟩
    · exact .of_run ((if_neg hf).trans (dif_neg h)) ⟨fun ha => h ha.2,rfl⟩
  · exact .of_run (if_pos hr) ⟨fun ha => hr ha.1,rfl⟩

def Deletes (global : GlobalConfig) (faults : Faults) (s : PanelState) (name : Bytes) : Prop :=
  global.panelTasksDbFile≠[] ∧ faults.dbDelete=none ∧ ∃ r∈s.store.rows,r.name=name

lemma tasksDbDelete_outcome {name : Bytes} (hn : name≠[]) :
    (tasksDbDelete global faults name).Ensures s (Outcome
      (fun _ t => Deletes global faults s name ∧ t={s with store := s.store.delete name})
      fun _ t => ¬Deletes global faults s name ∧ t=s) := by
  refine .bindRequire (fun _ => tasksDbWrite_outcome ?_) fun h => absurd hn h
  by_cases hr : ∃ r∈s.store.rows,r.name=name
  · exact .of_run (if_pos hr) ⟨hr,rfl⟩
  · exact .of_run (if_neg hr) ⟨hr,rfl⟩

/-- A new task comes up: it can be initialised and its listener thread started. -/
def Starts (global : GlobalConfig) (faults : Faults) : Prop :=
  taskInitFault global faults=none ∧ faults.startListener=none

lemma taskInit_run (global : GlobalConfig) (faults : Faults) (s : PanelState) (index : Nat)
    (config : TaskConfig) :
    (taskInit global faults index config).run s=match taskInitFault global faults with
      | some e => (.error e,s.setSlot index {zeroSlot with config})
      | none => (.ok (),(s.setSlot index {zeroSlot with config}).setSlot index
          {zeroSlot with config,initialized := true}) := by
  rw [taskInit,run_bind]
  simp only [run_modify]
  cases taskInitFault global faults <;> rfl

lemma startTask_outcome {index : Nat} (hi : index < s.tasks.length) (config : TaskConfig) :
    (startTask global faults index config).Ensures s (Outcome
      (fun _ t => Starts global faults ∧ t.store=s.store ∧ t.ActiveAt index config ∧
        ∀ j≠index,t.slot j=s.slot j)
      fun _ t => ¬Starts global faults ∧ t.store=s.store ∧ t.taskCount=s.taskCount ∧
        (t.slot index).active=false ∧ ∀ j≠index,t.slot j=s.slot j) := by
  have hin := taskInit_run global faults s index config
  cases hf : taskInitFault global faults with
  | some e =>
    rw [hf] at hin
    refine .of_run (run_bind_error hin) ⟨fun hs => ?_,rfl,rfl,?_,fun j hj => ?_⟩
    · rw [Starts,hf] at hs
      cases hs.1
    · rw [slot_setSlot_self hi]
      rfl
    · exact slot_setSlot_ne hj
  | none =>
    rw [hf] at hin
    refine .bindOk hin (.bindModify ?_)
    generalize hu : PanelState.setSlot index _ _=u
    have hsl : u.slot index={zeroSlot with
        config,initialized := true,listenerThreadRunning := true} := by
      rw [← hu,slot_setSlot_self (by simpa using hi),slot_setSlot_self (by simpa using hi)]
    have hr (j : Nat) (hj : j≠index) : u.slot j=s.slot j := by
      rw [← hu,slot_setSlot_ne hj,slot_setSlot_ne hj,slot_setSlot_ne hj]
    have hln : u.tasks.length=s.tasks.length := by
      rw [← hu]
      simp
    have hst : u.store=s.store := by rw [← hu]; rfl
    have hc : u.taskCount=s.taskCount := by rw [← hu]; rfl
    cases hl : faults.startListener with
    | some e =>
      refine .bindModify (.fail ⟨fun hs => ?_,hst,hc,?_,fun j hj => ?_⟩)
      · rw [Starts,hl] at hs
        cases hs.2
      · rw [slot_setSlot_self (by rw [hln]; exact hi),hsl]
        rfl
      · rw [slot_setSlot_ne hj,hr j hj]
    | none =>
      refine .modify ⟨⟨hf,hl⟩,hst,⟨by simp,?_,?_⟩,hr⟩
      · exact congrArg TaskSlot.active hsl
      · exact congrArg TaskSlot.config hsl

lemma respond_outcome (texts : List Bytes) (outCapacity : Nat) :
    (respond texts outCapacity).Ensures s fun _ t => ∃ out,t={s with out} :=
  .bindModify (.require (fun _ => ⟨_,rfl⟩) fun _ => ⟨_,rfl⟩)
end

variable {global : GlobalConfig} {faults : Faults} {s : PanelState} {outCapacity : Nat}

lemma sameTasks_refl (s : PanelState) : s.SameTasks s := ⟨fun _ _ => Iff.rfl,rfl⟩

def CreateCommits (global : GlobalConfig) (faults : Faults) (json : Bytes) (s : PanelState) : Prop :=
  ∃ config runtimeConfig,createRequest global json s=.ok (config,runtimeConfig) ∧
    Inserts global faults s config

def UpdateCommits (global : GlobalConfig) (faults : Faults) (taskName json : Bytes)
    (s : PanelState) : Prop :=
  ∃ request,updateRequest global taskName json s=.ok request ∧
    Updates global faults s taskName request.config

def DeleteCommits (global : GlobalConfig) (faults : Faults) (taskName : Bytes) (s : PanelState) :
    Prop :=
  ∃ index,idleTask s taskName=.ok index ∧ Deletes global faults s taskName

variable {json taskName : Bytes} {config runtimeConfig : TaskConfig} {index : Nat} {t : PanelState}

lemma createRequest_ok (h : createRequest global json s=.ok (config,runtimeConfig)) :
    config.name≠[] ∧ ∃ index,s.freeIndex none=some index := by
  obtain ⟨parsed,-,h⟩ := except_bind_ok h
  obtain ⟨workingDir,-,h⟩ := except_bind_ok h
  obtain ⟨-,-,h⟩ := except_bind_ok h
  obtain ⟨_,hv,h⟩ := except_bind_ok h
  cases h
  unfold validateNewTask at hv
  split_ifs at hv with he hf
  exact ⟨fun hn => he (.inl hn),Option.ne_none_iff_exists'.mp hf⟩

lemma idleTask_ok (h : idleTask s taskName=.ok index) :
    taskName≠[] ∧ s.ActiveAt index (s.slot index).config := by
  obtain ⟨_,hn,h⟩ := except_bind_ok h
  obtain ⟨-,-,h⟩ := except_bind_ok h
  have hne := checkThat_ok hn
  rcases hi : s.taskIndex taskName with _ | found
  · rw [hi] at h
    cases h
  rw [hi] at h
  simp only at h
  split_ifs at h
  cases h
  exact ⟨hne,taskIndex_some hi⟩

lemma updateRequest_ok {request : UpdateRequest}
    (h : updateRequest global taskName json s=.ok request) :
    idleTask s taskName=.ok request.index ∧
      s.freeIndex (some request.index)=some request.freeIndex := by
  obtain ⟨index,hi,h⟩ := except_bind_ok h
  rcases hf : s.freeIndex (some index) with _ | freeIndex
  · rw [hf] at h
    cases h
  rw [hf] at h
  obtain ⟨config,-,h⟩ := except_bind_ok h
  obtain ⟨workingDir,-,h⟩ := except_bind_ok h
  obtain ⟨-,-,h⟩ := except_bind_ok h
  cases h
  exact ⟨hi,hf⟩

lemma takenBack_outcome {e : Err} (hn : config.name≠[]) (hi : Inserts global faults s config)
    (hst : t.store=s.store.insert config hi.2.2) (hc : t.taskCount=s.taskCount)
    (hs : (s.slot index).active=false) (ht : (t.slot index).active=false)
    (hr : ∀ j≠index,t.slot j=s.slot j) :
    ((tasksDbDelete global faults config.name).ignore >>= fun _ => Call.fail e :
      Call PanelState Err Unit).Ensures t (Outcome (fun _ _ => False)
        fun _ u => s.SameTasks u ↔ faults.dbDelete=none) := by
  have hrw : ∃ r∈t.store.rows,r.name=config.name := by
    rw [hst]
    exact ⟨config,by simp [TaskStore.insert],rfl⟩
  refine .bindIgnore ((tasksDbDelete_outcome hn).mono fun r u hu => ?_)
  cases r with
  | ok _ =>
    obtain ⟨hd,rfl⟩ := hu
    refine iff_of_true (sameTasks_of_slot hc ?_ hs ht hr) hd.2.1
    rw [hst]
    exact s.store.delete_insert hi.2.2
  | error _ =>
    obtain ⟨hnt,rfl⟩ := hu
    refine iff_of_false (fun hsm => ?_) fun hnn => hnt ⟨hi.1,hnn,hrw⟩
    have hl := congrArg List.length hsm.2
    simp [hst,TaskStore.insert] at hl

lemma createStored_same_iff (hn : config.name≠[]) (hi : Inserts global faults s config)
    (hf : s.freeIndex none=some index) :
    (createStored global faults config runtimeConfig outCapacity).Ensures
      {s with store := s.store.insert config hi.2.2} (Outcome (fun _ _ => True)
        fun _ t => s.SameTasks t ↔ ¬Starts global faults ∧ faults.dbDelete=none) := by
  obtain ⟨hid,-,hs⟩ := freeIndex_some hf
  generalize hu : ({s with store := s.store.insert config hi.2.2} : PanelState)=u
  have hsl (j : Nat) : u.slot j=s.slot j := by rw [← hu]; rfl
  have hl : index<u.tasks.length := by rw [← hu]; exact hid
  have hso : u.freeIndex none=some index := by rw [← hu]; exact hf
  refine .bindGet ?_
  rw [hso]
  refine .bindStatus ((startTask_outcome hl runtimeConfig).mono fun r t ht => ?_)
  cases r with
  | error e =>
    obtain ⟨hnt,hsr,hc,hin,hr⟩ := ht
    have hrw : t.store=s.store.insert config hi.2.2 := by rw [hsr,← hu]
    have hc : t.taskCount=s.taskCount := by rw [hc,← hu]
    have hr (j : Nat) (hj : j≠index) : t.slot j=s.slot j := (hr j hj).trans (hsl j)
    have hb := takenBack_outcome (e := e) hn hi hrw hc hs hin hr
    refine hb.mono fun r u hu => ?_
    cases r with
    | ok _ => trivial
    | error _ => exact Iff.trans hu (and_iff_right hnt).symm
  | ok _ =>
    have hst := ht.1
    have ha := ht.2.2.1
    generalize taskResponse runtimeConfig faults.live=texts
    refine (respond_outcome texts outCapacity).mono fun r u hu => ?_
    cases r with
    | ok _ => trivial
    | error _ =>
      obtain ⟨out,rfl⟩ := hu
      refine iff_of_false (fun hsm => ?_) fun h => h.1 hst
      have hold := ((hsm.1 index runtimeConfig).mp ha).2.1
      rw [hs] at hold
      cases hold

/-- What the three changes of the panel have in common: a request that is refused changes
nothing, and the store decides about the others. -/
lemma request_same_iff {β : Type} {q : PanelState → Except Err β}
    {work : β → Call PanelState Err Unit} {C : β → Prop} {B : Prop}
    (h : ∀ b,q s=.ok b → (work b).Ensures s
      (Outcome (fun _ _ => True) fun _ t => s.SameTasks t ↔ ¬C b ∨ B)) :
    (do
      Call.require (outCapacity≠0) .invalidArgument
      let s ← Call.get
      let b ← Call.lift (q s)
      work b : Call PanelState Err Unit).Ensures s (Outcome (fun _ _ => True) fun _ t =>
        s.SameTasks t ↔ outCapacity=0 ∨ ¬(∃ b,q s=.ok b ∧ C b) ∨ B) := by
  refine .bindRequire (fun hcp => .bindGet (.bindLift (fun b hb => ?_) fun e he => ?_)) fun hcp => ?_
  · refine (h b hb).mono fun r t ht => ?_
    cases r with
    | ok _ => trivial
    | error _ => simpa [hb,hcp] using ht
  · exact iff_of_true (sameTasks_refl s) (.inr (.inl (by simp [he])))
  · exact iff_of_true (sameTasks_refl s) (.inl (not_not.mp hcp))

lemma createTaskFromJson_same_iff (json : Bytes) :
    (createTaskFromJson global faults json outCapacity).Ensures s (Outcome (fun _ _ => True)
      fun _ t => s.SameTasks t ↔ outCapacity=0 ∨ ¬CreateCommits global faults json s ∨
        ¬Starts global faults ∧ faults.dbDelete=none) := by
  unfold CreateCommits
  rw [← Prod.exists' (p := fun config runtimeConfig =>
    createRequest global json s=.ok (config,runtimeConfig) ∧ Inserts global faults s config)]
  refine request_same_iff (C := fun (r : TaskConfig×TaskConfig) => Inserts global faults s r.1) fun request hr => ?_
  obtain ⟨config,runtimeConfig⟩ := request
  obtain ⟨hn,index,hf⟩ := createRequest_ok hr
  refine .bindStatus ((tasksDbInsert_outcome config).mono fun r t ht => ?_)
  cases r with
  | error e =>
    obtain ⟨hnt,rfl⟩ := ht
    exact .bindModify (.fail (iff_of_true (sameTasks_refl t) (.inl hnt)))
  | ok _ =>
    obtain ⟨hi,hcn,rfl⟩ := ht
    refine (createStored_same_iff hn hi hf).mono fun r u hu => ?_
    cases r with
    | ok _ => trivial
    | error _ => exact hu.trans (or_iff_right (not_not.mpr hi)).symm

lemma not_sameTasks_of_retired (ha : s.ActiveAt index config)
    (ht : (t.slot index).active=false) : ¬s.SameTasks t := by
  intro hsm
  have hs := ((hsm.1 index config).mpr ha).2.1
  rw [ht] at hs
  cases hs

lemma retired_inactive (index : Nat) (s : PanelState) : ((s.setSlot index (taskDeinit
    {s.slot index with deleted := true,stopRequested := true})).slot index).active=false := by
  by_cases hi : index < s.tasks.length
  · rw [slot_setSlot_self hi]
    unfold taskDeinit
    split_ifs <;> simp [TaskSlot.active]
  have hn : s.tasks.length ≤ index := Nat.le_of_not_lt hi
  simp [PanelState.slot,PanelState.setSlot,List.set_eq_of_length_le hn,hn,zeroSlot,TaskSlot.active]

/-- A change that retires a task once the store has taken it is not undone. -/
lemma retire_same_iff {db : Call PanelState Err Unit} {rest : Unit → Call PanelState Err Unit}
    {C : Prop} (ha : s.ActiveAt index config)
    (hdb : db.Ensures s (Outcome (fun _ t => C ∧ ∃ store,t={s with store}) fun _ t => ¬C ∧ t=s))
    (hr : ∀ u : PanelState,u.tasks.length=s.tasks.length → (u.slot index).active=false →
      (rest ()).Ensures u fun _ t => (t.slot index).active=false) :
    (db >>= fun _ => retireTask index >>= rest).Ensures s
      (Outcome (fun _ _ => True) fun _ t => s.SameTasks t ↔ ¬C ∨ False) := by
  refine hdb.bind (fun _ t ht => ?_) fun e t ht => ?_
  · obtain ⟨hc,store,rfl⟩ := ht
    refine .bindModify ((hr _ (by simp) (retired_inactive index {s with store})).mono
      fun r t ht => ?_)
    cases r with
    | ok _ => trivial
    | error _ => exact iff_of_false (not_sameTasks_of_retired ha ht) (by simpa using hc)
  obtain ⟨hn,rfl⟩ := ht
  exact iff_of_true (sameTasks_refl t) (.inl hn)

lemma respond_retired {u : PanelState} (hu : (u.slot index).active=false) (texts : List Bytes) :
    (respond texts outCapacity).Ensures u fun _ t => (t.slot index).active=false := by
  refine (respond_outcome texts outCapacity).mono fun _ t ht => ?_
  obtain ⟨out,rfl⟩ := ht
  exact hu

lemma updateTaskFromJson_same_iff (taskName json : Bytes) :
    (updateTaskFromJson global faults taskName json outCapacity).Ensures s
      (Outcome (fun _ _ => True) fun _ t => s.SameTasks t ↔
        outCapacity=0 ∨ ¬UpdateCommits global faults taskName json s ∨ False) := by
  refine request_same_iff fun request hr => ?_
  obtain ⟨hid,hf⟩ := updateRequest_ok hr
  obtain ⟨hnm,ha⟩ := idleTask_ok hid
  obtain ⟨hi,ho,-⟩ := freeIndex_some hf
  have hne : request.index≠request.freeIndex := fun heq => ho (congrArg some heq.symm)
  refine retire_same_iff ha (tasksDbUpdate_outcome hnm request.config) fun u hl hu => ?_
  refine (startTask_outcome (hl ▸ hi) request.runtimeConfig).bind (fun _ t ht => ?_) fun _ t ht => ?_
  · exact respond_retired (by rw [ht.2.2.2 _ hne,hu]) _
  · rw [ht.2.2.2.2 _ hne,hu]

lemma deleteTaskByName_same_iff (taskName : Bytes) :
    (deleteTaskByName global faults taskName outCapacity).Ensures s
      (Outcome (fun _ _ => True) fun _ t => s.SameTasks t ↔
        outCapacity=0 ∨ ¬DeleteCommits global faults taskName s ∨ False) := by
  refine request_same_iff (q := fun s => idleTask s taskName) fun index hi => ?_
  obtain ⟨hnm,ha⟩ := idleTask_ok hi
  refine retire_same_iff ha ((tasksDbDelete_outcome hnm).mono fun r t ht => ?_)
    fun u _ hu => respond_retired hu _
  cases r with
  | ok _ => exact ⟨ht.1,_,ht.2⟩
  | error _ => exact ht

inductive PanelChange where
  | create (json : Bytes)
  | update (taskName json : Bytes)
  | delete (taskName : Bytes)

def PanelChange.run (global : GlobalConfig) (faults : Faults) (outCapacity : Nat) :
    PanelChange → Call PanelState Err Unit
  | .create json => createTaskFromJson global faults json outCapacity
  | .update taskName json => updateTaskFromJson global faults taskName json outCapacity
  | .delete taskName => deleteTaskByName global faults taskName outCapacity

def PanelChange.Commits (global : GlobalConfig) (faults : Faults) (s : PanelState) :
    PanelChange → Prop
  | .create json => CreateCommits global faults json s
  | .update taskName json => UpdateCommits global faults taskName json s
  | .delete taskName => DeleteCommits global faults taskName s

/-- Only the row of a new task that does not come up is taken back, if it can be. -/
def PanelChange.TakenBack (global : GlobalConfig) (faults : Faults) : PanelChange → Prop
  | .create _ => ¬Starts global faults ∧ faults.dbDelete=none
  | .update _ _ => False
  | .delete _ => False

/-- A request that fails leaves the tasks and the store as they were exactly when the store did
not take the change or gave it back. -/
theorem failed_change_same_iff {change : PanelChange} {t : PanelState} {e : Err}
    (h : (change.run global faults outCapacity).run s=(.error e,t)) :
    s.SameTasks t ↔ outCapacity=0 ∨ ¬change.Commits global faults s ∨
      change.TakenBack global faults := by
  cases change with
  | create json => exact (createTaskFromJson_same_iff json).of_eq h
  | update taskName json => exact (updateTaskFromJson_same_iff taskName json).of_eq h
  | delete taskName => exact (deleteTaskByName_same_iff taskName).of_eq h

def webConfig : TaskConfig where
  name := cstr "web"
  listenAddress := []
  command := cstr "sh"
  workingDir := cstr "/srv"
  port := 2222
  restartLimit := 8
  restartWindowSec := 60
  replayBufferBytes := 1048576
  useConpty := true
  replayOnAttach := true
  repaintOnAttach := true
  screenSnapshot := true
  useSftp := true

def webState : PanelState where
  tasks := [{zeroSlot with config := webConfig,initialized := true,listenerThreadRunning := true},
    zeroSlot]
  taskCount := 1
  taskLockInitialized := true
  store := ⟨[webConfig],by decide,by decide⟩
  out := []

def listenerFails : Faults where
  dbInsert := none
  dbUpdate := none
  dbDelete := none
  sessionManagerInit := none
  termInit := none
  openListener := some .platform
  startListener := none
  live := ⟨false,false,false,false,false,false,false,false,0,0,0,0,0,0,0,0,0,[]⟩

def newTaskJson : Bytes := cstr "\x7b\"name\":\"db\",\"command\":\"sh\",\"port\":2300\x7d"

lemma listenerFails_not_starts : ¬Starts panelGlobal listenerFails := by
  unfold Starts
  decide

theorem failed_change_same_iff_create :
    (((PanelChange.create newTaskJson).run panelGlobal listenerFails 32768).run webState).1=
      .error .platform ∧
    webState.SameTasks
      (((PanelChange.create newTaskJson).run panelGlobal listenerFails 32768).run webState).2 := by
  have hf : (((PanelChange.create newTaskJson).run panelGlobal listenerFails 32768).run
      webState).1=.error .platform := by
    decide +kernel
  have hi := failed_change_same_iff (Prod.ext hf rfl)
  exact ⟨hf,hi.mpr (.inr (.inr ⟨listenerFails_not_starts,rfl⟩))⟩

def newPortJson : Bytes := cstr "\x7b\"port\":2223\x7d"

/-- A task that is to listen on a port that is in use is lost, and its row is changed. -/
theorem update_loses_task :
    (((PanelChange.update (cstr "web") newPortJson).run panelGlobal listenerFails 32768).run
      webState).1=.error .platform ∧
    webState.ActiveAt 0 webConfig ∧
    (∀ i config,¬(((PanelChange.update (cstr "web") newPortJson).run panelGlobal listenerFails
      32768).run webState).2.ActiveAt i config) ∧
    (((PanelChange.update (cstr "web") newPortJson).run panelGlobal listenerFails 32768).run
      webState).2.store.rows=[{webConfig with port := 2223}] := by
  have hc : (((PanelChange.update (cstr "web") newPortJson).run panelGlobal listenerFails
      32768).run webState).2.taskCount=1 := by
    decide +kernel
  have hs : ((((PanelChange.update (cstr "web") newPortJson).run panelGlobal listenerFails
      32768).run webState).2.slot 0).active=false := by
    decide +kernel
  refine ⟨by decide +kernel,⟨by decide,by decide,rfl⟩,fun i config ha => ?_,by decide +kernel⟩
  obtain rfl : i=0 := by
    have hlt := ha.1
    rw [hc] at hlt
    omega
  rw [PanelState.ActiveAt,hs] at ha
  cases ha.2.1

end EMSSHD.Emtask

import EMSSHD.App.Emtask.PanelAuth

namespace EMSSHD.Emtask

def strstr (needle : Bytes) : Bytes → Option Nat
  | [] => none
  | ch::rest =>
    if (ch::rest).take needle.length=needle then some 0 else (strstr needle rest).map (·+1)

/-- emtask_panel_find_header_end, as the number of bytes of the header -/
def findHeaderEnd (request : Bytes) : Option Nat :=
  match strstr [13,10,13,10] request with
  | some i => some (i+4)
  | none => (strstr [10,10] request).map (·+2)

def contentLength (request : Bytes) : Except Err Nat :=
  match headerValue request (cstr "Content-Length") 64 with
  | none => .ok 0
  | some header => parseUnsigned header

inductive Recv where
  | timeout
  | closed
  | data (bytes : Bytes)

def completeRequest (buffer : Bytes) : Except Err (Option (Bytes×Bytes)) :=
  match findHeaderEnd (cString buffer) with
  | none => .ok none
  | some headerBytes => match contentLength (cString buffer) with
    | .error e => .error e
    | .ok length =>
      if 32768 < length then .error .bufferTooSmall
      else if headerBytes+length ≤ buffer.length then
        .ok (some (cString (buffer.take (headerBytes+length)),(buffer.drop headerBytes).take length))
      else .ok none

/-- The loop of emtask_panel_read_http_request. A receive gives no more than the buffer has room
for, and a peer that sends nothing more runs into the time limit. -/
def readHttpRequestFrom (requestCapacity : Nat) (buffer : Bytes) :
    List Recv → Except Err (Bytes×Bytes)
  | [] => .error .platform
  | .timeout::_ => .error .platform
  | .closed::_ =>
    if requestCapacity ≤ buffer.length+1 then .error .bufferTooSmall else .error .platform
  | .data bytes::recvs =>
    if requestCapacity ≤ buffer.length+1 then .error .bufferTooSmall
    else
      let chunk := bytes.take (requestCapacity-buffer.length-1)
      if chunk=[] then .error .platform
      else match completeRequest (buffer ++ chunk) with
        | .error e => .error e
        | .ok (some request) => .ok request
        | .ok none => readHttpRequestFrom requestCapacity (buffer ++ chunk) recvs

def readHttpRequest (recvs : List Recv) : Except Err (Bytes×Bytes) :=
  readHttpRequestFrom 65536 [] recvs

def scanWord (n : Nat) (text : Bytes) : Bytes×Bytes :=
  let p := text.dropWhile isCSpace
  let word := (p.takeWhile (!isCSpace ·)).take n
  (word,p.drop word.length)

def requestLine (request : Bytes) : Option (Bytes×Bytes) :=
  let (method,rest) := scanWord 15 request
  let (target,_) := scanWord 511 rest
  if method=[] ∨ target=[] then none else some (method,target)

def pathAndQuery (target : Bytes) : Bytes×Bytes := (cutAt 63 target).getD (target,[])

inductive PanelOp where
  | registerAuthorizedKey (json : Bytes)
  | restartTask (name : Bytes)
  | createTask (json : Bytes)
  | updateTask (name json : Bytes)
  | deleteTask (name : Bytes)
  | buildStatus (tasksOnly : Bool)
  deriving DecidableEq

structure OpResult where
  status : Except Err Unit
  response : Bytes

structure Answer where
  code : Nat
  contentType : Bytes
  body : Bytes
  deriving DecidableEq

def jsonAnswer (code : Nat) (body : Bytes) : Answer := ⟨code,cstr "application/json",body⟩

def errorAnswer (code : Nat) (error : String) : Answer :=
  jsonAnswer code (cstr "\x7b\"error\":\"" ++ cstr error ++ cstr "\"\x7d\n")

def answerFor (op : PanelOp) (result : OpResult) : Answer :=
  match op,result.status with
  | .createTask _,.ok () => jsonAnswer 201 result.response
  | _,.ok () => jsonAnswer 200 result.response
  | .registerAuthorizedKey _,.error e => match e with
    | .readOnly => errorAnswer 409 "authorized_keys_not_configured"
    | .unsupported => errorAnswer 409 "publickey_auth_unavailable"
    | .invalidArgument | .malformedPacket | .bufferTooSmall => errorAnswer 400 "invalid_public_key"
    | _ => errorAnswer 500 "authorized_keys_write_failed"
  | .restartTask _,.error e => match e with
    | .notFound => errorAnswer 404 "task_not_found"
    | .readOnly => errorAnswer 409 "task_in_use"
    | _ => errorAnswer 500 "rerun_task_failed"
  | .createTask _,.error e => match e with
    | .alreadyExists => errorAnswer 409 "task_conflict"
    | .bufferTooSmall => errorAnswer 409 "task_capacity_full"
    | .invalidArgument | .malformedPacket => errorAnswer 400 "invalid_task"
    | .notFound | .unsupported | .platform =>
      if result.response≠[] then jsonAnswer 500 result.response
      else errorAnswer 500 "create_task_failed"
    | _ => errorAnswer 500 "create_task_failed"
  | .updateTask _ _,.error e => match e with
    | .notFound => errorAnswer 404 "task_not_found"
    | .alreadyExists | .bufferTooSmall => errorAnswer 409 "task_conflict"
    | .readOnly => errorAnswer 409 "task_in_use"
    | .invalidArgument | .malformedPacket => errorAnswer 400 "invalid_task"
    | _ => errorAnswer 500 "update_task_failed"
  | .deleteTask _,.error e => match e with
    | .notFound => errorAnswer 404 "task_not_found"
    | .readOnly => errorAnswer 409 "task_in_use"
    | .invalidArgument | .malformedPacket => errorAnswer 400 "invalid_task"
    | _ => errorAnswer 500 "delete_task_failed"
  | .buildStatus _,.error _ => errorAnswer 500 "status_too_large"

def taskName (memory query : Bytes) : Option Bytes :=
  let (found,name) := queryValue memory query (cstr "name") emtaskMaxTaskName
  if found=false ∨ name=[] then none else some name

def indexPage : Bytes :=
  cstr ("<!doctype html><html><head><meta charset=\"utf-8\"><title>emtask panel</title></head>" ++
    "<body><h1>emtask panel</h1><ul>" ++
    "<li><a href=\"/status\">/status</a></li>" ++
    "<li><a href=\"/tasks\">/tasks</a></li>" ++
    "<li>POST /tasks 添加动态子任务</li>" ++
    "<li>PATCH /tasks?name=&lt;task&gt; 修改动态子任务</li>" ++
    "<li>DELETE /tasks?name=&lt;task&gt; 删除动态子任务</li>" ++
    "<li>POST /tasks/restart?name=&lt;task&gt; 重新运行子任务命令</li>" ++
    "<li>POST /auth/authorized-keys 注册客户端 SSH 公钥</li>" ++
    "<li><a href=\"/health\">/health</a></li>" ++
    "</ul></body></html>\n")

def route (memory method path query body : Bytes) : Answer ⊕ PanelOp :=
  if method=cstr "POST" then
    if path=cstr "/auth/authorized-keys" ∨ path=cstr "/auth/public-keys" then
      if body=[] then .inl (errorAnswer 400 "empty_body")
      else .inr (.registerAuthorizedKey body)
    else if path=cstr "/tasks/restart" ∨ path=cstr "/tasks/rerun" then
      match taskName memory query with
      | none => .inl (errorAnswer 400 "missing_task_name")
      | some name => .inr (.restartTask name)
    else if path≠cstr "/tasks" then .inl (errorAnswer 404 "not_found")
    else if body=[] then .inl (errorAnswer 400 "empty_body")
    else .inr (.createTask body)
  else if method=cstr "PATCH" then
    if path≠cstr "/tasks" then .inl (errorAnswer 404 "not_found")
    else match taskName memory query with
      | none => .inl (errorAnswer 400 "missing_task_name")
      | some name =>
        if body=[] then .inl (errorAnswer 400 "empty_body") else .inr (.updateTask name body)
  else if method=cstr "DELETE" then
    if path≠cstr "/tasks" then .inl (errorAnswer 404 "not_found")
    else match taskName memory query with
      | none => .inl (errorAnswer 400 "missing_task_name")
      | some name => .inr (.deleteTask name)
  else if path=cstr "/health" then .inl (jsonAnswer 200 (cstr "\x7b\"status\":\"ok\"\x7d\n"))
  else if path=cstr "/" then .inl ⟨200,cstr "text/html; charset=utf-8",indexPage⟩
  else if path=cstr "/status" ∨ path=cstr "/tasks" then
    .inr (.buildStatus (path=cstr "/tasks"))
  else .inl (errorAnswer 404 "not_found")

variable {σ : Type}

structure PanelEnv (σ : Type) where
  global : GlobalConfig
  hmac : HmacSha1
  now : Int
  -- the bytes behind the buffers of the handler
  memory : Bytes
  ops : PanelOp → σ → OpResult×σ

structure Handled (σ : Type) where
  called : Option PanelOp
  answered : Option Answer
  app : σ

/-- emtask_panel_handle_connection -/
def handleConnection (env : PanelEnv σ) (recvs : List Recv) (app : σ) : Handled σ :=
  match readHttpRequest recvs with
  | .error .bufferTooSmall => ⟨none,some (errorAnswer 413 "payload_too_large"),app⟩
  | .error _ => ⟨none,none,app⟩
  | .ok (request,body) => match requestLine request with
    | none => ⟨none,some (errorAnswer 400 "bad_request"),app⟩
    | some (method,target) =>
      let (path,query) := pathAndQuery target
      if method≠cstr "GET" ∧ method≠cstr "POST" ∧ method≠cstr "PATCH" ∧ method≠cstr "DELETE" then
        ⟨none,some (errorAnswer 405 "method_not_allowed"),app⟩
      else if verifyRequestAuth env.hmac env.global env.now env.memory request query=false then
        ⟨none,some (errorAnswer 401 "unauthorized"),app⟩
      else match route env.memory method path query body with
        | .inl answer => ⟨none,some answer,app⟩
        | .inr op => ⟨some op,some (answerFor op (env.ops op app).1),(env.ops op app).2⟩

/-- The panel has called something, or given an answer that tells more than a refusal. -/
def Handled.Served (handled : Handled σ) : Prop :=
  handled.called≠none ∨ ∃ answer∈handled.answered,answer.code∉[400,401,405,413]

lemma length_requestLine {request method target : Bytes}
    (h : requestLine request=some (method,target)) : target.length≤511 := by
  obtain ⟨-,hl⟩ := Option.ite_none_left_eq_some.mp h
  cases hl
  exact List.length_take_le 511 _

lemma length_query_le (target : Bytes) : (pathAndQuery target).2.length≤target.length := by
  unfold pathAndQuery cutAt
  split_ifs
  · have hd := (dropWhile_suffix (l := target) (·≠63)).length_le
    simp only [Option.getD_some,length_tail]
    omega
  · exact Nat.zero_le _

lemma served_cases {env : PanelEnv σ} {recvs : List Recv} {app : σ}
    (h : (handleConnection env recvs app).Served) : ∃ request body method target,
      readHttpRequest recvs=.ok (request,body) ∧ requestLine request=some (method,target) ∧
      verifyRequestAuth env.hmac env.global env.now env.memory request
        (pathAndQuery target).2=true := by
  have hr (code : Nat) (error : String) (hcd : code∈[400,401,405,413]) :
      ¬(⟨none,some (errorAnswer code error),app⟩ : Handled σ).Served := by
    intro hs
    rcases hs with hc | ⟨answer,ha,ho⟩
    · exact hc rfl
    cases ha
    exact ho hcd
  unfold handleConnection at h
  split at h
  · exact absurd h (hr 413 _ (by decide))
  · rcases h with hc | ⟨answer,ha,-⟩
    · exact absurd rfl hc
    · cases ha
  next request body hrd =>
  split at h
  · exact absurd h (hr 400 _ (by decide))
  next method target hl =>
  simp only at h
  split_ifs at h with hm hat
  · exact absurd h (hr 405 _ (by decide))
  · exact absurd h (hr 401 _ (by decide))
  · exact ⟨request,body,method,target,hrd,hl,Bool.eq_true_of_not_eq_false hat⟩

/-- The panel serves only requests that have the token and a current code. -/
theorem panel_auth_sound {env : PanelEnv σ} (hglobal : env.global.ChecksBoth) {recvs : List Recv}
    {app : σ} (h : (handleConnection env recvs app).Served) : ∃ request body method target,
      readHttpRequest recvs=.ok (request,body) ∧ requestLine request=some (method,target) ∧
      TokenPresented request (pathAndQuery target).2 env.global.panelToken ∧
      ∃ otp,OtpPresented request (pathAndQuery target).2 otp ∧
        CurrentCode env.hmac env.global env.now otp := by
  obtain ⟨request,body,method,target,hr,hl,ha⟩ := served_cases h
  have ht := length_requestLine hl
  have hq : (pathAndQuery target).2.length < emtaskMaxText :=
    ((length_query_le target).trans ht).trans_lt (by decide)
  exact ⟨request,body,method,target,hr,hl,verifyRequestAuth_sound hglobal hq ha⟩

def zeroCodes : PanelEnv Unit where
  global := panelGlobal
  hmac := fun _ _ => some fun _ => 0
  now := 0
  memory := []
  ops := fun _ app => (⟨.ok (),[]⟩,app)

def zerosRequest : Bytes := cstr "GET /health?token=token&otp=000000 HTTP/1.1\r\n\r\n"

lemma panelGlobal_checksBoth : panelGlobal.ChecksBoth :=
  ⟨by decide,by decide,by decide,by decide⟩

theorem panel_auth_sound_zeros : ∃ request body method target,
    readHttpRequest [.data zerosRequest]=.ok (request,body) ∧
    requestLine request=some (method,target) ∧
    TokenPresented request (pathAndQuery target).2 (cstr "token") ∧
    ∃ otp,OtpPresented request (pathAndQuery target).2 otp ∧
      CurrentCode zeroCodes.hmac zeroCodes.global zeroCodes.now otp := by
  have hs : (handleConnection zeroCodes [.data zerosRequest] ()).Served :=
    .inr ⟨jsonAnswer 200 (cstr "\x7b\"status\":\"ok\"\x7d\n"),by decide +kernel,by decide⟩
  exact panel_auth_sound panelGlobal_checksBoth hs

def cutRequest : Bytes := cstr "GET /health?token=token HTTP/1.1\r\nX-OTP:" ++
  List.replicate 57 32 ++ cstr "0000009\r\n\r\n"

lemma zeroCodes_code {otp : Bytes}
    (h : CurrentCode zeroCodes.hmac zeroCodes.global zeroCodes.now otp) : otp=cstr "000000" := by
  obtain ⟨secret,candidate,-,-,-,-,hc⟩ := h
  unfold totpCode at hc
  split_ifs at hc
  exact (Except.ok.inj hc).symm

/-- The field is not a code, its first 63 bytes are one, and the request is served. -/
theorem otp_header_cut :
    readHttpRequest [.data cutRequest]=.ok (cutRequest,[]) ∧
    requestLine cutRequest=some (cstr "GET",cstr "/health?token=token") ∧
    (handleConnection zeroCodes [.data cutRequest] ()).Served ∧
    ∀ otp,CurrentCode zeroCodes.hmac zeroCodes.global zeroCodes.now otp →
      (∀ field∈headerFields cutRequest,sameNocase field.1 (cstr "X-Panel-OTP")=true ∨
        sameNocase field.1 (cstr "X-OTP")=true → trim field.2≠otp) ∧
      ∀ param∈queryParams (pathAndQuery (cstr "/health?token=token")).2,
        param.1=cstr "otp" → percentDecode param.2≠otp := by
  have hs : (handleConnection zeroCodes [.data cutRequest] ()).Served :=
    .inr ⟨jsonAnswer 200 (cstr "\x7b\"status\":\"ok\"\x7d\n"),by decide +kernel,by decide⟩
  refine ⟨by decide +kernel,by decide +kernel,hs,fun otp ho => ?_⟩
  rw [zeroCodes_code ho]
  exact ⟨by decide +kernel,by decide +kernel⟩

end EMSSHD.Emtask

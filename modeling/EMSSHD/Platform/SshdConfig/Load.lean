import EMSSHD.Framework.Lines
import EMSSHD.Platform.SshdConfig.Directive

namespace EMSSHD.SshdConfig

open Call

section
inductive FileEvent where
  | openFile (ok : Bool)
  | read
  | close
  deriving DecidableEq

variable {σ α : Type}

def note (event : FileEvent) : Call (σ×List FileEvent) Err Unit :=
  Call.modify fun s => (s.1,s.2++[event])

def orClose (c : Call (σ×List FileEvent) Err α) : Call (σ×List FileEvent) Err α := do
  match ← c.status with
  | .error e => do
    note .close
    Call.fail e
  | .ok a => pure a

def configLineMax : Nat := 1024

def parseBufferedLine (ctx : Option MatchContext) (line : Bytes) :
    Call (SshdConfigFile×Bool) Err Unit :=
  parseLineInplace ctx (cString line)

def takeChunk (ctx : Option MatchContext) (line chunk : Bytes) :
    Call (SshdConfigFile×Bool) Err Bytes :=
  Lines.feed configLineMax 10 .bufferTooSmall (parseBufferedLine ctx) line chunk

def readLoop (ctx : Option MatchContext) :
    List (Except Err Bytes) → Bytes → Call ((SshdConfigFile×Bool)×List FileEvent) Err Bytes
  | [],line => do
    note .read
    pure line
  | .error e::_,_ => do
    note .read
    note .close
    Call.fail e
  | .ok chunk::reads,line => do
    note .read
    if chunk=[] then pure line
    else do
      let begun ← orClose (takeChunk ctx line chunk).onFst
      readLoop ctx reads begun

def readToEnd (ctx : Option MatchContext) (reads : List (Except Err Bytes)) (line : Bytes) :
    Call ((SshdConfigFile×Bool)×List FileEvent) Err Unit := do
  let last ← readLoop ctx reads line
  Call.onlyIf (last≠[]) (orClose (parseBufferedLine ctx last).onFst)
  note .close

def readAndParseFileViaFs (fs : Option TextFs) (path : Option Bytes) (ctx : Option MatchContext) :
    Call (SshdConfigFile×List FileEvent) Err Unit :=
  match fs,path with
  | some fs,some path =>
    match fs path with
    | .error e => do
      note (.openFile false)
      Call.fail e
    | .ok reads => do
      note (.openFile true)
      Call.withLocal true (readToEnd ctx reads [])
  | _,_ => Call.fail .invalidArgument

def sshSshdConfigFileLoadWithMatchContext (fs : Option TextFs) (path : Option Bytes)
    (ctx : Option MatchContext) : Call (SshdConfigFile×List FileEvent) Err Unit := do
  Call.modify fun s => (sshSshdConfigFileDefaults,s.2)
  readAndParseFileViaFs fs path ctx
end

section
variable {ctx : Option MatchContext} {line : Bytes} {s : SshdConfigFile×Bool}

def takeReads (ctx : Option MatchContext) :
    List (Except Err Bytes) → Bytes → Call (SshdConfigFile×Bool) Err Bytes
  | [],line => pure line
  | .error e::_,_ => Call.fail e
  | .ok chunk::reads,line =>
    if chunk=[] then pure line else takeChunk ctx line chunk >>= takeReads ctx reads

variable {σ : Type}

lemma run_note (event : FileEvent) (t : σ×List FileEvent) :
    (note event : Call _ Err Unit).run t=(.ok (),(t.1,t.2++[event])) := rfl

lemma orClose_onFst {α : Type} (c : Call σ Err α) (t : σ×List FileEvent) :
    (orClose c.onFst).run t=match c.run t.1 with
      | (.ok a,u) => (.ok a,(u,t.2))
      | (.error e,u) => (.error e,(u,t.2++[.close])) := by
  unfold orClose
  rw [run_bind_ok (run_status _ t),run_onFst]
  rcases c.run t.1 with ⟨_ | a,u⟩ <;> rfl

lemma lastLine_run (last : Bytes) (events : List FileEvent) :
    (do
      Call.onlyIf (last≠[]) (orClose (parseBufferedLine ctx last).onFst)
      note .close : Call _ Err Unit).run (s,events)=
      (((parseBufferedLine ctx last).run s).1,
        (((parseBufferedLine ctx last).run s).2,events++[.close])) := by
  by_cases hl : last=[]
  · subst hl
    rfl
  rw [Call.onlyIf,if_pos hl,run_bind,orClose_onFst]
  rcases (parseBufferedLine ctx last).run s with ⟨_ | a,u⟩ <;> rfl

lemma readToEnd_run (reads : List (Except Err Bytes)) (line : Bytes) (s : SshdConfigFile×Bool)
    (events : List FileEvent) : ∃ k,(readToEnd ctx reads line).run (s,events)=
      (((takeReads ctx reads line >>= parseBufferedLine ctx).run s).1,
        (((takeReads ctx reads line >>= parseBufferedLine ctx).run s).2,
          events++(List.replicate k .read++[.close]))) := by
  induction reads generalizing line s events with
  | nil =>
    refine ⟨1,?_⟩
    rw [readToEnd,readLoop,bind_assoc,run_bind_ok (run_note _ _),pure_bind,lastLine_run]
    rw [append_assoc]
    rfl
  | cons result reads ih =>
    cases result with
    | error e =>
      refine ⟨1,?_⟩
      rw [readToEnd,readLoop,bind_assoc,run_bind_ok (run_note _ _),bind_assoc,
        run_bind_ok (run_note _ _)]
      change (Except.error e,(s,events++[.read]++[.close]))=_
      rw [append_assoc]
      rfl
    | ok chunk =>
      rw [readToEnd,readLoop,takeReads,bind_assoc]
      by_cases hch : chunk=[]
      · refine ⟨1,?_⟩
        rw [if_pos hch,if_pos hch,run_bind_ok (run_note _ _),pure_bind,lastLine_run,append_assoc]
        rfl
      rw [if_neg hch,if_neg hch,run_bind_ok (run_note _ _),bind_assoc,bind_assoc]
      have hc := orClose_onFst (takeChunk ctx line chunk) (s,events++[.read])
      rcases ht : (takeChunk ctx line chunk).run s with ⟨e | begun,u⟩
      · refine ⟨1,?_⟩
        rw [ht] at hc
        rw [run_bind_error hc,run_bind_error ht,append_assoc]
        rfl
      rw [ht] at hc
      obtain ⟨k,hk⟩ := ih begun u (events++[.read])
      refine ⟨k+1,?_⟩
      rw [run_bind_ok hc,run_bind_ok ht]
      refine hk.trans ?_
      rw [List.replicate_succ,append_assoc]
      rfl

lemma takeReads_chunks {chunks : List Bytes} (hc : ∀ chunk∈chunks,chunk≠[]) (line : Bytes) :
    takeReads ctx (chunks.map .ok) line=takeChunk ctx line chunks.flatten := by
  induction chunks generalizing line with
  | nil => rfl
  | cons chunk chunks ih =>
    obtain ⟨hch,hr⟩ := forall_mem_cons.mp hc
    rw [map_cons,takeReads,if_neg hch,flatten_cons,takeChunk,takeChunk,Lines.feed_append]
    congr 1
    funext begun
    exact ih hr begun
end

section
def matchValue (line : Bytes) : Option Bytes :=
  match lineMeaning line with
  | .matchBlock value => some value
  | _ => none

def inEffect (ctx : Option MatchContext) (before : List Bytes) : Bool :=
  match (before.filterMap matchValue).getLast? with
  | none => true
  | some value => (evaluateMatchExpression value ctx).toOption=some true

def loadLine (ctx : Option MatchContext) (before : List Bytes) (line : Bytes) :
    Call SshdConfigFile Err Unit :=
  match lineMeaning line with
  | .nothing => pure ()
  | .unfinished => Call.fail .invalidArgument
  | .matchBlock value => do
    let _ ← Call.lift (evaluateMatchExpression value ctx)
    pure ()
  | .directive key value => Call.onlyIf (inEffect ctx before=true) (parseOneDirective key value)

def loadLines (ctx : Option MatchContext) : List Bytes → List Bytes → Call SshdConfigFile Err Unit
  | _,[] => pure ()
  | before,line::lines => do
    Call.require (line.length<configLineMax) .bufferTooSmall
    loadLine ctx before line
    loadLines ctx (before++[line]) lines

variable {ctx : Option MatchContext} {before lines : List Bytes} {line : Bytes}

lemma inEffect_snoc_match {value : Bytes} {matched : Bool} (hl : matchValue line=some value)
    (he : evaluateMatchExpression value ctx=.ok matched) :
    inEffect ctx (before++[line])=matched := by
  unfold inEffect
  rw [filterMap_append,List.filterMap_cons_some hl,filterMap_nil,List.getLast?_concat]
  cases matched <;> simp [he,Except.toOption]

lemma inEffect_snoc_other (hl : matchValue line=none) :
    inEffect ctx (before++[line])=inEffect ctx before := by
  unfold inEffect
  rw [filterMap_append,List.filterMap_cons_none hl,filterMap_nil,append_nil]

lemma parseLineInplace_run (c : SshdConfigFile) :
    (parseLineInplace ctx line).Ensures (c,inEffect ctx before) fun r t =>
      (loadLine ctx before line).run c=(r,t.1) ∧
        (r=.ok () → t.2=inEffect ctx (before++[line])) := by
  rw [parseLineInplace_eq]
  unfold loadLine
  cases hm : lineMeaning line with
  | nothing =>
    have ho : matchValue line=none := by rw [matchValue,hm]
    exact ⟨rfl,fun _ => (inEffect_snoc_other ho).symm⟩
  | unfinished => exact ⟨rfl,fun h => by cases h⟩
  | matchBlock value =>
    have hmt : matchValue line=some value := by rw [matchValue,hm]
    refine .bindLift (fun matched he => ?_) fun e he => ?_
    · refine ⟨?_,fun _ => (inEffect_snoc_match hmt he).symm⟩
      dsimp only
      rw [he]
      rfl
    refine ⟨?_,fun h => by cases h⟩
    dsimp only
    rw [he]
    rfl
  | directive key value =>
    have ho : matchValue line=none := by rw [matchValue,hm]
    have ha : inEffect ctx (before++[line])=inEffect ctx before := inEffect_snoc_other ho
    refine .bindGet (.ite (fun hof => ?_) fun hon => ?_)
    · have hno : ¬inEffect ctx before=true := by
        rw [show inEffect ctx before=false from hof]
        decide
      refine ⟨?_,fun _ => ha.symm⟩
      dsimp only
      rw [Call.onlyIf,if_neg hno]
      rfl
    have hy : inEffect ctx before=true := by simpa using hon
    refine ⟨?_,fun _ => ha.symm⟩
    dsimp only
    rw [Call.onlyIf,if_pos hy]
    rfl

lemma each_parseLineInplace (before : List Bytes) (c : SshdConfigFile) :
    (Lines.each configLineMax .bufferTooSmall (parseLineInplace ctx) lines).Ensures
      (c,inEffect ctx before) fun r t => (loadLines ctx before lines).run c=(r,t.1) := by
  induction lines generalizing before c with
  | nil => exact rfl
  | cons line lines ih =>
    refine .bindRequire (fun hl => ?_) fun hl => ?_
    · refine .bind (parseLineInplace_run c) (fun _ t ht => ?_) fun e t ht => ?_
      · obtain ⟨hln,ha⟩ := ht
        have hr := ih (before++[line]) t.1
        rw [← ha rfl] at hr
        refine hr.mono fun r u hu => ?_
        rw [loadLines,run_bind_ok (run_require_of _ c hl),run_bind_ok hln,hu]
      · rw [loadLines,run_bind_ok (run_require_of _ c hl),run_bind_error ht.1]
    · rw [loadLines,run_bind_error (run_require_not _ c hl)]
end

section
variable {ctx : Option MatchContext} {before lines : List Bytes} {line : Bytes}
  {a b : SshdConfigFile} {keyword : Keyword}

/-- The line gives the keyword this value. -/
def Gives (line : Bytes) (keyword : Keyword) (value : Bytes) : Prop :=
  ∃ key,lineMeaning line=.directive key value ∧ keywordOf key=some keyword

lemma Gives.loadLine {value : Bytes} (h : Gives line keyword value) (ha : inEffect ctx before=true) :
    loadLine ctx before line=keywordDirective value keyword := by
  obtain ⟨key,hm,hk⟩ := h
  unfold SshdConfig.loadLine
  rw [hm]
  dsimp only
  rw [Call.onlyIf,if_pos ha,parseOneDirective,hk]

def Sets (ctx : Option MatchContext) (before : List Bytes) (line : Bytes) (keyword : Keyword) :
    Prop :=
  ∃ key value,lineMeaning line=.directive key value ∧ keywordOf key=some keyword ∧
    inEffect ctx before=true

lemma Sets.loadLine (h : Sets ctx before line keyword) :
    ∃ value,loadLine ctx before line=keywordDirective value keyword := by
  obtain ⟨key,value,hm,hk,ha⟩ := h
  exact ⟨value,Gives.loadLine ⟨key,hm,hk⟩ ha⟩

lemma loadLine_cases (hr : (loadLine ctx before line).run a=(.ok (),b)) :
    a=b ∨ ∃ keyword,Sets ctx before line keyword := by
  unfold loadLine at hr
  cases hm : lineMeaning line with
  | nothing =>
    rw [hm] at hr
    exact .inl (Prod.mk.inj hr).2
  | unfinished =>
    rw [hm] at hr
    cases hr
  | matchBlock value =>
    rw [hm] at hr
    dsimp only at hr
    rcases he : evaluateMatchExpression value ctx with _ | matched
    · rw [he] at hr
      cases hr
    rw [he] at hr
    exact .inl (Prod.mk.inj hr).2
  | directive key value =>
    rw [hm] at hr
    dsimp only at hr
    by_cases ha : inEffect ctx before=true
    · cases hk : keywordOf key with
      | none =>
        rw [Call.onlyIf,if_pos ha,parseOneDirective,hk] at hr
        exact .inl (Prod.mk.inj hr).2
      | some keyword => exact .inr ⟨keyword,key,value,hm,hk,ha⟩
    rw [Call.onlyIf,if_neg ha] at hr
    exact .inl (Prod.mk.inj hr).2

lemma loadLine_keeps (hr : (loadLine ctx before line).run a=(.ok (),b))
    (hs : ¬Sets ctx before line keyword) (hp : keyword=.port → a.port.given=true) :
    SameSetting a b keyword ∧ (a.port.given=true → b.port.given=true) := by
  rcases loadLine_cases hr with rfl | ⟨other,ho⟩
  · exact ⟨.refl a keyword,id⟩
  obtain ⟨value,hv⟩ := ho.loadLine
  rw [hv] at hr
  have hne : keyword≠other := fun he => hs (he ▸ ho)
  exact ⟨keywordDirective_frame hr hne fun he _ => hp he,keywordDirective_port_given hr⟩

lemma loadLines_cons_ok (hr : (loadLines ctx before (line::lines)).run a=(.ok (),b)) :
    ∃ c,(loadLine ctx before line).run a=(.ok (),c) ∧
      (loadLines ctx (before++[line]) lines).run c=(.ok (),b) := by
  rw [loadLines] at hr
  obtain ⟨_,t,hl,hr⟩ := run_bind_eq_ok hr
  rw [run_require] at hl
  obtain ⟨-,rfl⟩ := Prod.mk.inj hl
  obtain ⟨_,c,hln,hrs⟩ := run_bind_eq_ok hr
  exact ⟨c,hln,hrs⟩

lemma loadLines_append (front back : List Bytes) (ctx : Option MatchContext)
    (before : List Bytes) : loadLines ctx before (front++back)=
      loadLines ctx before front >>= fun _ => loadLines ctx (before++front) back := by
  induction front generalizing before with
  | nil => rw [nil_append,append_nil,loadLines,pure_bind]
  | cons line front ih =>
    rw [cons_append,loadLines,loadLines,bind_assoc]
    congr 1
    funext _
    rw [bind_assoc,ih,append_assoc]
    rfl

lemma Gives.inEffect {value : Bytes} (h : Gives line keyword value) :
    inEffect ctx (before++[line])=inEffect ctx before := by
  obtain ⟨key,hm,-⟩ := h
  exact inEffect_snoc_other (by rw [matchValue,hm])
end

variable {ctx : Option MatchContext}

/-- The cut into chunks does not matter. -/
lemma takeReads_lines {chunks : List Bytes} (hc : ∀ chunk∈chunks,0<chunk.length)
    (hn : 0∉chunks.flatten) : takeReads ctx (chunks.map .ok) [] >>= parseBufferedLine ctx=
      Lines.each configLineMax .bufferTooSmall (parseLineInplace ctx)
        (chunks.flatten.splitOnP (·=10)) := by
  rw [takeReads_chunks fun chunk h => length_pos_iff.mp (hc chunk h),takeChunk,
    Lines.feed_each (forall_mem_nil _) (by decide),nil_append]
  refine Lines.each_congr fun line hl => ?_
  rw [parseBufferedLine,cString_eq_self fun hz => hn ((Text.infix_of_mem_line hl).subset hz)]

/-- Nothing is done with the file, or it cannot be opened, or it is opened, read and closed once. -/
def ClosedOnce (events : List FileEvent) : Prop :=
  events=[] ∨ events=[.openFile false] ∨
    ∃ k,events=.openFile true::(List.replicate k .read++[.close])

variable {fs : TextFs} {path : Bytes}

lemma load_opened {reads : List (Except Err Bytes)} (hfs : fs path=.ok reads)
    (ctx : Option MatchContext) (config : SshdConfigFile) :
    ∃ k,(sshSshdConfigFileLoadWithMatchContext (some fs) (some path) ctx).run (config,[])=
      (((takeReads ctx reads [] >>= parseBufferedLine ctx).run (sshSshdConfigFileDefaults,true)).1,
        (((takeReads ctx reads [] >>= parseBufferedLine ctx).run
            (sshSshdConfigFileDefaults,true)).2.1,
          .openFile true::(List.replicate k .read++[.close]))) := by
  obtain ⟨k,hk⟩ := @readToEnd_run ctx reads [] (sshSshdConfigFileDefaults,true) [.openFile true]
  refine ⟨k,?_⟩
  rw [sshSshdConfigFileLoadWithMatchContext,run_bind_ok (run_modify _ _),readAndParseFileViaFs]
  dsimp only
  rw [hfs]
  dsimp only
  rw [run_bind_ok (run_note _ _),Call.withLocal]
  dsimp only
  rw [nil_append,hk]
  rfl

end EMSSHD.SshdConfig

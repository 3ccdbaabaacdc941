import EMSSHD.Framework.Monitor
import Mathlib.Data.Fintype.Basic

namespace EMSSHD.Emtask

open Monitor

/-- emtask_endpoint_t, as far as a session is ended through it. -/
structure Endpoint where
  isOpen : Bool
  shutdownRequested : Bool
  deriving DecidableEq

namespace Endpoint

def requestShutdown (endpoint : Endpoint) : Endpoint :=
  if !endpoint.isOpen || endpoint.shutdownRequested then endpoint
  else {endpoint with shutdownRequested := true}

def close (endpoint : Endpoint) : Endpoint :=
  if !endpoint.isOpen then endpoint else {isOpen := false, shutdownRequested := true}

def Ended (endpoint : Endpoint) : Prop := endpoint.shutdownRequested=true ∨ endpoint.isOpen=false

instance (endpoint : Endpoint) : Decidable endpoint.Ended :=
  inferInstanceAs (Decidable (_ ∨ _))

lemma requestShutdown_ended (endpoint : Endpoint) : endpoint.requestShutdown.Ended := by
  cases endpoint with
  | mk isOpen requested => cases isOpen <;> cases requested <;> simp [requestShutdown,Ended]

lemma close_ended (endpoint : Endpoint) : endpoint.close.Ended := by
  cases endpoint with
  | mk isOpen requested => cases isOpen <;> simp [close,Ended]
end Endpoint

structure SessionManager (W : Type) where
  activeWorker : Option W
  endpoint : W → Endpoint

/-- The places of emtask_session_manager_takeover and emtask_session_manager_release. -/
inductive Point where
  | outside
  | takeoverLock
  | takeoverCheck
  | requestShutdown
  | waitCheck
  | waitCond
  | takeActive
  | takeoverUnlock
  | releaseLock
  | releaseCheck
  | releaseActive
  | releaseBroadcast
  | releaseUnlock
  | closeEndpoint
  deriving DecidableEq

structure Place where
  point : Point
  held : Bool
  deriving DecidableEq

section
variable {W : Type} [DecidableEq W]

namespace SessionManager

/-- emtask_endpoint_request_shutdown(&manager->active_worker->endpoint) -/
def requestShutdown (_ : W) (manager : SessionManager W) : SessionManager W :=
  match manager.activeWorker with
  | none => manager
  | some active =>
    {manager with endpoint :=
      Function.update manager.endpoint active (manager.endpoint active).requestShutdown}

def takeActive (worker : W) (manager : SessionManager W) : SessionManager W :=
  {manager with activeWorker := some worker}

def releaseActive (_ : W) (manager : SessionManager W) : SessionManager W :=
  {manager with activeWorker := none}

def closeEndpoint (worker : W) (manager : SessionManager W) : SessionManager W :=
  {manager with endpoint := Function.update manager.endpoint worker (manager.endpoint worker).close}
end SessionManager

/-- What a worker does at each place. A takeover holds from its return on, until the release
clears the active worker. -/
def sessionInstr : Place → Instr W Place (SessionManager W)
  | ⟨.outside,_⟩ => .rest
  | ⟨.takeoverLock,held⟩ => .lock ⟨.takeoverCheck,held⟩
  | ⟨.takeoverCheck,held⟩ =>
    .test (fun worker manager =>
      manager.activeWorker == none || manager.activeWorker == some worker)
      ⟨.takeActive,held⟩ ⟨.requestShutdown,held⟩
  | ⟨.requestShutdown,held⟩ => .update SessionManager.requestShutdown ⟨.waitCheck,held⟩
  | ⟨.waitCheck,held⟩ =>
    .test (fun worker manager =>
      manager.activeWorker != none && manager.activeWorker != some worker)
      ⟨.waitCond,held⟩ ⟨.takeActive,held⟩
  | ⟨.waitCond,held⟩ => .wait ⟨.waitCheck,held⟩
  | ⟨.takeActive,held⟩ => .update SessionManager.takeActive ⟨.takeoverUnlock,held⟩
  | ⟨.takeoverUnlock,_⟩ => .unlock ⟨.outside,true⟩
  | ⟨.releaseLock,held⟩ => .lock ⟨.releaseCheck,held⟩
  | ⟨.releaseCheck,held⟩ =>
    .test (fun worker manager => manager.activeWorker == some worker)
      ⟨.releaseActive,held⟩ ⟨.releaseUnlock,held⟩
  | ⟨.releaseActive,_⟩ => .update SessionManager.releaseActive ⟨.releaseBroadcast,false⟩
  | ⟨.releaseBroadcast,held⟩ => .broadcast ⟨.releaseUnlock,held⟩
  | ⟨.releaseUnlock,_⟩ => .unlock ⟨.outside,false⟩
  | ⟨.closeEndpoint,held⟩ => .update SessionManager.closeEndpoint ⟨.outside,held⟩

def Point.inside : Point → Bool
  | .outside | .takeoverLock | .releaseLock | .closeEndpoint => false
  | _ => true

def sessionEnters (place entry : Place) : Bool :=
  place.point == .outside && entry.held == place.held &&
    (entry.point == .takeoverLock || entry.point == .releaseLock || entry.point == .closeEndpoint)

lemma sessionEnters_iff {place entry : Place} : sessionEnters place entry=true ↔
    place.point=.outside ∧ entry.held=place.held ∧
      (entry.point=.takeoverLock ∨ entry.point=.releaseLock ∨ entry.point=.closeEndpoint) := by
  simp [sessionEnters,and_assoc,or_assoc]

def sessionCode : Code W Place (SessionManager W) where
  instr := sessionInstr
  inside place := place.point.inside
  guarded place := by
    cases place with
    | mk point held => cases point <;> simp [sessionInstr,Instr.Guarded,Point.inside]
  enters := sessionEnters
  entersFrom place entry h := by
    rw [(sessionEnters_iff.mp h).1]
    rfl
  entersOutside place entry h := by
    rcases (sessionEnters_iff.mp h).2.2 with h | h | h <;> rw [h] <;> rfl

def noSession (endpoint : W → Endpoint) : Threads W Place (SessionManager W) :=
  .atRest {activeWorker := none, endpoint := endpoint} ⟨.outside,false⟩
end

section
variable {W : Type} [DecidableEq W]

def Point.Fits (active : Option W) (w : W) : Point → Prop
  | .takeActive => active=none ∨ active=some w
  | .takeoverUnlock => active=some w
  | .releaseActive => active=some w
  | _ => True

structure Place.Fits (active : Option W) (w : W) (place : Place) : Prop where
  held : place.held=true → active=some w
  point : place.point.Fits active w

/-- The mutex is held by one worker, and the active worker is as every place needs it. -/
structure SessionsFit (s : Threads W Place (SessionManager W)) : Prop where
  exclusive : Exclusive sessionCode s
  places : ∀ w,(s.place w).Fits s.shared.activeWorker w

lemma noSession_fits (endpoint : W → Endpoint) : SessionsFit (noSession endpoint) where
  exclusive := Exclusive.atRest _ _ rfl
  places _ := ⟨by simp [noSession,Threads.atRest],trivial⟩

variable {s t : Threads W Place (SessionManager W)} {w : W}

lemma SessionsFit.keep (h : SessionsFit s) (hexclusive : Exclusive sessionCode t) (next : Place)
    (ha : t.shared.activeWorker=s.shared.activeWorker) (hp : t.place=Function.update s.place w next)
    (hn : next.Fits s.shared.activeWorker w) : SessionsFit t := by
  refine ⟨hexclusive,fun v => ?_⟩
  rw [ha,hp]
  by_cases hv : v=w
  · subst hv
    rw [Function.update_self]
    exact hn
  rw [Function.update_of_ne hv]
  exact h.places v

lemma Place.Fits.leads {manager : SessionManager W} {place next : Place}
    (h : place.Fits manager.activeWorker w) (hl : (sessionInstr place).Leads w manager next) :
    next.Fits manager.activeWorker w := by
  obtain ⟨point,held⟩ := place
  cases point with
  | outside | requestShutdown | takeActive | releaseActive | closeEndpoint => exact hl.elim
  | takeoverCheck | releaseCheck =>
    obtain rfl := hl
    split_ifs with hp
    · exact ⟨h.held,by simpa [Point.Fits] using hp⟩
    · exact ⟨h.held,trivial⟩
  | waitCheck =>
    obtain rfl := hl
    split_ifs with hp
    · exact ⟨h.held,trivial⟩
    · exact ⟨h.held,by simpa [Point.Fits,← or_iff_not_imp_left] using hp⟩
  | takeoverUnlock =>
    obtain rfl := hl
    exact ⟨fun _ => h.point,trivial⟩
  | releaseUnlock =>
    obtain rfl := hl
    exact ⟨nofun,trivial⟩
  | _ =>
    obtain rfl := hl
    exact ⟨h.held,trivial⟩

lemma SessionsFit.others (h : SessionsFit s) (haw : s.mode w=.awake)
    (hin : (s.place w).point.inside=true)
    (ha : s.shared.activeWorker=none ∨ s.shared.activeWorker=some w) (active : Option W)
    {v : W} (hv : v≠w) : (s.place v).Fits active v := by
  have hn : s.shared.activeWorker≠some v := by
    rcases ha with ha | ha <;> simp [ha,Ne.symm hv]
  have hf := h.places v
  constructor
  · intro hh
    exact absurd (hf.held hh) hn
  have ho : s.mode v=.awake → (s.place v).point.inside=false :=
    h.exclusive.others ((h.exclusive.holds w).mpr ⟨haw,hin⟩) hv
  -- the places that need something are inside and run
  have hr : ∀ p,(s.place v).point=p → p≠.waitCond → s.mode v=.awake := by
    intro p hp hne
    by_contra hm
    obtain ⟨next,hw⟩ := h.exclusive.waits v hm
    cases hpl : s.place v with
    | mk point held =>
      rw [hpl] at hp hw
      subst hp
      cases point <;> simp_all [sessionCode,sessionInstr]
  cases hpn : (s.place v).point with
  | takeActive | takeoverUnlock | releaseActive =>
    have hin := ho (hr _ hpn (by simp))
    simp [hpn,Point.inside] at hin
  | _ => trivial

lemma SessionsFit.change (h : SessionsFit s) (hexclusive : Exclusive sessionCode t) {next : Place}
    (haw : s.mode w=.awake) (hin : (s.place w).point.inside=true)
    (ha : s.shared.activeWorker=none ∨ s.shared.activeWorker=some w)
    (hp : t.place=Function.update s.place w next) (hf : next.Fits t.shared.activeWorker w) :
    SessionsFit t := by
  refine ⟨hexclusive,fun v => ?_⟩
  rw [hp]
  by_cases hv : v=w
  · subst hv
    rw [Function.update_self]
    exact hf
  rw [Function.update_of_ne hv]
  exact h.others haw hin ha _ hv

@[simp] lemma requestShutdown_activeWorker (w : W) (manager : SessionManager W) :
    (manager.requestShutdown w).activeWorker=manager.activeWorker := by
  unfold SessionManager.requestShutdown
  cases h : manager.activeWorker <;> simp [h]

lemma SessionsFit.fire (h : SessionsFit s) (e : Event W Place)
    (hf : Monitor.fire sessionCode s e=some t) : SessionsFit t := by
  have hexclusive := h.exclusive.fire e hf
  rcases fire_moves hf with ⟨w,f,next,rfl,ha,hi,rfl⟩ | ⟨-,hs,w,next,hp,hn⟩
  · have hfw := h.places w
    cases hpl : s.place w with
    | mk point held =>
      rw [hpl] at hi hfw
      cases point with
      | takeActive =>
        obtain ⟨rfl,rfl⟩ := Instr.update.inj hi
        exact h.change hexclusive ha (by rw [hpl]; rfl) hfw.point rfl ⟨fun _ => rfl,rfl⟩
      | releaseActive =>
        obtain ⟨rfl,rfl⟩ := Instr.update.inj hi
        exact h.change hexclusive ha (by rw [hpl]; rfl) (.inr hfw.point) rfl ⟨nofun,trivial⟩
      | requestShutdown =>
        obtain ⟨rfl,rfl⟩ := Instr.update.inj hi
        exact h.keep hexclusive _ (requestShutdown_activeWorker w _) rfl ⟨hfw.held,trivial⟩
      | closeEndpoint =>
        obtain ⟨rfl,rfl⟩ := Instr.update.inj hi
        exact h.keep hexclusive _ rfl rfl ⟨hfw.held,trivial⟩
      | _ => cases hi
  refine h.keep hexclusive next (congrArg SessionManager.activeWorker hs) hp ?_
  rcases hn with rfl | he | hl
  · exact h.places w
  · obtain ⟨-,hh,he⟩ := sessionEnters_iff.mp he
    refine ⟨fun hn => (h.places w).held (hh.symm.trans hn),?_⟩
    rcases he with he | he | he <;> rw [he] <;> trivial
  · exact (h.places w).leads hl

def TakeoverReturns (s : Threads W Place (SessionManager W)) (w : W)
    (t : Threads W Place (SessionManager W)) : Prop :=
  (s.place w).point=.takeoverUnlock ∧ fire sessionCode s (.run w)=some t

/-- From the return of a takeover to the release, the worker is the active one and no takeover
of another worker returns. -/
theorem takeover_exclusive {endpoint : W → Endpoint} {s : Threads W Place (SessionManager W)}
    (hreach : Reaches sessionCode anyEvent (noSession endpoint) s) {w : W}
    (hheld : (s.place w).held=true) : s.shared.activeWorker=some w ∧
      ∀ v t,TakeoverReturns s v t → v=w := by
  have h := hreach.invariant SessionsFit (noSession_fits endpoint) fun _ _ e h hf => h.fire e hf
  have ha := (h.places w).held hheld
  refine ⟨ha,fun v t hr => ?_⟩
  have hp := (h.places v).point
  rw [hr.1,Point.Fits,ha] at hp
  exact (Option.some.inj hp).symm

/-- The first of three workers has taken over, and the two others wait for it. -/
theorem takeover_exclusive_first : ∃ s : Threads (Fin 3) Place (SessionManager (Fin 3)),
    Reaches sessionCode anyEvent (noSession fun _ => ⟨true,false⟩) s ∧
    (s.place 0).held=true ∧ s.shared.activeWorker=some 0 ∧
    (∀ v,v≠0 → s.place v=⟨.waitCond,false⟩ ∧ s.mode v=.asleep) ∧
    ∀ v t,TakeoverReturns s v t → v=0 := by
  have hrn : ((runEvents sessionCode anyEvent (noSession fun _ : Fin 3 => ⟨true,false⟩)
      ([.enter 0 ⟨.takeoverLock,false⟩,.run 0,.run 0,.run 0,.run 0]++
        ([1,2] : List (Fin 3)).flatMap fun v =>
          .enter v ⟨.takeoverLock,false⟩::List.replicate 5 (.run v))).any fun s =>
      (s.place 0).held ∧ ∀ v,v≠0 → s.place v=⟨.waitCond,false⟩ ∧ s.mode v=.asleep)=true := by
    decide +kernel
  obtain ⟨s,hs,hh⟩ := (Option.any_eq_true _ _).mp hrn
  obtain ⟨hh,hw⟩ := of_decide_eq_true hh
  have hr := Reaches.of_runEvents .start hs
  obtain ⟨ha,ho⟩ := takeover_exclusive hr hh
  exact ⟨s,hr,hh,ha,hw,ho⟩
end

variable {W : Type} [DecidableEq W]

/-- The worker has asked the active worker to go and waits for it. -/
def Blocked (s : Threads W Place (SessionManager W)) (w : W) : Prop :=
  (s.place w).point=.waitCheck ∨ (s.place w).point=.waitCond

instance (s : Threads W Place (SessionManager W)) (w : W) : Decidable (Blocked s w) :=
  inferInstanceAs (Decidable (_ ∨ _))

/-- While a worker is blocked, the active worker has been asked to shut down. -/
def Displaced (s : Threads W Place (SessionManager W)) : Prop :=
  ∀ w active,Blocked s w → s.shared.activeWorker=some active →
    (s.shared.endpoint active).Ended

instance [Fintype W] (s : Threads W Place (SessionManager W)) : Decidable (Displaced s) :=
  inferInstanceAs (Decidable (∀ _ _,_ → _ → _))

/-- No worker becomes the active one while another is blocked, unless its own endpoint has
been asked to shut down before. -/
def Considerate (s : Threads W Place (SessionManager W)) : Event W Place → Prop
  | .run w => (s.place w).point=.takeActive → (s.shared.endpoint w).Ended ∨ ∀ v,¬Blocked s v
  | _ => True

instance [Fintype W] (s : Threads W Place (SessionManager W)) (e : Event W Place) :
    Decidable (Considerate s e) :=
  match e with
  | .run _ => inferInstanceAs (Decidable (_ → _ ∨ ∀ _,¬_))
  | .enter _ _ | .wake _ | .resume _ => .isTrue trivial

variable {s t : Threads W Place (SessionManager W)} {w : W}

lemma Displaced.keep (h : Displaced s) (next : Place)
    (hac : ∀ a,t.shared.activeWorker=some a → s.shared.activeWorker=some a)
    (he : ∀ a,(s.shared.endpoint a).Ended → (t.shared.endpoint a).Ended)
    (hp : t.place=Function.update s.place w next)
    (hn : next.point=.waitCheck ∨ next.point=.waitCond → Blocked s w) : Displaced t := by
  intro v a hb ha
  have hbf : Blocked s v := by
    by_cases hv : v=w
    · subst hv
      rw [Blocked,hp,Function.update_self] at hb
      exact hn hb
    · rwa [Blocked,hp,Function.update_of_ne hv] at hb
  exact he a (h v a hbf (hac a ha))

lemma requestShutdown_ends (w a : W) (manager : SessionManager W)
    (h : manager.activeWorker=some a) : ((manager.requestShutdown w).endpoint a).Ended := by
  simpa [SessionManager.requestShutdown,h] using (manager.endpoint a).requestShutdown_ended

lemma closeEndpoint_keeps_ended (w a : W) (manager : SessionManager W)
    (h : (manager.endpoint a).Ended) : ((manager.closeEndpoint w).endpoint a).Ended := by
  by_cases ha : a=w
  · subst ha
    simpa [SessionManager.closeEndpoint] using (manager.endpoint a).close_ended
  · simpa [SessionManager.closeEndpoint,ha] using h

/-- Becoming the active worker displaces the right endpoint only if nobody is blocked, or if
the own endpoint is at its end. -/
theorem displaced_takeActive {held : Bool} (hp : s.place w=⟨.takeActive,held⟩) :
    Displaced ({s with shared := s.shared.takeActive w}.goto w ⟨.takeoverUnlock,held⟩) ↔
      (s.shared.endpoint w).Ended ∨ ∀ v,¬Blocked s v := by
  have hs : ∀ v,Blocked ({s with shared := s.shared.takeActive w}.goto w
      ⟨.takeoverUnlock,held⟩) v ↔ Blocked s v := by
    intro v
    by_cases hv : v=w
    · subst hv
      simp [Blocked,Threads.goto,hp]
    · simp [Blocked,Threads.goto,hv]
  constructor
  · intro h
    by_cases hb : ∃ v,Blocked s v
    · obtain ⟨v,hv⟩ := hb
      exact .inl (h v w ((hs v).mpr hv) rfl)
    · exact .inr fun v hv => hb ⟨v,hv⟩
  intro h v a hv ha
  have haw : w=a := Option.some.inj ha
  subst haw
  exact h.resolve_right fun hn => hn v ((hs v).mp hv)

lemma Displaced.fire (h : Displaced s) (e : Event W Place)
    (hf : Monitor.fire sessionCode s e=some t) : Displaced t ↔ Considerate s e := by
  rcases fire_moves hf with ⟨w,f,next,rfl,-,hi,rfl⟩ | ⟨hu,hs,w,next,hp,hn⟩
  · cases hpl : s.place w with
    | mk point held =>
      rw [hpl] at hi
      have hpn : (s.place w).point=point := by rw [hpl]
      have hc (ht : point≠.takeActive) : Considerate s (.run w) :=
        fun htk => absurd (hpn.symm.trans htk) ht
      cases point with
      | takeActive =>
        obtain ⟨rfl,rfl⟩ := Instr.update.inj hi
        simpa [Considerate,hpn] using displaced_takeActive hpl
      | requestShutdown =>
        obtain ⟨rfl,rfl⟩ := Instr.update.inj hi
        refine iff_of_true (fun v a hb ha => ?_) (hc nofun)
        exact requestShutdown_ends w a _ ((requestShutdown_activeWorker w _).symm.trans ha)
      | releaseActive =>
        obtain ⟨rfl,rfl⟩ := Instr.update.inj hi
        exact iff_of_true (h.keep _ nofun (fun _ => id) rfl (by simp)) (hc nofun)
      | closeEndpoint =>
        obtain ⟨rfl,rfl⟩ := Instr.update.inj hi
        exact iff_of_true (h.keep _ (fun _ => id) (fun a => closeEndpoint_keeps_ended w a _) rfl
          (by simp)) (hc nofun)
      | _ => cases hi
  have hc : Considerate s e := by
    cases e with
    | run v =>
      intro hv
      cases hpl : s.place v with
      | mk point held =>
        rw [hpl] at hv
        subst hv
        exact absurd (congrArg sessionInstr hpl) (hu v _ _ rfl)
    | _ => trivial
  refine iff_of_true (h.keep next (fun a => by simp [hs]) (fun a => by simp [hs]) hp ?_) hc
  rcases hn with rfl | he | hl
  · exact id
  · rcases (sessionEnters_iff.mp he).2.2 with h | h | h <;> simp [h]
  cases hpl : s.place w with
  | mk point held =>
    rw [hpl] at hl
    cases point with
    | waitCheck => exact fun _ => .inl (by rw [hpl])
    | waitCond => exact fun _ => .inr (by rw [hpl])
    | outside | requestShutdown | takeActive | releaseActive | closeEndpoint => exact hl.elim
    | takeoverCheck | releaseCheck =>
      obtain rfl := hl
      split <;> simp
    | _ =>
      obtain rfl := hl
      simp

omit [DecidableEq W] in
lemma noSession_displaced (endpoint : W → Endpoint) : Displaced (noSession endpoint) := by
  intro w a hb
  simp [Blocked,noSession,Threads.atRest] at hb

/-- In a run of considerate events the active worker is always displaced, and the first event
that is not considerate leaves a blocked worker behind an active one that nobody has asked. -/
theorem newcomers_displace_iff {endpoint : W → Endpoint}
    {s : Threads W Place (SessionManager W)}
    (hreach : Reaches sessionCode Considerate (noSession endpoint) s) : Displaced s ∧
      ∀ e t,fire sessionCode s e=some t → (Displaced t ↔ Considerate s e) := by
  have hd : Displaced s := by
    induction hreach with
    | start => exact noSession_displaced endpoint
    | next e _ hc hf ih => exact (ih.fire e hf).mpr hc
  exact ⟨hd,fun e t hf => hd.fire e hf⟩

def threeWorkers : List (Event (Fin 3) Place) :=
  [.enter 0 ⟨.takeoverLock,false⟩,.run 0,.run 0,.run 0,.run 0,.enter 1 ⟨.takeoverLock,false⟩,.run 1,
    .run 1,.run 1,.run 1,.run 1,
    .enter 2 ⟨.takeoverLock,false⟩,.run 2,.run 2,.run 2,.run 2,.run 2,
    .enter 0 ⟨.releaseLock,true⟩,.run 0,.run 0,.run 0,.run 0,.run 0,.resume 1,.run 1]

/-- Up to the point at which worker 1 becomes the active one, the run is considerate. -/
theorem newcomers_displace_iff_three :
    ∃ s : Threads (Fin 3) Place (SessionManager (Fin 3)),
      Reaches sessionCode Considerate (noSession fun _ => ⟨true,false⟩) s ∧
      (s.place 1).point=.takeActive ∧ Displaced s ∧
      ∀ e t,fire sessionCode s e=some t → (Displaced t ↔ Considerate s e) := by
  have hrn : ((runEvents sessionCode Considerate (noSession fun _ : Fin 3 => ⟨true,false⟩)
      threeWorkers).any fun s => (s.place 1).point=.takeActive)=true := by
    decide +kernel
  obtain ⟨s,hs,hp⟩ := (Option.any_eq_true _ _).mp hrn
  have hr := Reaches.of_runEvents .start hs
  exact ⟨s,hr,by simpa using hp,newcomers_displace_iff hr⟩

/-- Worker 1 is active and has not been asked to go, while worker 2 is blocked. -/
theorem newcomer_not_displaced : ∃ s : Threads (Fin 3) Place (SessionManager (Fin 3)),
    Reaches sessionCode anyEvent (noSession fun _ => ⟨true,false⟩) s ∧
    s.shared.activeWorker=some 1 ∧ Blocked s 2 ∧ ¬(s.shared.endpoint 1).Ended ∧
    ¬Displaced s := by
  have hr : ((runEvents sessionCode anyEvent (noSession fun _ : Fin 3 => ⟨true,false⟩)
      (threeWorkers ++ [.run 1])).any fun s => decide (s.shared.activeWorker=some 1 ∧
        Blocked s 2 ∧ ¬(s.shared.endpoint 1).Ended ∧ ¬Displaced s))=true := by
    decide +kernel
  obtain ⟨s,hs,hst⟩ := (Option.any_eq_true _ _).mp hr
  exact ⟨s,.of_runEvents .start hs,by simpa using hst⟩

end EMSSHD.Emtask

import EMSSHD.Server.Terminal.Step

namespace EMSSHD

variable {η τ α : Type}

/-- c lets the child of a terminal write, and takes nothing of what it has written. -/
def AddsOutput (written output : τ → Bytes) (c : Call τ Err α) : Prop :=
  ∀ k,∃ more,written (c.run k).2=written k++more ∧ output (c.run k).2=output k++more

def bytesRead : Except Err Bytes → Bytes
  | .ok bytes => bytes
  | .error _ => []

/-- The output of the terminal is a queue. Its child puts bytes in whenever it likes, and
only read takes bytes out, in front. -/
structure QueuesOutput (T : TermApi η τ) (written output : τ → Bytes) : Prop where
  read : ∀ f,T.read=some f → ∀ handle len k,∃ more,
    written ((f handle len).run k).2=written k++more ∧
    bytesRead ((f handle len).run k).1++output ((f handle len).run k).2=output k++more
  write : ∀ f,T.write=some f → ∀ handle buf,AddsOutput written output (f handle buf)
  resize : ∀ f,T.resize=some f → ∀ handle cols rows widthPx heightPx,
    AddsOutput written output (f handle cols rows widthPx heightPx)
  signal : ∀ f,T.signal=some f → ∀ handle name,AddsOutput written output (f handle name)
  waitExit : ∀ f,T.waitExit=some f → ∀ handle,AddsOutput written output (f handle)

def KeepsOffers (offers : τ → List (Bytes×Nat)) (c : Call τ Err α) : Prop :=
  ∀ k,offers (c.run k).2=offers k

/-- The terminal takes any first part of what it is offered. The list has each offer and how
much of it was taken. -/
structure TakesInput (T : TermApi η τ) (offers : τ → List (Bytes×Nat)) : Prop where
  write : ∀ f,T.write=some f → ∀ handle buf k,∃ taken,taken≤buf.length ∧
    ((f handle buf).run k).1=.ok taken ∧
    offers ((f handle buf).run k).2=offers k++[(buf,taken)]
  read : ∀ f,T.read=some f → ∀ handle len,KeepsOffers offers (f handle len)
  resize : ∀ f,T.resize=some f → ∀ handle cols rows widthPx heightPx,
    KeepsOffers offers (f handle cols rows widthPx heightPx)
  signal : ∀ f,T.signal=some f → ∀ handle name,KeepsOffers offers (f handle name)
  waitExit : ∀ f,T.waitExit=some f → ∀ handle,KeepsOffers offers (f handle)

inductive ChildAction where
  | writes (bytes : Bytes)
  | exits (status : Nat)

/-- What the child does before a call of the platform, and how many bytes that call moves
at most. -/
structure Turn where
  actions : List ChildAction := []
  room : Option Nat := none

structure Child where
  written : Bytes := []
  output : Bytes := []
  exited : Option Nat := none
  offers : List (Bytes×Nat) := []
  turns : List Turn

namespace Child

def act (c : Child) (action : ChildAction) : Child :=
  match c.exited,action with
  | some _,_ => c
  | none,.writes bytes => {c with
      written := c.written++bytes
      output := c.output++bytes}
  | none,.exits status => {c with exited := some status}

def turn (c : Child) : Child :=
  {(c.turns.headD {}).actions.foldl act c with turns := c.turns.tail}

def moved (c : Child) (n : Nat) : Nat := min n ((c.turns.headD {}).room.getD n)

lemma act_adds (c : Child) (action : ChildAction) : (c.act action).offers=c.offers ∧
    ∃ more,(c.act action).written=c.written++more ∧ (c.act action).output=c.output++more := by
  have hs : ∃ more,c.written=c.written++more ∧ c.output=c.output++more := ⟨[],by simp⟩
  unfold act
  cases c.exited with
  | some status => exact ⟨rfl,hs⟩
  | none =>
    cases action with
    | writes bytes => exact ⟨rfl,bytes,rfl,rfl⟩
    | exits status => exact ⟨rfl,hs⟩

lemma foldl_act_adds (actions : List ChildAction) (c : Child) :
    (actions.foldl act c).offers=c.offers ∧ ∃ more,
      (actions.foldl act c).written=c.written++more ∧
      (actions.foldl act c).output=c.output++more := by
  induction actions generalizing c with
  | nil => exact ⟨rfl,[],by simp⟩
  | cons action actions ih =>
    obtain ⟨ho,more,hw,hq⟩ := c.act_adds action
    obtain ⟨ho',more',hw',hq'⟩ := ih (c.act action)
    refine ⟨ho'.trans ho,more++more',?_,?_⟩
    · rw [foldl_cons,hw',hw,append_assoc]
    · rw [foldl_cons,hq',hq,append_assoc]

lemma turn_adds (c : Child) : c.turn.offers=c.offers ∧
    ∃ more,c.turn.written=c.written++more ∧ c.turn.output=c.output++more :=
  foldl_act_adds (c.turns.headD {}).actions c
end Child

def childTerm : TermApi Unit Child where
  spawnShell := some fun _ => Call.modify fun s => (s.1,some ())
  spawnExec := none
  write := some fun _ buf => ⟨fun c => (.ok (c.moved buf.length),{c.turn with
    offers := c.turn.offers++[(buf,c.moved buf.length)]})⟩
  read := some fun _ len => ⟨fun c =>
    if c.turn.output=[] then (.error .notFound,c.turn)
    else (.ok (c.turn.output.take (c.moved len)),{c.turn with
      output := c.turn.output.drop (c.moved len)})⟩
  resize := some fun _ _ _ _ _ => Call.modify Child.turn
  signal := some fun _ _ => Call.modify Child.turn
  waitExit := some fun _ => ⟨fun c => (.ok c.turn.exited,c.turn)⟩

lemma childTerm_queuesOutput : QueuesOutput childTerm Child.written Child.output := by
  constructor
  · rintro _ ⟨⟩ handle len c
    obtain ⟨_,more,hw,hq⟩ := c.turn_adds
    by_cases he : c.turn.output=[]
    · refine ⟨more,?_⟩
      simp only [if_pos he]
      exact ⟨hw,hq⟩
    refine ⟨more,?_⟩
    simp only [if_neg he,bytesRead,take_append_drop]
    exact ⟨hw,hq⟩
  · rintro _ ⟨⟩ handle buf c
    exact c.turn_adds.2
  · rintro _ ⟨⟩ handle cols rows widthPx heightPx c
    exact c.turn_adds.2
  · rintro _ ⟨⟩ handle name c
    exact c.turn_adds.2
  rintro _ ⟨⟩ handle c
  exact c.turn_adds.2

lemma childTerm_takesInput : TakesInput childTerm Child.offers := by
  constructor
  · rintro _ ⟨⟩ handle buf c
    refine ⟨c.moved buf.length,min_le_left _ _,rfl,?_⟩
    show c.turn.offers++[(buf,c.moved buf.length)]=_
    rw [c.turn_adds.1]
  · rintro _ ⟨⟩ handle len c
    by_cases he : c.turn.output=[]
    · simp only [if_pos he]
      exact c.turn_adds.1
    simp only [if_neg he]
    exact c.turn_adds.1
  · rintro _ ⟨⟩ handle cols rows widthPx heightPx c
    exact c.turn_adds.1
  · rintro _ ⟨⟩ handle name c
    exact c.turn_adds.1
  rintro _ ⟨⟩ handle c
  exact c.turn_adds.1

end EMSSHD

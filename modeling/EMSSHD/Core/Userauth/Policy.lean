import EMSSHD.Core.NameList

namespace EMSSHD

def isSeparatorChar (ch : UInt8) : Bool := ch=32 ∨ ch=9 ∨ ch=44

/-- The state of a wildcard match: what is left of the pattern and of the name, and the
pattern and the name behind the last star. -/
structure Glob where
  pattern : Bytes
  name : Bytes
  star : Option (Bytes×Bytes)
  behind : ∀ pattern' name',star=some (pattern',name') → name.length≤name'.length

namespace Glob

def start (pattern name : Bytes) : Glob where
  pattern := pattern
  name := name
  star := none
  behind := nofun

def advance (g : Glob) : Glob where
  pattern := g.pattern.tail
  name := g.name.tail
  star := g.star
  behind pattern' name' h := by
    have hle := g.behind pattern' name' h
    rw [List.length_tail]
    omega

def enter (g : Glob) : Glob where
  pattern := g.pattern.tail
  name := g.name
  star := some (g.pattern.tail,g.name)
  behind pattern' name' h := by
    cases h
    exact Nat.le_refl _

def retry (pattern name : Bytes) : Glob where
  pattern := pattern
  name := name.tail
  star := some (pattern,name.tail)
  behind pattern' name' h := by
    cases h
    exact Nat.le_refl _

def slack (g : Glob) : Nat :=
  match g.star with
  | none => g.name.length+1
  | some (_,name) => name.length

lemma retry_slack {g : Glob} {pattern name : Bytes} (h : g.star=some (pattern,name))
    (hn : g.name≠[]) : (retry pattern name).slack<g.slack := by
  have hle := g.behind pattern name h
  have hp : 0<g.name.length := length_pos_iff.mpr hn
  simp only [slack,retry,h,length_tail]
  omega
end Glob

/-- The loop of username_pattern_matches. A character that matches literally goes before a
star. -/
def globLoop (g : Glob) : Bool :=
  if g.name=[] then g.pattern.all (·=42)
  else if g.pattern≠[] ∧ (g.pattern.headD 0=63 ∨ g.pattern.headD 0=g.name.headD 0) then
    globLoop g.advance
  else if g.pattern≠[] ∧ g.pattern.headD 0=42 then globLoop g.enter
  else match _h : g.star with
    | some (pattern,name) => globLoop (Glob.retry pattern name)
    | none => false
termination_by (g.slack,g.name.length,g.pattern.length)
decreasing_by
  · rename_i hn _
    have hpos : 0 < g.name.length := List.length_pos_iff.mpr hn
    rcases hs : g.star with _ | q
    · apply Prod.Lex.left
      simp only [Glob.slack,Glob.advance,hs,List.length_tail]
      omega
    have hslack : g.advance.slack=g.slack := by simp only [Glob.slack,Glob.advance,hs]
    rw [hslack]
    apply Prod.Lex.right
    apply Prod.Lex.left
    simp only [Glob.advance,List.length_tail]
    omega
  · rename_i hp
    have hpos : 0 < g.pattern.length := List.length_pos_iff.mpr hp.1
    have hle : g.enter.slack≤g.slack := by
      rcases hs : g.star with _ | q
      · simp only [Glob.slack,Glob.enter,hs]
        omega
      have hq := g.behind q.1 q.2 hs
      simp only [Glob.slack,Glob.enter,hs]
      exact hq
    rcases Nat.lt_or_eq_of_le hle with hlt | heq
    · exact Prod.Lex.left _ _ hlt
    rw [heq]
    apply Prod.Lex.right
    apply Prod.Lex.right
    simp only [Glob.enter,List.length_tail]
    omega
  rename_i hn _ _
  exact Prod.Lex.left _ _ (Glob.retry_slack _h hn)

def usernamePatternMatches (pattern username : Bytes) : Bool :=
  globLoop (Glob.start pattern username)

def allowUsersPattern (token : Bytes) : Bytes := token.takeWhile (·≠64)

def usernameAllowedByAllowUsers (allowUsers : Option Bytes) (username : StringView) : Bool :=
  match allowUsers,username with
  | none,_ => true
  | some [],_ => true
  | some _,none => false
  | some _,some [] => false
  | some entries,some name => (entries.splitOnP isSeparatorChar).any fun token =>
    allowUsersPattern token≠[] && usernamePatternMatches (allowUsersPattern token) name

inductive PermitRootLogin where
  | default
  | no
  | yes
  | prohibitPassword
  deriving DecidableEq

def usernameIsRoot (username : StringView) : Bool := viewEqualsCstr username (cstr "root")

def rootLoginAllows (mode : PermitRootLogin) (isPassword : Bool) : Bool :=
  match mode with
  | .no => false
  | .yes => true
  | .default | .prohibitPassword => !isPassword

/-- name_list_contains_view: an empty name is in no list. -/
def nameListContainsView (nameList : Option Bytes) (name : StringView) : Bool :=
  match nameList,name with
  | some names,some name => name≠[] && containsLoop name names.length names
  | _,_ => false

lemma nameListContainsView_iff (names name : Bytes) :
    nameListContainsView (some names) (some name)=true ↔ name≠[] ∧ name∈nameItems names := by
  by_cases hn : name=[]
  · simp [nameListContainsView,hn]
  · simp [nameListContainsView,hn,containsLoop_eq hn _ _ le_rfl]

end EMSSHD

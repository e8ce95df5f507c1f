/-!
# Request targets

What a request is for: a path of this server, or a whole address that names a scheme and an
authority before the path. The path ends where the query or the fragment begins.
-/

namespace OrderDesk.Http.Target

/-- Whether a character may stand in the name of a scheme. It may come at any place of it, and
the name may be empty. -/
def isScheme (c : Char) : Bool := c.isAlphanum || c = '+' || c = '-' || c = '.' || c = '~'

/-- Whether a character may stand in a path. -/
def inPath (c : Char) : Bool := c != '?' && c != '#'

/-- Whether a character may stand in an authority. -/
def inAuthority (c : Char) : Bool := c != '/' && inPath c

/-- What an address holds behind its authority; nothing if a target is no address. -/
def afterAuthority? (target : List Char) : Option (List Char) :=
  match target.dropWhile isScheme with
  | ':' :: '/' :: '/' :: rest => some (rest.dropWhile inAuthority)
  | _ => none

/-- The path of an address without its scheme and authority; without a path it is the root. -/
def pathOrRoot (rest : List Char) : List Char :=
  match rest.takeWhile inPath with
  | [] => ['/']
  | path => path

/-- The path of a target. A target that is neither a path nor an address has none. -/
def path? (target : List Char) : Option (List Char) :=
  match target with
  | '/' :: _ => some (target.takeWhile inPath)
  | _ => (afterAuthority? target).map pathOrRoot

/-- Dropping a run of characters leaves what begins with the character that ends it. -/
theorem dropWhile_run {p : Char → Bool} {run rest : List Char} {stop : Char}
    (all : ∀ c ∈ run, p c = true) (stops : p stop = false) :
    (run ++ stop :: rest).dropWhile p = stop :: rest := by
  induction run with
  | nil => simp [stops]
  | cons c run ih =>
    have first : p c = true := all c (by simp)
    simpa [first] using ih fun d member => all d (by simp [member])

/-- An address has the path that stands behind its authority. -/
theorem path?_address {scheme authority rest : List Char}
    (isName : ∀ c ∈ scheme, isScheme c = true)
    (isHost : ∀ c ∈ authority, inAuthority c = true) :
    path? (scheme ++ ':' :: '/' :: '/' :: (authority ++ '/' :: rest)) = path? ('/' :: rest) := by
  have behindScheme : (scheme ++ ':' :: '/' :: '/' :: (authority ++ '/' :: rest)).dropWhile
      isScheme = ':' :: '/' :: '/' :: (authority ++ '/' :: rest) :=
    dropWhile_run isName (by decide)
  have behindHost : (authority ++ '/' :: rest).dropWhile inAuthority = '/' :: rest :=
    dropWhile_run isHost (by decide)
  have found : afterAuthority? (scheme ++ ':' :: '/' :: '/' :: (authority ++ '/' :: rest)) =
      some ('/' :: rest) := by
    simp [afterAuthority?, behindScheme, behindHost]
  have slash : inPath '/' = true := by decide
  cases scheme with
  | nil =>
    simp only [List.nil_append] at found ⊢
    simp [path?, found, pathOrRoot, slash]
  | cons c name =>
    have letter : isScheme c = true := isName c (by simp)
    have other : c ≠ '/' := by
      intro same
      subst same
      exact absurd letter (by decide)
    simp only [List.cons_append] at found ⊢
    simp [path?, other, found, pathOrRoot, slash]

end OrderDesk.Http.Target

/-!
# Namespaces

A namespace hands out names in first-come order. A name that is taken gets the least positive
number that makes it free.
-/

namespace TypedClient.Naming

/-- The least number from `i` on that makes `base` free, tried at most `fuel` times. -/
def firstFree (taken : String → Bool) (base : String) : (fuel i : Nat) → Nat
  | 0, i => i
  | fuel + 1, i => if taken (base ++ toString i) then firstFree taken base fuel (i + 1) else i

/-- `base` when it is free, else `base` with the least number that makes it free. At most `bound`
names may be taken, so one of the first `bound + 1` numbers is free. -/
def freeName (taken : String → Bool) (bound : Nat) (base : String) : String :=
  if taken base then base ++ toString (firstFree taken base bound 1) else base

/-- The names handed out so far, with those that were taken from the start. -/
structure Namespace where
  /-- The taken names, latest first. -/
  names : List String := []
deriving Repr

namespace Namespace

/-- Whether a name is taken. -/
def taken (ns : Namespace) (name : String) : Bool :=
  ns.names.contains name

/-- Takes `base`, or `base` with the least number that makes it free. -/
def reserve (ns : Namespace) (base : String) : String × Namespace :=
  let name := freeName ns.taken ns.names.length base
  (name, ⟨name :: ns.names⟩)

/-- Takes a name for each base in turn. -/
def reserveAll (ns : Namespace) : List String → List String × Namespace
  | [] => ([], ns)
  | base :: rest =>
      let (name, ns) := ns.reserve base
      let (names, ns) := reserveAll ns rest
      (name :: names, ns)

end Namespace

end TypedClient.Naming

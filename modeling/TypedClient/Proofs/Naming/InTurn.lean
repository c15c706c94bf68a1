import TypedClient.Proofs.Draft.Naming

/-!
# Names given in turn

One namespace names all models, another all services, and each enum, operation and service has one
for its parts, so what is given depends on all that was given before. `GivenInTurn` and
`ServicesInTurn` are runs of such requests, with the search of each without a bound.
`reserveAll_in_turn` shows that naming makes such runs, and that the names of a run are new and
distinct and are all that it adds to what is taken.
-/

namespace TypedClient.Naming

/-- A run of requests on a namespace: each base is given the name that the search finds while the
names so far are taken, and that name is taken from then on. -/
inductive GivenInTurn : Namespace → (bases names : List String) → Namespace → Prop where
  | nil (ns : Namespace) : GivenInTurn ns [] [] ns
  | cons {ns last : Namespace} {base name : String} {bases names : List String}
      (hname : Grants ns.taken base name)
      (hrest : GivenInTurn ⟨name :: ns.names⟩ bases names last) :
      GivenInTurn ns (base :: bases) (name :: names) last

/-- Reserving a name for each base in turn is a run. -/
theorem givenInTurn_reserveAll (ns : Namespace) (bases : List String) :
    GivenInTurn ns bases (ns.reserveAll bases).1 (ns.reserveAll bases).2 := by
  induction bases generalizing ns with
  | nil => exact .nil ns
  | cons base bases ih =>
      rw [Namespace.reserveAll_cons]
      exact .cons (ns.grants_reserve base) (ih (ns.reserve base).2)

variable {ns last : Namespace} {bases names : List String}

/-- The names of a run were not taken before, and no two of them are the same. -/
theorem GivenInTurn.fresh (h : GivenInTurn ns bases names last) :
    names.Nodup ∧ ∀ name ∈ names, name ∉ ns.names := by
  induction h with
  | nil => exact ⟨List.nodup_nil, fun _ hname => absurd hname List.not_mem_nil⟩
  | @cons ns _ _ name _ _ hname _ ih =>
      obtain ⟨hnodup, hlater⟩ := ih
      -- the later names are none of those taken before them, and this name is one of these
      refine ⟨List.nodup_cons.2 ⟨fun hmem => hlater name hmem List.mem_cons_self, hnodup⟩, ?_⟩
      refine List.forall_mem_cons.2 ⟨ns.taken_eq_false_iff.1 hname.free, fun other hother => ?_⟩
      exact List.not_mem_of_not_mem_cons (hlater other hother)

/-- After a run what was taken before and the names of the run are taken. -/
theorem GivenInTurn.taken_iff (h : GivenInTurn ns bases names last) (name : String) :
    last.taken name = true ↔ name ∈ ns.names ∨ name ∈ names := by
  induction h with
  | nil ns => simp [Namespace.taken]
  | cons _ _ ih =>
      rw [ih, List.mem_cons, List.mem_cons, or_assoc, or_left_comm]

/-- A run that names services: each is given the name that the search finds while another service
has it or a model has the name of its class, and reserving that name gives it as it is. -/
inductive ServicesInTurn (models : Namespace) :
    Namespace → (services named : List Service) → Prop where
  | nil (taken : Namespace) : ServicesInTurn models taken [] []
  | cons {taken : Namespace} {s : Service} {name : String} {services named : List Service}
      (hname : Grants (fun n => taken.taken n || models.taken (n ++ "Service"))
        (typeBase s.tag "Default") name)
      (hreserve : taken.reserve name = (name, ⟨name :: taken.names⟩))
      (hrest : ServicesInTurn models ⟨name :: taken.names⟩ services named) :
      ServicesInTurn models taken (s :: services)
        ({ s with name, operations := namedOperations s.operations } :: named)

/-- Naming services is a run. -/
theorem servicesInTurn_nameServices (models taken : Namespace) (services : List Service) :
    ServicesInTurn models taken services (nameServices models taken services) := by
  induction services generalizing taken with
  | nil => exact .nil taken
  | cons s services ih =>
      obtain ⟨name, hname, hreserve, heq⟩ := nameServices_step models taken s services
      rw [heq]
      exact .cons hname hreserve (ih _)

/-- Whatever names are taken from the start and whatever is asked for in turn, every search ends
without a bound and gives the name asked for, or that name with the least positive number, that is
free at that time. The names are distinct and were not taken from the start, and afterwards they and
those are taken and no other. The search for the names of the services ends too, with a name that
is given as it is. -/
theorem reserveAll_in_turn (taken bases : List String) :
    GivenInTurn ⟨taken⟩ bases (Namespace.reserveAll ⟨taken⟩ bases).1
        (Namespace.reserveAll ⟨taken⟩ bases).2 ∧
      (Namespace.reserveAll ⟨taken⟩ bases).1.Nodup ∧
      (Namespace.reserveAll ⟨taken⟩ bases).1.Disjoint taken ∧
      (∀ name, (Namespace.reserveAll ⟨taken⟩ bases).2.taken name = true ↔
        name ∈ taken ∨ name ∈ (Namespace.reserveAll ⟨taken⟩ bases).1) ∧
      ∀ (models services : Namespace) (list : List Service),
        ServicesInTurn models services list (nameServices models services list) := by
  have hrun := givenInTurn_reserveAll ⟨taken⟩ bases
  obtain ⟨hnodup, hfresh⟩ := hrun.fresh
  exact ⟨hrun, hnodup, hfresh, hrun.taken_iff, servicesInTurn_nameServices⟩

/-- A taken name and bases that look like others with a number: the numbers that they use are passed
over, as `reserveAll_in_turn` says. -/
theorem reserveAll_in_turn_numbered :
    GivenInTurn ⟨["Pet1"]⟩ ["Pet", "Pet", "Pet1", "Pet"] ["Pet", "Pet2", "Pet11", "Pet3"]
        ⟨["Pet3", "Pet11", "Pet2", "Pet", "Pet1"]⟩ ∧
      ["Pet", "Pet2", "Pet11", "Pet3"].Nodup ∧
      ["Pet", "Pet2", "Pet11", "Pet3"].Disjoint ["Pet1"] := by
  have hnames : (Namespace.reserveAll ⟨["Pet1"]⟩ ["Pet", "Pet", "Pet1", "Pet"]).1 =
      ["Pet", "Pet2", "Pet11", "Pet3"] := by decide
  have hlast : (Namespace.reserveAll ⟨["Pet1"]⟩ ["Pet", "Pet", "Pet1", "Pet"]).2 =
      ⟨["Pet3", "Pet11", "Pet2", "Pet", "Pet1"]⟩ := by rfl
  have hrun := reserveAll_in_turn ["Pet1"] ["Pet", "Pet", "Pet1", "Pet"]
  rw [hnames, hlast] at hrun
  exact ⟨hrun.1, hrun.2.1, hrun.2.2.1⟩

end TypedClient.Naming

import TypedClient.Draft.Failure
import TypedClient.Proofs.Document.Pointer
import TypedClient.Proofs.Draft.Order

/-!
# Chains of references

A reference may lead to a mapping that refers further. `Leads` is the loop that follows such a
chain: it keeps the references that it has followed and stops at one of them, at one that is not
found, and at a target that refers to nothing. Each round follows a text that stands under `$ref`
in the document and was not followed before, so the loop ends, and `leads_iff` says that it ends
with the result of `dereference`. `readTarget_settles` says what is read at the end of a chain, and
when there is no end.
-/

namespace TypedClient

namespace Value

/-- What `ref` refers to is a mapping that refers to `next`. -/
def Refers (doc : Value) (ref next : String) : Prop :=
  ∃ entries, Pointer.lookup? doc ref = some (.mapping entries) ∧
    Dict.get? entries "$ref" = some (.text next) ∧ next ≠ ""

/-- Following references from `ref`, when those of `seen` were followed before, leads to `r`. -/
inductive Leads (doc : Value) (referrer : String) :
    List String → String → Except Unresolved (String × Value) → Prop where
  /-- The reference was followed before. -/
  | again {seen ref} : ref ∈ seen → Leads doc referrer seen ref (.error ⟨ref, referrer⟩)
  /-- The reference is not found. -/
  | missing {seen ref} : ref ∉ seen → Pointer.lookup? doc ref = none →
      Leads doc referrer seen ref (.error ⟨ref, referrer⟩)
  /-- What it refers to refers further. -/
  | follow {seen ref next r} : ref ∉ seen → Refers doc ref next →
      Leads doc referrer (ref :: seen) next r → Leads doc referrer seen ref r
  /-- What it refers to refers to nothing. -/
  | stop {seen ref v} : ref ∉ seen → Pointer.lookup? doc ref = some v →
      (∀ next, ¬ Refers doc ref next) → Leads doc referrer seen ref (.ok (ref, v))

/-- The chain from `start` comes to `ref` behind the references of `seen`, the latest first. -/
inductive Follows (doc : Value) (start : String) : List String → String → Prop where
  | start : Follows doc start [] start
  | next {seen ref next} : Follows doc start seen ref → Refers doc ref next →
      Follows doc start (ref :: seen) next

/-- A reference that is not found, or that was followed before. -/
def Broken (doc : Value) (seen : List String) (ref : String) : Prop :=
  Pointer.lookup? doc ref = none ∨ ref ∈ seen

variable {doc v w : Value} {referrer start ref next key : String} {seen keys : List String}
  {r r' : Except Unresolved (String × Value)}

/-! ## The references of a document -/

/-- What a value refers to, if it is a mapping that refers to something. -/
theorem target?_entries_eq_some_iff : Field.target? v.entries = some next ↔
    ∃ entries, v = .mapping entries ∧ Dict.get? entries "$ref" = some (.text next) ∧
      next ≠ "" := by
  have hentries : ∀ entries : Dict Value, Field.target? entries = some next ↔
      Dict.get? entries "$ref" = some (.text next) ∧ next ≠ "" := by
    intro entries
    rw [Field.target?]
    split
    case h_1 s hs =>
      rw [hs]
      by_cases hempty : s = ""
      · simp [hempty, eq_comm]
      · simp only [if_neg hempty, Option.some.injEq, Value.text.injEq]
        exact (and_iff_left_of_imp (fun heq => heq ▸ hempty)).symm
    case h_2 hother => exact iff_of_false nofun (fun h => hother next h.1)
  cases v with
  | mapping entries =>
      refine (hentries entries).trans ⟨fun h => ⟨entries, rfl, h⟩, ?_⟩
      rintro ⟨others, heq, h⟩
      cases heq
      exact h
  | _ => simp [entries, mapping?, Field.target?]

theorem refers_iff (h : Pointer.lookup? doc ref = some v) :
    Refers doc ref next ↔ Field.target? v.entries = some next := by
  rw [target?_entries_eq_some_iff, Refers, h]
  simp only [Option.some.injEq]

theorem mem_targetsOfItems {items : List Value} (h : v ∈ items) :
    v.targets ⊆ targetsOfItems items := by
  induction items with
  | nil => exact absurd h List.not_mem_nil
  | cons first rest ih =>
      rw [targetsOfItems]
      rcases List.mem_cons.1 h with rfl | h
      · exact List.subset_append_left _ _
      · exact List.Subset.trans (ih h) (List.subset_append_right _ _)

theorem mem_targetsOfEntries {entries : List (String × Value)} (h : (key, v) ∈ entries) :
    v.targets ⊆ targetsOfEntries entries ∧
      (key = "$ref" → ∀ s, v = .text s → s ∈ targetsOfEntries entries) := by
  induction entries with
  | nil => exact absurd h List.not_mem_nil
  | cons first rest ih =>
      obtain ⟨other, u⟩ := first
      rw [targetsOfEntries]
      rcases List.mem_cons.1 h with heq | h
      · obtain ⟨rfl, rfl⟩ := Prod.mk.inj heq
        refine ⟨fun s hs => by simp [hs], ?_⟩
        rintro rfl s rfl
        simp [text?]
      · exact ⟨List.Subset.trans (ih h).1 (List.subset_append_right _ _),
          fun hkey s hs => List.mem_append_right _ ((ih h).2 hkey s hs)⟩

/-- The references below a step are references of the whole. -/
theorem targets_of_step? (h : Pointer.step? v key = some w) : w.targets ⊆ v.targets := by
  unfold Pointer.step? at h
  split at h
  case h_1 entries =>
    obtain ⟨before, after, rfl, -⟩ := List.lookup_eq_some_iff.1 h
    exact (mem_targetsOfEntries (List.mem_append_right _ List.mem_cons_self)).1
  case h_2 items =>
    obtain ⟨i, -, h⟩ := Option.bind_eq_some_iff.1 h
    split at h
    · cases h
    · exact mem_targetsOfItems (List.mem_of_getElem? h)
  case h_3 => cases h

theorem targets_of_descend? (h : Pointer.descend? v keys = some w) : w.targets ⊆ v.targets := by
  rw [Pointer.descend?] at h
  induction keys generalizing v with
  | nil =>
      cases h
      exact List.Subset.refl _
  | cons key keys ih =>
      rw [List.foldlM_cons] at h
      obtain ⟨u, hu, h⟩ := Option.bind_eq_some_iff.1 h
      exact List.Subset.trans (ih h) (targets_of_step? hu)

/-- What a chain goes on with is a reference of the document. -/
theorem Refers.mem_targets (h : Refers doc ref next) : next ∈ doc.targets := by
  obtain ⟨entries, hfound, hnext, -⟩ := h
  have hsub : (Value.mapping entries).targets ⊆ doc.targets := by
    rw [Pointer.lookup?_eq] at hfound
    split at hfound
    · obtain ⟨keys, -, hdescend⟩ := Option.bind_eq_some_iff.1 hfound
      exact targets_of_descend? hdescend
    · cases hfound
  refine hsub ?_
  obtain ⟨before, after, rfl, -⟩ := List.lookup_eq_some_iff.1 hnext
  exact (mem_targetsOfEntries (List.mem_append_right _ List.mem_cons_self)).2 rfl next rfl

/-! ## Following a chain -/

theorem Refers.unique {other : String} (h : Refers doc ref next) (hother : Refers doc ref other) :
    next = other := by
  obtain ⟨entries, hfound, hnext, -⟩ := h
  obtain ⟨others, hfound', hother, -⟩ := hother
  cases hfound.symm.trans hfound'
  cases hnext.symm.trans hother
  rfl

/-- A chain leads to one result. -/
theorem Leads.unique (h : Leads doc referrer seen ref r) (h' : Leads doc referrer seen ref r') :
    r = r' := by
  induction h generalizing r' with
  | again hseen =>
      cases h' with
      | again => rfl
      | missing hnew | follow hnew | stop hnew => exact absurd hseen hnew
  | missing hnew hnone =>
      cases h' with
      | again hseen => exact absurd hseen hnew
      | missing => rfl
      | follow _ hrefers =>
          obtain ⟨entries, hfound, -⟩ := hrefers
          cases hnone.symm.trans hfound
      | stop _ hfound => cases hnone.symm.trans hfound
  | follow hnew hrefers _ ih =>
      cases h' with
      | again hseen => exact absurd hseen hnew
      | missing _ hnone =>
          obtain ⟨entries, hfound, -⟩ := hrefers
          cases hnone.symm.trans hfound
      | follow _ hother hrest =>
          obtain rfl := hrefers.unique hother
          exact ih hrest
      | stop _ _ hend => exact absurd hrefers (hend _)
  | stop hnew hfound hend =>
      cases h' with
      | again hseen => exact absurd hseen hnew
      | missing _ hnone => cases hfound.symm.trans hnone
      | follow _ hrefers => exact absurd hrefers (hend _)
      | stop _ hother =>
          cases hfound.symm.trans hother
          rfl

/-- When `unseen` holds the references of the document that were not followed yet, the chain leads
to the result of `chase`. -/
theorem leads_chase {unseen : List String} (hnodup : unseen.Nodup) (hnew : ref ∉ seen)
    (hunseen : ∀ t ∈ doc.targets, t ∈ unseen ↔ t ∉ ref :: seen) :
    Leads doc referrer seen ref (doc.chase unseen referrer ref) := by
  induction unseen, ref using Value.chase.induct doc generalizing seen with
  | case1 unseen ref hnone =>
      unfold chase
      simp only [hnone]
      exact .missing hnew hnone
  | case2 unseen ref v hfound hplain =>
      unfold chase
      simp only [hfound, hplain]
      refine .stop hnew hfound (fun next hrefers => ?_)
      rw [refers_iff hfound, hplain] at hrefers
      cases hrefers
  | case3 unseen ref v hfound next hnext hmem ih =>
      unfold chase
      simp only [hfound, hnext, dif_pos hmem]
      have hrefers := (refers_iff hfound).2 hnext
      have hfresh := (hunseen next hrefers.mem_targets).1 hmem
      refine .follow hnew hrefers (ih (hnodup.erase next) hfresh (fun t ht => ?_))
      rw [hnodup.mem_erase_iff, hunseen t ht, ← not_or, ← List.mem_cons]
  | case4 unseen ref v hfound next hnext hmem =>
      unfold chase
      simp only [hfound, hnext, dif_neg hmem]
      -- a reference of the document that is not left to be followed was followed
      have hrefers := (refers_iff hfound).2 hnext
      have hseen := not_not.1 (mt (hunseen next hrefers.mem_targets).2 hmem)
      exact .follow hnew hrefers (.again hseen)

/-- The loop ends, and its result is that of `dereference`. -/
theorem leads_iff : Leads doc referrer [] start r ↔ r = doc.dereference referrer start := by
  have hleads : Leads doc referrer [] start (doc.dereference referrer start) := by
    have hnodup : doc.targets.eraseDups.Nodup := nodup_eraseDups _
    refine leads_chase (hnodup.erase start) List.not_mem_nil (fun t ht => ?_)
    rw [hnodup.mem_erase_iff, List.mem_eraseDups, List.mem_singleton, and_iff_left ht]
  exact ⟨fun h => h.unique hleads, fun h => h ▸ hleads⟩

/-! ## Where a chain goes -/

/-- What a chain leads to behind references that differ, it leads to from its start. -/
theorem Follows.leads (h : Follows doc start seen ref) (hnodup : seen.Nodup)
    (hleads : Leads doc referrer seen ref r) : Leads doc referrer [] start r := by
  induction h with
  | start => exact hleads
  | next _ hrefers ih =>
      rw [List.nodup_cons] at hnodup
      exact ih hnodup.2 (.follow hnodup.1 hrefers hleads)

/-- As long as no reference comes twice, the references of a chain differ. -/
theorem Follows.nodup_or_broken (h : Follows doc start seen ref) :
    seen.Nodup ∨ ∃ before again, Follows doc start before again ∧ before.Nodup ∧
      again ∈ before := by
  induction h with
  | start => exact .inl List.nodup_nil
  | @next seen ref _ hbefore _ ih =>
      rcases ih with hnodup | hbroken
      · by_cases hseen : ref ∈ seen
        · exact .inr ⟨seen, ref, hbefore, hnodup, hseen⟩
        · exact .inl (List.nodup_cons.2 ⟨hseen, hnodup⟩)
      · exact .inr hbroken

/-- A chain that breaks leads to an error. -/
theorem Follows.leads_of_broken (h : Follows doc start seen ref) (hbroken : Broken doc seen ref) :
    ∃ u, Leads doc referrer [] start (.error u) := by
  have hfirst : ∀ {seen ref}, Follows doc start seen ref → seen.Nodup → Broken doc seen ref →
      ∃ u, Leads doc referrer [] start (.error u) := by
    intro seen ref hfollows hnodup hbroken
    refine ⟨⟨ref, referrer⟩, hfollows.leads hnodup ?_⟩
    by_cases hseen : ref ∈ seen
    · exact .again hseen
    · exact .missing hseen (hbroken.resolve_right hseen)
  rcases h.nodup_or_broken with hnodup | ⟨before, again, hagain, hnodup, hmem⟩
  · exact hfirst h hnodup hbroken
  · exact hfirst hagain hnodup (.inr hmem)

/-- Where the loop ends: at a target that refers to nothing, or at a reference that is the first
to break the chain. -/
theorem Follows.of_leads (h : Follows doc start seen ref) (hnodup : seen.Nodup)
    (hleads : Leads doc referrer seen ref r) :
    (∀ last v, r = .ok (last, v) → (∃ before, Follows doc start before last) ∧
      Pointer.lookup? doc last = some v ∧ ∀ next, ¬ Refers doc last next) ∧
    ∀ u, r = .error u → u.referrer = referrer ∧
      ∃ before, Follows doc start before u.pointer ∧ before.Nodup ∧
        Broken doc before u.pointer := by
  induction hleads with
  | again hseen =>
      refine ⟨nofun, fun u heq => ?_⟩
      cases heq
      exact ⟨rfl, _, h, hnodup, .inr hseen⟩
  | missing hnew hnone =>
      refine ⟨nofun, fun u heq => ?_⟩
      cases heq
      exact ⟨rfl, _, h, hnodup, .inl hnone⟩
  | follow hnew hrefers _ ih => exact ih (h.next hrefers) (List.nodup_cons.2 ⟨hnew, hnodup⟩)
  | stop hnew hfound hend =>
      refine ⟨fun last v heq => ?_, nofun⟩
      cases heq
      exact ⟨⟨_, h⟩, hfound, hend⟩

/-- Following references from anywhere in any document ends. The chain is unresolved exactly when it
comes to a reference that is not found or that it has followed, and the report names the first
such reference. Any other chain ends at its first target that is no mapping with a reference;
what is read there comes with the last reference, and a target of the wrong form is reported as
such. -/
theorem readTarget_settles {α : Type} (doc : Value) (kind : ObjectKind) (read : Dict Value → α)
    (referrer start : String) :
    (∀ r, Leads doc referrer [] start r ↔ r = doc.dereference referrer start) ∧
    ((∃ e, doc.readTarget kind read referrer start = .error e ∧
        e.toFault.code? = some .unresolvedReference) ↔
      ∃ seen ref, Follows doc start seen ref ∧ Broken doc seen ref) ∧
    (∀ u, doc.readTarget kind read referrer start = .error (.unresolved u) →
      u.referrer = referrer ∧ ∃ seen, Follows doc start seen u.pointer ∧ seen.Nodup ∧
        Broken doc seen u.pointer) ∧
    ((¬ ∃ seen ref, Follows doc start seen ref ∧ Broken doc seen ref) →
      ∃ seen last v, Follows doc start seen last ∧ Pointer.lookup? doc last = some v ∧
        (∀ next, ¬ Refers doc last next) ∧
        (v.isA kind = true →
          doc.readTarget kind read referrer start = .ok (read v.entries, last)) ∧
        (v.isA kind = false → ∃ e, doc.readTarget kind read referrer start = .error e ∧
          e.toFault.code? = some .parse)) := by
  have hleads : Leads doc referrer [] start (doc.dereference referrer start) := leads_iff.2 rfl
  have hwhere := Follows.start.of_leads List.nodup_nil hleads
  refine ⟨fun r => leads_iff, ?_⟩
  cases hresult : doc.dereference referrer start with
  | error u =>
      have hread : doc.readTarget kind read referrer start = .error (.unresolved u) := by
        simp only [readTarget, hresult]
      obtain ⟨hreferrer, seen, hfollows, hnodup, hbroken⟩ := hwhere.2 u hresult
      rw [hread]
      refine ⟨iff_of_true ⟨_, rfl, rfl⟩ ⟨seen, u.pointer, hfollows, hbroken⟩, ?_, fun hnone => ?_⟩
      · intro u' heq
        cases heq
        exact ⟨hreferrer, seen, hfollows, hnodup, hbroken⟩
      · exact absurd ⟨seen, u.pointer, hfollows, hbroken⟩ hnone
  | ok found =>
      obtain ⟨last, v⟩ := found
      have hread : doc.readTarget kind read referrer start =
          if v.isA kind then .ok (read v.entries, last) else .error (.malformedTarget last) := by
        simp only [readTarget, hresult]
      obtain ⟨⟨seen, hfollows⟩, hfound, hend⟩ := hwhere.1 last v hresult
      have hwhole : ¬ ∃ seen ref, Follows doc start seen ref ∧ Broken doc seen ref := by
        rintro ⟨seen, ref, hfollows, hbroken⟩
        have hfails : ∃ u, Leads doc referrer [] start (.error u) :=
          hfollows.leads_of_broken hbroken
        obtain ⟨u, hu⟩ := hfails
        cases hresult.symm.trans (leads_iff.1 hu).symm
      rw [hread]
      refine ⟨iff_of_false ?_ hwhole, fun u heq => ?_, fun _ =>
        ⟨seen, last, v, hfollows, hfound, hend, fun hform => if_pos hform, fun hform =>
          ⟨.malformedTarget last, if_neg (by simp [hform]), rfl⟩⟩⟩
      · rintro ⟨e, heq, hcode⟩
        split at heq
        · cases heq
        · cases heq
          cases hcode
      · split at heq <;> cases heq

/-- A document with a chain of two references, and with one that comes back to itself under another
spelling. -/
def knotted : Value :=
  .mapping
    [("a", .mapping [("$ref", .text "#/b")]), ("b", .mapping [("$ref", .text "#/c")]),
     ("c", .mapping [("name", .text "limit")]), ("x", .mapping [("$ref", .text "#/%78")])]

/-- `readTarget_settles` for both chains of `knotted`. -/
theorem readTarget_settles_knotted :
    knotted.readTarget .parameter2 id "#/paths" "#/x" =
        .error (.unresolved ⟨"#/%78", "#/paths"⟩) ∧
      (∃ seen, Follows knotted "#/x" seen "#/%78" ∧ seen.Nodup ∧
        Broken knotted seen "#/%78") ∧
      (¬ ∃ seen ref, Follows knotted "#/a" seen ref ∧ Broken knotted seen ref) ∧
      ∃ seen last v, Follows knotted "#/a" seen last ∧
        Pointer.lookup? knotted last = some v ∧ (∀ next, ¬ Refers knotted last next) ∧
        (v.isA .parameter2 = true →
          knotted.readTarget .parameter2 id "#/paths" "#/a" = .ok (v.entries, last)) ∧
        (v.isA .parameter2 = false →
          ∃ e, knotted.readTarget .parameter2 id "#/paths" "#/a" = .error e ∧
            e.toFault.code? = some .parse) := by
  have hknot : knotted.dereference "#/paths" "#/x" = .error ⟨"#/%78", "#/paths"⟩ := by with_unfolding_all rfl
  have hchain : knotted.dereference "#/paths" "#/a" =
      .ok ("#/c", .mapping [("name", .text "limit")]) := by with_unfolding_all rfl
  obtain ⟨-, -, hreported, -⟩ :=
    readTarget_settles knotted .parameter2 (id : Dict Value → Dict Value) "#/paths" "#/x"
  obtain ⟨-, hunresolved, -, hsettled⟩ :=
    readTarget_settles knotted .parameter2 (id : Dict Value → Dict Value) "#/paths" "#/a"
  have hread : knotted.readTarget .parameter2 (id : Dict Value → Dict Value) "#/paths" "#/x" =
      .error (.unresolved ⟨"#/%78", "#/paths"⟩) := by
    simp only [readTarget, hknot]
  have hwhole : ¬ ∃ seen ref, Follows knotted "#/a" seen ref ∧ Broken knotted seen ref := by
    rw [← hunresolved]
    rintro ⟨e, heq, hcode⟩
    simp only [readTarget, hchain] at heq
    split at heq
    · cases heq
    · cases heq
      cases hcode
  exact ⟨hread, (hreported _ hread).2, hwhole, hsettled hwhole⟩

end Value

end TypedClient

import Mathlib
import TypedClient.Draft.Resolution
import TypedClient.Proofs.Draft.Merging

/-!
# When a draft resolves

`resolveBy_error_iff` says when resolution fails: exactly when some reference of the merged draft
targets no model of it. The search is followed by what it has visited: every visited pointer
belongs to a model whose references all have targets, so a search that visits every model has
checked every reference, whatever cycles the references form.

`resolveBy_first_wins` says what a resolved draft is: the draft in which the first anonymous model
of each shape stays, references to the others lead to it, and all else is as it was.
-/

namespace TypedClient.Draft

/-- Whether a target is the pointer of a model. -/
def Resolves (d : Draft) (target : String) : Prop :=
  ∃ m ∈ d.models, m.pointer = target

/-- A model found at a pointer is a model of the draft that stands there. -/
theorem modelAt?_eq_some {d : Draft} {pointer : String} {m : Model}
    (h : d.modelAt? pointer = some m) : m ∈ d.models ∧ m.pointer = pointer :=
  ⟨List.mem_of_find?_eq_some h, by simpa using List.find?_some h⟩

/-- No model is found exactly when a target does not resolve. -/
theorem modelAt?_eq_none_iff {d : Draft} {pointer : String} :
    d.modelAt? pointer = none ↔ ¬ d.Resolves pointer := by
  simp [modelAt?, Resolves]

/-- At distinct pointers every model is found at its own. -/
theorem modelAt?_pointer {d : Draft} (hptr : (d.models.map Model.pointer).Nodup) {m : Model}
    (hm : m ∈ d.models) : d.modelAt? m.pointer = some m := by
  cases h : d.modelAt? m.pointer with
  | none => exact absurd ⟨m, hm, rfl⟩ (modelAt?_eq_none_iff.1 h)
  | some n =>
      obtain ⟨hn, hp⟩ := modelAt?_eq_some h
      rw [List.inj_on_of_nodup_map hptr hn hm hp]

namespace Visits

/-- A visit at the front is found first. -/
theorem contains_cons (p : String) (opened : List String) (v : Visits) (q : String) :
    contains ((p, opened) :: v) q = (decide (q = p) || v.contains q) := by
  by_cases h : q = p
  · simp [contains, h]
  · have hne : (q == p) = false := by simpa using h
    simp [contains, List.lookup_cons, h, hne]

/-- Every visited pointer belongs to a model whose references all have targets. -/
def Checked (d : Draft) (v : Visits) : Prop :=
  ∀ p, v.contains p = true →
    ∃ m, d.modelAt? p = some m ∧ ∀ t ∈ m.referenceNodes, d.Resolves t.target

/-- Nothing is visited before the search. -/
theorem Checked.nil (d : Draft) : Checked d [] := by
  intro p hp
  simp [contains] at hp

/-- A model whose references have targets may be visited. -/
theorem Checked.cons {d : Draft} {v : Visits} (h : Checked d v) {p : String} {m : Model}
    (opened : List String) (hm : d.modelAt? p = some m)
    (hrefs : ∀ t ∈ m.referenceNodes, d.Resolves t.target) : Checked d ((p, opened) :: v) := by
  intro q hq
  rw [contains_cons] at hq
  by_cases hqp : q = p
  · subst hqp
    exact ⟨m, hm, hrefs⟩
  · exact h q (by simpa [hqp] using hq)

end Visits

/-- A search that ends has checked the references it was given, and keeps what was visited. -/
theorem follow_ok {d : Draft} {closed opened : List String} {visits after : Visits}
    {refs : List Traits} (h : d.follow closed opened visits refs = .ok after)
    (hv : visits.Checked d) :
    after.Checked d ∧ (∀ p, visits.contains p = true → after.contains p = true) ∧
      ∀ t ∈ refs, d.Resolves t.target := by
  fun_induction follow d closed opened visits refs generalizing after with
  | case1 closed opened visits =>
      cases h
      exact ⟨hv, fun _ hp => hp, by simp⟩
  | case2 => cases h
  | case3 closed opened visits ref rest m hm _ ih =>
      obtain ⟨hafter, hmono, hrest⟩ := ih h hv
      exact ⟨hafter, hmono, List.forall_mem_cons.2 ⟨⟨m, modelAt?_eq_some hm⟩, hrest⟩⟩
  | case4 => cases h
  | case5 closed opened visits ref rest m hm _ _ below hbelow ihbelow ihrest =>
      -- the model counts as checked only now, when all its references have been followed
      obtain ⟨hchecked, hkeep, hrefs⟩ := ihbelow hbelow hv
      obtain ⟨hafter, hmono, hrest⟩ := ihrest h (hchecked.cons _ hm hrefs)
      refine ⟨hafter, fun p hp => hmono p ?_,
        List.forall_mem_cons.2 ⟨⟨m, modelAt?_eq_some hm⟩, hrest⟩⟩
      rw [Visits.contains_cons, hkeep p hp, Bool.or_true]
  | case6 closed opened visits ref rest m hm _ _ ih =>
      obtain ⟨hafter, hmono, hrest⟩ := ih h hv
      exact ⟨hafter, hmono, List.forall_mem_cons.2 ⟨⟨m, modelAt?_eq_some hm⟩, hrest⟩⟩

/-- A failure reports a reference without a target. -/
def Dangles (d : Draft) (refs : List Traits) (e : Unresolved) : Prop :=
  ∃ t ∈ refs, ¬ d.Resolves t.target ∧ e = ⟨t.target, t.pointer⟩

/-- A search fails at a reference that it was given or that a model holds. -/
theorem follow_error {d : Draft} {closed opened : List String} {visits : Visits}
    {refs : List Traits} {e : Unresolved}
    (h : d.follow closed opened visits refs = .error e) :
    d.Dangles (refs ++ d.models.flatMap Model.referenceNodes) e := by
  fun_induction follow d closed opened visits refs generalizing e with
  | case1 => cases h
  | case2 closed opened visits ref rest hm =>
      cases h
      exact ⟨ref, by simp, modelAt?_eq_none_iff.1 hm, rfl⟩
  | case3 closed opened visits ref rest m hm _ ih =>
      obtain ⟨t, ht, hrest⟩ := ih h
      exact ⟨t, List.mem_cons_of_mem ref ht, hrest⟩
  | case4 closed opened visits ref rest m hm _ _ e' hbelow ih =>
      cases h
      obtain ⟨t, ht, hrest⟩ := ih hbelow
      refine ⟨t, List.mem_append_right _ ?_, hrest⟩
      rcases List.mem_append.1 ht with ht | ht
      · exact List.mem_flatMap.2 ⟨m, (modelAt?_eq_some hm).1, ht⟩
      · exact ht
  | case5 closed opened visits ref rest m hm _ _ below hbelow ihbelow ihrest =>
      obtain ⟨t, ht, hrest⟩ := ihrest h
      exact ⟨t, List.mem_cons_of_mem ref ht, hrest⟩
  | case6 closed opened visits ref rest m hm _ _ ih =>
      obtain ⟨t, ht, hrest⟩ := ih h
      exact ⟨t, List.mem_cons_of_mem ref ht, hrest⟩

/-- A model that was not visited is entered, with every other pointer closed. -/
theorem visit_new {d : Draft} {visits : Visits} {m : Model}
    (h : ¬ visits.contains m.pointer = true) :
    d.visit visits m =
      (d.follow ((d.models.map Model.pointer).eraseDups.erase m.pointer) [m.pointer] visits
        m.referenceNodes).map (fun below => (m.pointer, [m.pointer]) :: below) := by
  rw [visit, if_neg h]

/-- A visit that ends has visited the model and keeps what was visited. -/
theorem visit_ok {d : Draft} (hptr : (d.models.map Model.pointer).Nodup) {visits after : Visits}
    {m : Model} (hm : m ∈ d.models) (h : d.visit visits m = .ok after) (hv : visits.Checked d) :
    after.Checked d ∧ after.contains m.pointer = true ∧
      ∀ p, visits.contains p = true → after.contains p = true := by
  by_cases hseen : visits.contains m.pointer = true
  · rw [visit, if_pos hseen] at h
    cases h
    exact ⟨hv, hseen, fun _ hp => hp⟩
  · rw [visit_new hseen] at h
    cases hfollow : d.follow ((d.models.map Model.pointer).eraseDups.erase m.pointer)
        [m.pointer] visits m.referenceNodes with
    | error e => rw [hfollow] at h; cases h
    | ok below =>
        rw [hfollow] at h
        cases h
        obtain ⟨hbelow, hmono, hrefs⟩ := follow_ok hfollow hv
        refine ⟨hbelow.cons _ (modelAt?_pointer hptr hm) hrefs, ?_, fun p hp => ?_⟩
        · rw [Visits.contains_cons]
          simp
        · rw [Visits.contains_cons, hmono p hp, Bool.or_true]

/-- A visit fails at a reference that some model holds. -/
theorem visit_error {d : Draft} {visits : Visits} {m : Model} (hm : m ∈ d.models) {e : Unresolved}
    (h : d.visit visits m = .error e) : d.Dangles (d.models.flatMap Model.referenceNodes) e := by
  by_cases hseen : visits.contains m.pointer = true
  · rw [visit, if_pos hseen] at h
    cases h
  · rw [visit_new hseen] at h
    cases hfollow : d.follow ((d.models.map Model.pointer).eraseDups.erase m.pointer)
        [m.pointer] visits m.referenceNodes with
    | ok below => rw [hfollow] at h; cases h
    | error e' =>
        rw [hfollow] at h
        cases h
        obtain ⟨t, ht, hrest⟩ := follow_error hfollow
        refine ⟨t, ?_, hrest⟩
        rcases List.mem_append.1 ht with ht | ht
        · exact List.mem_flatMap.2 ⟨m, hm, ht⟩
        · exact ht

/-- Visits of some models that end have visited each of them. -/
theorem visits_ok {d : Draft} (hptr : (d.models.map Model.pointer).Nodup) {models : List Model}
    (hsub : models ⊆ d.models) {visits after : Visits}
    (h : models.foldlM d.visit visits = .ok after) (hv : visits.Checked d) :
    after.Checked d ∧ (∀ m ∈ models, after.contains m.pointer = true) ∧
      ∀ p, visits.contains p = true → after.contains p = true := by
  induction models generalizing visits with
  | nil =>
      cases h
      exact ⟨hv, by simp, fun _ hp => hp⟩
  | cons m models ih =>
      rw [List.foldlM_cons] at h
      cases hvisit : d.visit visits m with
      | error e => rw [hvisit] at h; cases h
      | ok next =>
          rw [hvisit] at h
          obtain ⟨hnext, hseen, hkeep⟩ := visit_ok hptr (hsub List.mem_cons_self) hvisit hv
          obtain ⟨hafter, hrest, hmono⟩ :=
            ih (fun n hn => hsub (List.mem_cons_of_mem m hn)) h hnext
          exact ⟨hafter, List.forall_mem_cons.2 ⟨hmono _ hseen, hrest⟩,
            fun p hp => hmono p (hkeep p hp)⟩

/-- Visits of some models fail at a reference that some model holds. -/
theorem visits_error {d : Draft} {models : List Model} (hsub : models ⊆ d.models)
    {visits : Visits} {e : Unresolved} (h : models.foldlM d.visit visits = .error e) :
    d.Dangles (d.models.flatMap Model.referenceNodes) e := by
  induction models generalizing visits with
  | nil => cases h
  | cons m models ih =>
      rw [List.foldlM_cons] at h
      cases hvisit : d.visit visits m with
      | error e' =>
          rw [hvisit] at h
          cases h
          exact visit_error (hsub List.mem_cons_self) hvisit
      | ok next =>
          rw [hvisit] at h
          exact ih (fun n hn => hsub (List.mem_cons_of_mem m hn)) h

/-- Resolution ends when every visit ends and no operation refers to nothing; the result is the
merged draft with the references that close a cycle marked. -/
theorem resolveBy_eq_ok_iff {digest : String → UInt64} {d out : Draft} :
    d.resolveBy digest = .ok out ↔
      ∃ visits, (d.merged digest).models.foldlM (d.merged digest).visit [] = .ok visits ∧
        (d.merged digest).danglingOperation? = none ∧
        out = { d.merged digest with models := marked visits [] (d.merged digest).models } := by
  unfold resolveBy
  cases hvisits : (d.merged digest).models.foldlM (d.merged digest).visit [] with
  | error e => simp [bind, Except.bind, hvisits]
  | ok visits =>
      cases hdangling : (d.merged digest).danglingOperation? with
      | some t => simp [bind, Except.bind, hvisits, hdangling, throw, throwThe, MonadExceptOf.throw]
      | none => simp [bind, Except.bind, hvisits, hdangling, pure, Except.pure, eq_comm]

/-- Every failure of resolution reports a reference of the merged draft without a target. -/
theorem resolveBy_error {digest : String → UInt64} {d : Draft} {e : Unresolved}
    (h : d.resolveBy digest = .error e) :
    (d.merged digest).Dangles (d.merged digest).referenceNodes e := by
  unfold resolveBy at h
  cases hvisits : (d.merged digest).models.foldlM (d.merged digest).visit [] with
  | error e' =>
      simp only [bind, Except.bind, hvisits] at h
      cases h
      obtain ⟨t, ht, hrest⟩ := visits_error (List.Subset.refl _) hvisits
      exact ⟨t, List.mem_append_left _ ht, hrest⟩
  | ok visits =>
      cases hdangling : (d.merged digest).danglingOperation? with
      | none => simp [bind, Except.bind, hvisits, hdangling, pure, Except.pure] at h
      | some t =>
          simp only [bind, Except.bind, hvisits, hdangling] at h
          cases h
          have hnone := List.find?_some hdangling
          exact ⟨t, List.mem_append_right _ (List.mem_of_find?_eq_some hdangling),
            modelAt?_eq_none_iff.1 (by simpa using hnone), rfl⟩

/-- When resolution ends, every reference of the merged draft has a target. -/
theorem resolves_of_resolveBy_eq_ok {digest : String → UInt64} {d out : Draft}
    (hptr : (d.models.map Model.pointer).Nodup) (h : d.resolveBy digest = .ok out) :
    ∀ t ∈ (d.merged digest).referenceNodes, (d.merged digest).Resolves t.target := by
  obtain ⟨visits, hvisits, hdangling, -⟩ := resolveBy_eq_ok_iff.1 h
  have hptr := pointers_merged_nodup digest hptr
  obtain ⟨hchecked, hall, -⟩ :=
    visits_ok hptr (List.Subset.refl _) hvisits (Visits.Checked.nil _)
  intro t ht
  rcases List.mem_append.1 ht with ht | ht
  · obtain ⟨m, hm, ht⟩ := List.mem_flatMap.1 ht
    obtain ⟨n, hn, hrefs⟩ := hchecked _ (hall m hm)
    rw [modelAt?_pointer hptr hm] at hn
    cases hn
    exact hrefs t ht
  · by_contra hnot
    have hfound := List.find?_eq_none.1 hdangling t ht
    exact hfound (by simp [modelAt?_eq_none_iff.2 hnot])

/-- Resolution fails exactly when some reference of the merged draft targets no model of it. -/
theorem resolveBy_error_iff (digest : String → UInt64) {d : Draft}
    (hptr : (d.models.map Model.pointer).Nodup) :
    (∃ e, d.resolveBy digest = .error e) ↔
      ∃ t ∈ (d.merged digest).referenceNodes, ¬ (d.merged digest).Resolves t.target := by
  constructor
  · rintro ⟨e, he⟩
    obtain ⟨t, ht, hnot, -⟩ := resolveBy_error he
    exact ⟨t, ht, hnot⟩
  · rintro ⟨t, ht, hnot⟩
    cases h : d.resolveBy digest with
    | error e => exact ⟨e, rfl⟩
    | ok out => exact absurd (resolves_of_resolveBy_eq_ok hptr h t ht) hnot

/-! ## What resolution changes -/

/-- What marking references keeps of every model it keeps of the list of models. -/
theorem map_marked {α : Type} (g : Model → α)
    (hg : ∀ opened m, g (m.mapTraits (markNode opened)) = g m) (visits : Visits)
    (seen : List String) (models : List Model) :
    (marked visits seen models).map g = models.map g := by
  induction models generalizing seen with
  | nil => rfl
  | cons m models ih =>
      rw [marked]
      split
      · rw [List.map_cons, List.map_cons, ih]
      · rw [List.map_cons, List.map_cons, ih, hg]

/-- Marking keeps pointers. -/
theorem pointers_marked (visits : Visits) (seen : List String) (models : List Model) :
    (marked visits seen models).map Model.pointer = models.map Model.pointer := by
  refine map_marked _ (fun opened m => ?_) visits seen models
  refine Model.traits_mapNodes _ Traits.pointer (fun t => ?_) m
  unfold markNode
  split <;> rfl

/-- Marking keeps a reference a reference. -/
theorem isReference_markNode (opened : List String) (t : Traits) :
    (markNode opened t).isReference = t.isReference := by
  unfold markNode
  split <;> rfl

/-- Marking keeps the targets of a model. -/
theorem targets_mark (opened : List String) (m : Model) :
    (m.mapTraits (markNode opened)).referenceNodes.map Traits.target =
      m.referenceNodes.map Traits.target := by
  rw [Model.mapTraits, Model.referenceNodes_mapNodes _ (isReference_markNode opened), List.map_map]
  refine List.map_congr_left (fun t _ => ?_)
  simp only [Function.comp_apply, markNode]
  split <;> rfl

/-- The references of a resolved draft have the targets of the merged draft, in the same order. -/
theorem targets_resolveBy {digest : String → UInt64} {d out : Draft}
    (h : d.resolveBy digest = .ok out) :
    out.referenceNodes.map Traits.target =
      (d.merged digest).referenceNodes.map Traits.target := by
  obtain ⟨visits, -, -, rfl⟩ := resolveBy_eq_ok_iff.1 h
  have hmodels : (marked visits [] (d.merged digest).models).flatMap
        (fun m => m.referenceNodes.map Traits.target) =
      (d.merged digest).models.flatMap (fun m => m.referenceNodes.map Traits.target) := by
    rw [List.flatMap_def, List.flatMap_def,
      map_marked (fun m => m.referenceNodes.map Traits.target) targets_mark]
  simp only [referenceNodes, List.map_append, List.map_flatMap, hmodels]

/-- A node with what it refers to left out. -/
def withoutTarget (t : Traits) : Traits :=
  if t.isReference then { t with target := "", lazy := false } else t

/-- A draft with what its references refer to left out, which is all that resolution may change
of the models that stay. -/
def withoutTargets (d : Draft) : Draft :=
  d.mapModels (Model.mapTraits withoutTarget)

theorem withoutTarget_retargetNode (f : String → String) (t : Traits) :
    withoutTarget (retargetNode f t) = withoutTarget t := by
  cases ht : t.isReference with
  | true => simp_all [withoutTarget, retargetNode, Traits.isReference]
  | false => simp [withoutTarget, retargetNode, ht]

theorem withoutTarget_markNode (opened : List String) (t : Traits) :
    withoutTarget (markNode opened t) = withoutTarget t := by
  by_cases ht : (t.isReference && opened.contains t.target) = true
  · have href : t.isReference = true := (Bool.and_eq_true _ _ ▸ ht).1
    simp_all [withoutTarget, markNode, Traits.isReference]
  · rw [markNode, if_neg ht]

/-- What a target becomes when only the models `kept` of `models` stay: the pointer of a model that
is left out becomes that of the anonymous model of its shape that stays, and any other target
stays as it is. -/
def Redirected (models kept : List Model) (before after : String) : Prop :=
  (∃ m ∈ models, m ∉ kept ∧ m.pointer = before ∧
    ∃ first ∈ kept, first.anonymous = true ∧ first.shape = m.shape ∧ after = first.pointer) ∨
  ((∀ m ∈ models, m ∉ kept → m.pointer ≠ before) ∧ after = before)

/-- A merge redirects every target. -/
theorem Merge.Sound.redirected {models : List Model} {g : Merge} (h : g.Sound models)
    (hptr : (models.map Model.pointer).Nodup) (target : String) :
    Redirected models g.kept.reverse target (g.retarget target) := by
  by_cases hremoved : ∃ m ∈ models, m ∉ g.kept.reverse ∧ m.pointer = target
  · obtain ⟨m, hm, hk, rfl⟩ := hremoved
    obtain ⟨first, hf, ha, hs, hp⟩ :=
      h.retarget_removed hptr hm (fun hmem => hk (List.mem_reverse.2 hmem))
    exact .inl ⟨m, hm, hk, rfl, first, List.mem_reverse.2 hf, ha, hs, hp⟩
  · have hother : ∀ m ∈ models, m ∉ g.kept.reverse → m.pointer ≠ target :=
      fun m hm hk hp => hremoved ⟨m, hm, hk, hp⟩
    exact .inr ⟨hother, h.retarget_other
      (fun m hm hk => hother m hm (fun hmem => hk (List.mem_reverse.1 hmem)))⟩

/-- Resolution changes nothing but targets and marks of the models that stay. -/
theorem withoutTargets_resolveBy {digest : String → UInt64} {d out : Draft}
    (h : d.resolveBy digest = .ok out) :
    out.withoutTargets =
      { d with models := (Merge.ofModels digest d.models).kept.reverse }.withoutTargets := by
  obtain ⟨visits, -, -, rfl⟩ := resolveBy_eq_ok_iff.1 h
  have hmark : ∀ opened m, Model.mapTraits withoutTarget (m.mapTraits (markNode opened)) =
      Model.mapTraits withoutTarget m := fun opened m => by
    rw [Model.mapTraits_mapTraits]
    exact Model.mapTraits_congr (fun t _ => withoutTarget_markNode opened t)
  have hmodels := map_marked _ hmark visits [] (d.merged digest).models
  calc withoutTargets { d.merged digest with models := marked visits [] (d.merged digest).models }
      = (d.merged digest).withoutTargets := by
        rw [withoutTargets, withoutTargets, mapModels, hmodels]
        rfl
    _ = _ := by
        rw [withoutTargets, merged_eq, mapModels_mapModels]
        congr 1
        funext m
        rw [Function.comp_apply, Model.mapTraits_mapTraits]
        exact Model.mapTraits_congr (fun t _ => withoutTarget_retargetNode _ t)

/-- A resolved draft holds the models that stay when the first anonymous model of each shape wins,
whatever the digest is. Its references go where they went, or to the model that stays for the
removed one they went to, and apart from targets and marks nothing is changed. -/
theorem resolveBy_first_wins (digest : String → UInt64) {d out : Draft}
    (hptr : (d.models.map Model.pointer).Nodup) (h : d.resolveBy digest = .ok out) :
    ∃ kept, FirstWins d.models kept ∧
      out.withoutTargets = { d with models := kept }.withoutTargets ∧
      List.Forall₂ (fun before after => Redirected d.models kept before.target after.target)
        { d with models := kept }.referenceNodes out.referenceNodes := by
  have hsound := Merge.ofModels_sound digest hptr
  refine ⟨_, hsound.firstWins, withoutTargets_resolveBy h, ?_⟩
  have htargets := targets_resolveBy h
  rw [referenceNodes_merged, List.map_map] at htargets
  rw [← List.forall₂_map_right_iff
    (R := fun before after => Redirected d.models _ (Traits.target before) after), htargets,
    List.forall₂_map_right_iff, List.forall₂_same]
  intro t ht
  have href : t.isReference = true := by
    rw [referenceNodes_eq_filter] at ht
    exact (List.mem_filter.1 ht).2
  rw [Function.comp_apply, retargetNode, if_pos href]
  exact hsound.redirected hptr t.target

/-- An anonymous text type at a pointer. -/
def anonymousText (pointer : String) : Model :=
  .leaf { kind := .generic, type := "string", pointer, anonymous := true }

/-- A draft with two anonymous models of one shape, a reference to the second of them and a
reference that closes a cycle. -/
def twins : Draft where
  models :=
    [.node { kind := .interface, pointer := "#/a" }
      [{ name := "next", model := .referenceTo "#/c" "#/a/next" },
       { name := "self", model := .referenceTo "#/a" "#/a/self" }] .absent [],
     anonymousText "#/b", anonymousText "#/c"]

/-- What becomes of `twins`. -/
def twinsResolved : Draft where
  models :=
    [.node { kind := .interface, pointer := "#/a" }
      [{ name := "next", model := .referenceTo "#/b" "#/a/next" },
       { name := "self"
         model := .leaf
          { kind := .reference, target := "#/a", pointer := "#/a/self", lazy := true } }]
      .absent [],
     anonymousText "#/b"]

/-- `twins` resolves as `resolveBy_first_wins` says, also when all digests are equal. -/
theorem resolveBy_first_wins_twins :
    ∃ kept, FirstWins twins.models kept ∧
      twinsResolved.withoutTargets = { twins with models := kept }.withoutTargets ∧
      List.Forall₂ (fun before after => Redirected twins.models kept before.target after.target)
        { twins with models := kept }.referenceNodes twinsResolved.referenceNodes :=
  resolveBy_first_wins (fun _ => 0) (by decide) (by cbv)

end TypedClient.Draft

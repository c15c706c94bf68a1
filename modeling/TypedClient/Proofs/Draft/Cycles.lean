import Mathlib.Logic.Relation
import TypedClient.Proofs.Draft.Order
import TypedClient.Proofs.Draft.Resolution

/-!
# Lazy references and cycles

In a resolved draft the references that are not lazy form no cycle, and each lazy one closes a
cycle of the others. `lazy_closes_cycles` is the main statement.

The search is first told by rules that have no bound, `Follows`; that it always ends is
`exists_follows`. The rules keep two facts of what was visited. A model is finished after the
models it refers to, except for those that were open, so references that are not lazy go back in
the order of finishing. And the models that were open at a visit are a chain of references that
leads to the visited model.
-/

namespace TypedClient.Draft

variable {d : Draft} {closed opened : List String} {visits after : Visits} {refs : List Traits}
  {p q : String}

/-! ## The search as rules -/

/-- What comes of following references in turn while some models are open. The rules look at what
is open and what was visited, and no rule bounds the depth of the search. -/
inductive Follows (d : Draft) :
    List String → Visits → List Traits → Except Unresolved Visits → Prop where
  /-- There is nothing left to follow. -/
  | done {opened : List String} {visits : Visits} : Follows d opened visits [] (.ok visits)
  /-- A reference leads nowhere. -/
  | dangles {opened : List String} {visits : Visits} {ref : Traits} {rest : List Traits}
      (hm : d.modelAt? ref.target = none) :
      Follows d opened visits (ref :: rest) (.error ⟨ref.target, ref.pointer⟩)
  /-- A reference to a model that was visited, or is open, is not followed. -/
  | passes {opened : List String} {visits : Visits} {ref : Traits} {rest : List Traits} {m : Model}
      {outcome : Except Unresolved Visits} (hm : d.modelAt? ref.target = some m)
      (hseen : visits.contains ref.target = true ∨ ref.target ∈ opened)
      (hrest : Follows d opened visits rest outcome) :
      Follows d opened visits (ref :: rest) outcome
  /-- Following the references of a new model fails. -/
  | fails {opened : List String} {visits : Visits} {ref : Traits} {rest : List Traits} {m : Model}
      {e : Unresolved} (hm : d.modelAt? ref.target = some m)
      (hnew : visits.contains ref.target = false) (hclosed : ref.target ∉ opened)
      (hbelow : Follows d (ref.target :: opened) visits m.referenceNodes (.error e)) :
      Follows d opened visits (ref :: rest) (.error e)
  /-- A new model is open while its references are followed, and visited from then on. -/
  | enters {opened : List String} {visits below : Visits} {ref : Traits} {rest : List Traits}
      {m : Model} {outcome : Except Unresolved Visits} (hm : d.modelAt? ref.target = some m)
      (hnew : visits.contains ref.target = false) (hclosed : ref.target ∉ opened)
      (hbelow : Follows d (ref.target :: opened) visits m.referenceNodes (.ok below))
      (hrest : Follows d opened ((ref.target, ref.target :: opened) :: below) rest outcome) :
      Follows d opened visits (ref :: rest) outcome

/-- The pointers of a draft are shared out between those that are closed and those that are
open. -/
structure Shares (d : Draft) (closed opened : List String) : Prop where
  /-- No pointer is closed twice. -/
  nodup : closed.Nodup
  /-- No pointer is closed and open. -/
  apart : ∀ p ∈ closed, p ∉ opened
  /-- Every model has a share. -/
  covers : ∀ m ∈ d.models, m.pointer ∈ closed ∨ m.pointer ∈ opened

/-- Whatever is open, the other pointers can be closed. -/
theorem shares_unopened (d : Draft) (opened : List String) :
    d.Shares ((d.models.map Model.pointer).eraseDups.filter (fun p => !opened.contains p))
      opened where
  nodup := (nodup_eraseDups _).filter _
  apart := by simp
  covers := by
    intro m hm
    by_cases hopen : m.pointer ∈ opened
    · exact .inr hopen
    · refine .inl (List.mem_filter.2 ⟨?_, by simpa using hopen⟩)
      exact List.mem_eraseDups.2 (List.mem_map_of_mem hm)

/-- A pointer can be opened. -/
theorem Shares.enter (h : d.Shares closed opened) (p : String) :
    d.Shares (closed.erase p) (p :: opened) where
  nodup := h.nodup.erase p
  apart := by
    intro q hq
    obtain ⟨hne, hmem⟩ := h.nodup.mem_erase_iff.1 hq
    exact List.not_mem_cons_of_ne_of_not_mem hne (h.apart q hmem)
  covers := by
    intro m hm
    rcases h.covers m hm with hclosed | hopen
    · by_cases heq : m.pointer = p
      · exact .inr (heq ▸ List.mem_cons_self)
      · exact .inl ((List.mem_erase_of_ne heq).2 hclosed)
    · exact .inr (List.mem_cons_of_mem p hopen)

/-- The search goes by the rules. -/
theorem follows_follow (h : d.Shares closed opened) (visits : Visits) (refs : List Traits) :
    d.Follows opened visits refs (d.follow closed opened visits refs) := by
  fun_induction follow d closed opened visits refs with
  | case1 => exact .done
  | case2 closed opened visits ref rest hm => exact .dangles hm
  | case3 closed opened visits ref rest m hm hseen ih => exact .passes hm (.inl hseen) (ih h)
  | case4 closed opened visits ref rest m hm hnew hclosed e hbelow ih =>
      have hfollow := ih (h.enter _)
      rw [hbelow] at hfollow
      exact .fails hm (eq_false_of_ne_true hnew) (h.apart _ hclosed) hfollow
  | case5 closed opened visits ref rest m hm hnew hclosed below hbelow ihbelow ihrest =>
      have hfollow := ihbelow (h.enter _)
      rw [hbelow] at hfollow
      exact .enters hm (eq_false_of_ne_true hnew) (h.apart _ hclosed) hfollow (ihrest h)
  | case6 closed opened visits ref rest m hm hnew hopen ih =>
      -- what is not closed is open, because it is the pointer of a model
      obtain ⟨hmem, hp⟩ := modelAt?_eq_some hm
      have hshare := h.covers m hmem
      rw [hp] at hshare
      exact .passes hm (.inr (hshare.resolve_left hopen)) (ih h)

/-- The search ends on every draft, whatever was visited and whatever is open. -/
theorem exists_follows (d : Draft) (opened : List String) (visits : Visits) (refs : List Traits) :
    ∃ outcome, d.Follows opened visits refs outcome :=
  ⟨_, follows_follow (d.shares_unopened opened) visits refs⟩

/-! ## What the rules keep -/

/-- Whether the model at a pointer refers to a target. -/
def RefersTo (d : Draft) (p q : String) : Prop :=
  ∃ m, d.modelAt? p = some m ∧ ∃ t ∈ m.referenceNodes, t.target = q

/-- Models are finished once, and after all they refer to that was not open. -/
inductive Finished (d : Draft) : Visits → Prop where
  /-- Nothing is finished at first. -/
  | nil : Finished d []
  /-- A model is finished when what it refers to is open or finished. -/
  | cons {p : String} {opened : List String} {visits : Visits} (h : Finished d visits)
      (hnew : visits.contains p = false)
      (hrefs : ∀ q, d.RefersTo p q → q ∈ opened ∨ visits.contains q = true) :
      Finished d ((p, opened) :: visits)

/-- What is known of the visits of a search while some models are open. -/
structure Searched (d : Draft) (opened : List String) (visits : Visits) : Prop where
  /-- The visited models are finished. -/
  finished : d.Finished visits
  /-- An open model is not finished. -/
  unfinished : ∀ p ∈ opened, visits.contains p = false
  /-- A visited model was entered from the innermost model that was open then, which was visited
  later or still is open. -/
  entered : ∀ p stack, (p, stack) ∈ visits → ∃ above, stack = p :: above ∧ p ∉ above ∧
    ∀ q ∈ above.head?, d.RefersTo q p ∧ ((q, above) ∈ visits ∨ above <:+ opened)

/-- Nothing is visited before the search. -/
theorem Searched.nil (d : Draft) : d.Searched [] [] where
  finished := .nil
  unfinished := by simp
  entered := by simp

/-- A model that was not visited can be opened. -/
theorem Searched.enter (h : d.Searched opened visits) (hnew : visits.contains p = false) :
    d.Searched (p :: opened) visits where
  finished := h.finished
  unfinished := List.forall_mem_cons.2 ⟨hnew, h.unfinished⟩
  entered := by
    intro q stack hq
    obtain ⟨above, hstack, hnot, hhead⟩ := h.entered q stack hq
    refine ⟨above, hstack, hnot, fun r hr => ?_⟩
    obtain ⟨hrefers, hparent⟩ := hhead r hr
    exact ⟨hrefers, hparent.imp_right (fun hsuffix => hsuffix.trans (List.suffix_cons p opened))⟩

/-- An open model can be finished when all it refers to is open or finished. -/
theorem Searched.leave (h : d.Searched (p :: opened) visits) (hclosed : p ∉ opened)
    (hparent : ∀ q ∈ opened.head?, d.RefersTo q p)
    (hrefs : ∀ q, d.RefersTo p q → q ∈ p :: opened ∨ visits.contains q = true) :
    d.Searched opened ((p, p :: opened) :: visits) where
  finished := .cons h.finished (h.unfinished p List.mem_cons_self) hrefs
  unfinished := by
    intro q hq
    have hne : q ≠ p := fun heq => hclosed (heq ▸ hq)
    rw [Visits.contains_cons, h.unfinished q (List.mem_cons_of_mem p hq), decide_eq_false hne]
    rfl
  entered := by
    intro q stack hq
    rcases List.mem_cons.1 hq with heq | hq
    · obtain ⟨rfl, rfl⟩ := Prod.mk.inj heq
      exact ⟨opened, rfl, hclosed, fun r hr => ⟨hparent r hr, .inr List.suffix_rfl⟩⟩
    · obtain ⟨above, hstack, hnot, hhead⟩ := h.entered q stack hq
      refine ⟨above, hstack, hnot, fun r hr => ?_⟩
      obtain ⟨hrefers, hmem | hsuffix⟩ := hhead r hr
      · exact ⟨hrefers, .inl (List.mem_cons_of_mem _ hmem)⟩
      · -- the model that was entered from is the one that is finished now, or open further out
        rcases List.suffix_cons_iff.1 hsuffix with rfl | hsuffix
        · obtain rfl : p = r := by simpa using hr
          exact ⟨hrefers, .inl List.mem_cons_self⟩
        · exact ⟨hrefers, .inr hsuffix⟩

/-- The references of the model at a pointer are what it refers to. -/
theorem refersTo_of_mem {m : Model} (hm : d.modelAt? p = some m) {t : Traits}
    (ht : t ∈ m.referenceNodes) : d.RefersTo p t.target :=
  ⟨m, hm, t, ht, rfl⟩

/-- What holds of the targets of a model's references holds of all it refers to. -/
theorem forall_refersTo {m : Model} (hm : d.modelAt? p = some m) {P : String → Prop}
    (h : ∀ t ∈ m.referenceNodes, P t.target) : ∀ q, d.RefersTo p q → P q := by
  rintro q ⟨n, hn, t, ht, rfl⟩
  obtain rfl : m = n := Option.some.inj (hm.symm.trans hn)
  exact h t ht

/-- Following the references of the innermost open model keeps what is known, and each of them
ends at a model that is open or visited. -/
theorem Follows.searched {outcome : Except Unresolved Visits}
    (h : d.Follows opened visits refs outcome) (hv : d.Searched opened visits)
    (hparent : ∀ q ∈ opened.head?, ∀ t ∈ refs, d.RefersTo q t.target)
    (hafter : outcome = .ok after) :
    d.Searched opened after ∧ (∀ p, visits.contains p = true → after.contains p = true) ∧
      ∀ t ∈ refs, t.target ∈ opened ∨ after.contains t.target = true := by
  induction h generalizing after with
  | done =>
      cases hafter
      exact ⟨hv, fun _ hp => hp, by simp⟩
  | dangles => cases hafter
  | fails => cases hafter
  | passes hm hseen _ ih =>
      obtain ⟨hsearched, hmono, hrest⟩ :=
        ih hv (fun q hq t ht => hparent q hq t (List.mem_cons_of_mem _ ht)) hafter
      exact ⟨hsearched, hmono,
        List.forall_mem_cons.2 ⟨(hseen.imp_left (hmono _)).symm, hrest⟩⟩
  | @enters opened visits below ref rest m outcome hm hnew hclosed _ _ ihbelow ihrest =>
      obtain ⟨hbelow, hkeep, hrefs⟩ := ihbelow (hv.enter hnew)
        (by
          intro q hq t ht
          obtain rfl : ref.target = q := by simpa using hq
          exact refersTo_of_mem hm ht) rfl
      have hleave := hbelow.leave hclosed
        (fun q hq => hparent q hq ref List.mem_cons_self) (forall_refersTo hm hrefs)
      obtain ⟨hsearched, hmono, hrest⟩ :=
        ihrest hleave (fun q hq t ht => hparent q hq t (List.mem_cons_of_mem _ ht)) hafter
      refine ⟨hsearched, fun p hp => hmono p ?_,
        List.forall_mem_cons.2 ⟨.inr (hmono _ ?_), hrest⟩⟩
      · rw [Visits.contains_cons, hkeep p hp, Bool.or_true]
      · rw [Visits.contains_cons, decide_eq_true rfl, Bool.true_or]

/-- A visit keeps what is known between searches. -/
theorem visit_searched (hptr : (d.models.map Model.pointer).Nodup) {m : Model}
    (hm : m ∈ d.models) (h : d.visit visits m = .ok after) (hv : d.Searched [] visits) :
    d.Searched [] after := by
  by_cases hseen : visits.contains m.pointer = true
  · rw [visit, if_pos hseen] at h
    cases h
    exact hv
  · have hfound := modelAt?_pointer hptr hm
    have hshares : d.Shares ((d.models.map Model.pointer).eraseDups.erase m.pointer)
        [m.pointer] := by
      have hall := d.shares_unopened []
      simp only [List.contains_nil, Bool.not_false, List.filter_true] at hall
      exact hall.enter m.pointer
    have hfollows := follows_follow hshares visits m.referenceNodes
    rw [visit_new hseen] at h
    cases hbelow : d.follow ((d.models.map Model.pointer).eraseDups.erase m.pointer)
        [m.pointer] visits m.referenceNodes with
    | error e => rw [hbelow] at h; cases h
    | ok below =>
        rw [hbelow] at h hfollows
        cases h
        obtain ⟨hsearched, -, hrefs⟩ := hfollows.searched
          (hv.enter (eq_false_of_ne_true hseen))
          (by
            intro q hq t ht
            obtain rfl : m.pointer = q := by simpa using hq
            exact refersTo_of_mem hfound ht) rfl
        exact hsearched.leave List.not_mem_nil (by simp) (forall_refersTo hfound hrefs)

/-- Visits in turn keep what is known between searches. -/
theorem visits_searched (hptr : (d.models.map Model.pointer).Nodup) {models : List Model}
    (hsub : models ⊆ d.models) (h : models.foldlM d.visit visits = .ok after)
    (hv : d.Searched [] visits) : d.Searched [] after := by
  induction models generalizing visits with
  | nil =>
      cases h
      exact hv
  | cons m models ih =>
      rw [List.foldlM_cons] at h
      cases hvisit : d.visit visits m with
      | error e => rw [hvisit] at h; cases h
      | ok next =>
          rw [hvisit] at h
          exact ih (fun n hn => hsub (List.mem_cons_of_mem m hn)) h
            (visit_searched hptr (hsub List.mem_cons_self) hvisit hv)

/-! ## Cycles -/

/-- A visited model has an entry. -/
theorem Visits.mem_of_contains (h : visits.contains p = true) :
    (p, visits.openAt p) ∈ visits := by
  obtain ⟨stack, hstack⟩ := Option.isSome_iff_exists.1 h
  obtain ⟨before, after, rfl, -⟩ := List.lookup_eq_some_iff.1 hstack
  rw [Visits.openAt, hstack]
  exact List.mem_append_right _ List.mem_cons_self

/-- A visited model has only one entry. -/
theorem Finished.openAt_of_mem (h : d.Finished visits) (hp : (p, opened) ∈ visits) :
    visits.openAt p = opened := by
  induction h with
  | nil => exact absurd hp List.not_mem_nil
  | @cons q stack visits _ hnew _ ih =>
      rcases List.mem_cons.1 hp with heq | hp
      · obtain ⟨rfl, rfl⟩ := Prod.mk.inj heq
        simp [Visits.openAt]
      · have hsome : visits.contains p = true :=
          List.lookup_isSome_iff.2 ⟨(p, opened), hp, by simp⟩
        have hne : (p == q) = false := by
          refine beq_false_of_ne (fun heq => ?_)
          rw [heq, hnew] at hsome
          exact absurd hsome (by simp)
        rw [Visits.openAt, List.lookup_cons, hne]
        exact ih hp

/-- A reference that is not lazy: its target was not open at the visit of its model. -/
def Eager (d : Draft) (visits : Visits) (p q : String) : Prop :=
  d.RefersTo p q ∧ q ∉ visits.openAt p

/-- References that are not lazy go back in the order of finishing, so no chain of them goes on
for ever. -/
theorem Finished.acc_eager {all : Visits} (h : d.Finished visits)
    (hall : ∀ p stack, (p, stack) ∈ visits → all.openAt p = stack)
    (hp : visits.contains p = true) : Acc (Function.swap (d.Eager all)) p := by
  induction h generalizing p with
  | nil => simp [Visits.contains] at hp
  | @cons q stack visits _ _ hrefs ih =>
      have hrest := fun r hr => @ih r (fun s o hs => hall s o (List.mem_cons_of_mem _ hs)) hr
      rw [Visits.contains_cons, Bool.or_eq_true, decide_eq_true_iff] at hp
      rcases hp with rfl | hp
      · refine .intro p (fun r hr => hrest r ?_)
        obtain ⟨hrefers, hopen⟩ := hr
        rw [hall p stack List.mem_cons_self] at hopen
        exact (hrefs r hrefers).resolve_left hopen
      · exact hrest p hp

/-- References that are not lazy lead from no visited model back to it. -/
theorem Finished.not_cycle (h : d.Finished visits) (hp : visits.contains p = true) :
    ¬ Relation.TransGen (d.Eager visits) p p := by
  have hself : ∀ q, Acc (Relation.TransGen (Function.swap (d.Eager visits))) q →
      ¬ Relation.TransGen (Function.swap (d.Eager visits)) q q := by
    intro q hq
    induction hq with
    | intro q _ ih => exact fun hcycle => ih q hcycle hcycle
  have hacc := h.acc_eager (fun _ _ hmem => h.openAt_of_mem hmem) hp
  exact fun hcycle => hself p hacc.transGen (Relation.transGen_swap.2 hcycle)

/-- References that are not lazy lead from every model that was open at a visit to the visited
model. -/
theorem Searched.reaches (h : d.Searched [] visits) (hp : (p, opened) ∈ visits) (hq : q ∈ opened) :
    Relation.ReflTransGen (d.Eager visits) q p := by
  induction opened generalizing p with
  | nil => exact absurd hq List.not_mem_nil
  | cons r above ih =>
      obtain ⟨rest, hstack, hnot, hhead⟩ := h.entered p _ hp
      obtain ⟨rfl, rfl⟩ := List.cons.inj hstack
      rcases List.mem_cons.1 hq with rfl | hq
      · exact .refl
      · cases above with
        | nil => exact absurd hq List.not_mem_nil
        | cons s above =>
            obtain ⟨hrefers, hmem | hsuffix⟩ := hhead s (by simp)
            · refine (ih hmem hq).tail ⟨hrefers, ?_⟩
              rwa [h.finished.openAt_of_mem hmem]
            · exact absurd (List.suffix_nil.1 hsuffix) (by simp)

/-- Two models, told by their pointers, of which one refers to the other by a reference that is
lazy or not. -/
def Edge (d : Draft) (lazy : Bool) (p q : String) : Prop :=
  ∃ m ∈ d.models, ∃ n ∈ d.models, m.pointer = p ∧ n.pointer = q ∧
    ∃ t ∈ m.referenceNodes, t.target = q ∧ t.lazy = lazy

/-- At distinct pointers every model is marked. -/
theorem marked_eq_map (visits : Visits) {seen : List String} {models : List Model}
    (hptr : (models.map Model.pointer).Nodup)
    (hseen : ∀ m ∈ models, m.pointer ∉ seen) :
    marked visits seen models =
      models.map (fun m => m.mapTraits (markNode (visits.openAt m.pointer))) := by
  induction models generalizing seen with
  | nil => rfl
  | cons m models ih =>
      rw [List.map_cons, List.nodup_cons] at hptr
      have hnew : ¬ seen.contains m.pointer = true := by
        rw [List.contains_iff_mem]
        exact hseen m List.mem_cons_self
      rw [marked, if_neg hnew, List.map_cons, ih hptr.2]
      intro n hn hmem
      rcases List.mem_cons.1 hmem with heq | hmem
      · exact hptr.1 (List.mem_map.2 ⟨n, hn, heq⟩)
      · exact hseen n (List.mem_cons_of_mem m hn) hmem

/-- Marking keeps where a model stands. -/
theorem pointer_mark (opened : List String) (m : Model) :
    (m.mapTraits (markNode opened)).pointer = m.pointer := by
  refine Model.traits_mapNodes _ Traits.pointer (fun t => ?_) m
  unfold markNode
  split <;> rfl

/-- Marking changes the references of a model where they stand. -/
theorem referenceNodes_mark (opened : List String) (m : Model) :
    (m.mapTraits (markNode opened)).referenceNodes = m.referenceNodes.map (markNode opened) :=
  Model.referenceNodes_mapNodes _ (isReference_markNode opened) m

/-- Marking keeps what a node refers to. -/
theorem target_markNode (opened : List String) (t : Traits) :
    (markNode opened t).target = t.target := by
  unfold markNode
  split <;> rfl

/-- A reference that is not lazy becomes lazy when it refers to an open model. -/
theorem lazy_markNode {t : Traits} (href : t.isReference = true) (hlazy : t.lazy = false) :
    (markNode opened t).lazy = decide (t.target ∈ opened) := by
  by_cases hmem : t.target ∈ opened
  · simp [markNode, href, hmem]
  · simp [markNode, hlazy, hmem]

/-- A model of the marked draft refers to a model as it did, by a lazy reference exactly when that
was open. -/
theorem edge_marked_iff (hptr : (d.models.map Model.pointer).Nodup)
    (hlazy : ∀ m ∈ d.models, ∀ t ∈ m.referenceNodes, t.lazy = false) {lazy : Bool} :
    Edge { d with models := marked visits [] d.models } lazy p q ↔
      d.RefersTo p q ∧ d.Resolves q ∧ lazy = decide (q ∈ visits.openAt p) := by
  have hmark : ∀ m ∈ d.models, ∀ t ∈ m.referenceNodes,
      (markNode (visits.openAt m.pointer) t).lazy =
        decide (t.target ∈ visits.openAt m.pointer) := by
    intro m hm t ht
    exact lazy_markNode (List.mem_filter.1 ht).2 (hlazy m hm t ht)
  simp only [Edge, marked_eq_map visits hptr (by simp : ∀ m ∈ d.models, m.pointer ∉ []),
    List.mem_map, exists_exists_and_eq_and, pointer_mark, referenceNodes_mark, target_markNode]
  constructor
  · rintro ⟨m, hm, n, hn, rfl, hq, t, ht, rfl, rfl⟩
    exact ⟨refersTo_of_mem (modelAt?_pointer hptr hm) ht, ⟨n, hn, hq⟩, hmark m hm t ht⟩
  · rintro ⟨⟨m, hm, t, ht, rfl⟩, ⟨n, hn, hq⟩, rfl⟩
    obtain ⟨hmem, rfl⟩ := modelAt?_eq_some hm
    exact ⟨m, hmem, n, hn, rfl, hq, t, ht, rfl, hmark m hmem t ht⟩

/-- Merging makes no reference lazy. -/
theorem lazy_merged (digest : String → UInt64) (hptr : (d.models.map Model.pointer).Nodup)
    (hlazy : ∀ m ∈ d.models, ∀ t ∈ m.referenceNodes, t.lazy = false) :
    ∀ m ∈ (d.merged digest).models, ∀ t ∈ m.referenceNodes, t.lazy = false := by
  intro m hm t ht
  rw [merged_eq, models_mapModels] at hm
  obtain ⟨n, hn, rfl⟩ := List.mem_map.1 hm
  rw [Model.mapTraits, Model.referenceNodes_mapNodes _ (isReference_retargetNode _)] at ht
  obtain ⟨u, hu, rfl⟩ := List.mem_map.1 ht
  have hfalse := hlazy n ((Merge.ofModels_sound digest hptr).firstWins.sublist.subset hn) u hu
  unfold retargetNode
  split <;> exact hfalse

/-- In a resolved draft the references that are not lazy form no cycle, and a lazy reference leads
back: references that are not lazy lead from its target to its model. The search that marks them
ends on every draft, whatever was visited and whatever is open. -/
theorem lazy_closes_cycles (digest : String → UInt64) {out : Draft}
    (hptr : (d.models.map Model.pointer).Nodup)
    (hlazy : ∀ m ∈ d.models, ∀ t ∈ m.referenceNodes, t.lazy = false)
    (h : d.resolveBy digest = .ok out) :
    (∀ p, ¬ Relation.TransGen (out.Edge false) p p) ∧
      (∀ p q, out.Edge true p q → Relation.ReflTransGen (out.Edge false) q p) ∧
      ∀ (g : Draft) opened visits refs, ∃ outcome, g.Follows opened visits refs outcome := by
  have hresolves := resolves_of_resolveBy_eq_ok hptr h
  obtain ⟨visits, hvisits, -, rfl⟩ := resolveBy_eq_ok_iff.1 h
  have hmerged := pointers_merged_nodup digest hptr
  have hlazy := lazy_merged digest hptr hlazy
  have hsearched := visits_searched hmerged (List.Subset.refl _) hvisits (Searched.nil _)
  obtain ⟨-, hall, -⟩ := visits_ok hmerged (List.Subset.refl _) hvisits (Visits.Checked.nil _)
  have hvisited : ∀ p q, (d.merged digest).RefersTo p q → visits.contains p = true := by
    rintro p q ⟨m, hm, -⟩
    obtain ⟨hmem, rfl⟩ := modelAt?_eq_some hm
    exact hall m hmem
  -- the references of the resolved draft that are not lazy are those the search followed or passed
  have heager : Edge { d.merged digest with models := marked visits [] (d.merged digest).models }
      false = (d.merged digest).Eager visits := by
    funext p q
    refine propext ((edge_marked_iff hmerged hlazy).trans ⟨?_, ?_⟩)
    · rintro ⟨hrefers, -, hopen⟩
      exact ⟨hrefers, of_decide_eq_false hopen.symm⟩
    · rintro ⟨⟨m, hm, t, ht, rfl⟩, hopen⟩
      refine ⟨⟨m, hm, t, ht, rfl⟩, hresolves t ?_, (decide_eq_false hopen).symm⟩
      exact List.mem_append_left _ (List.mem_flatMap.2 ⟨m, (modelAt?_eq_some hm).1, ht⟩)
  rw [heager]
  refine ⟨fun p hcycle => ?_, fun p q hedge => ?_, exists_follows⟩
  · obtain ⟨q, hstep, -⟩ := Relation.TransGen.head'_iff.1 hcycle
    exact hsearched.finished.not_cycle (hvisited p q hstep.1) hcycle
  · obtain ⟨hrefers, -, hopen⟩ := (edge_marked_iff hmerged hlazy).1 hedge
    exact hsearched.reaches (Visits.mem_of_contains (hvisited p q hrefers))
      (of_decide_eq_true hopen.symm)

/-- An interface whose properties are references to targets. -/
def referring (pointer : String) (targets : List Traits) : Model :=
  .node { kind := .interface, pointer }
    (targets.map (fun t => { name := t.target, model := .leaf t })) .absent []

/-- A reference, lazy or not. -/
def referenceAs (target : String) (lazy : Bool) : Traits :=
  { kind := .reference, target, lazy }

/-- A draft of models that refer in a circle, twice to one model and once to itself, and of a model
that refers into the circle. -/
def knot : Draft where
  models :=
    [referring "#/a" [referenceAs "#/b" false],
     referring "#/b" [referenceAs "#/c" false, referenceAs "#/c" false, referenceAs "#/b" false],
     referring "#/c" [referenceAs "#/a" false],
     referring "#/d" [referenceAs "#/c" false]]

/-- What becomes of `knot`. -/
def knotResolved : Draft where
  models :=
    [referring "#/a" [referenceAs "#/b" false],
     referring "#/b" [referenceAs "#/c" false, referenceAs "#/c" false, referenceAs "#/b" true],
     referring "#/c" [referenceAs "#/a" true],
     referring "#/d" [referenceAs "#/c" false]]

/-- `knot` resolves with two lazy references, and both close cycles as `lazy_closes_cycles` says. -/
theorem lazy_closes_cycles_knot :
    (∀ p, ¬ Relation.TransGen (knotResolved.Edge false) p p) ∧
      (∀ p q, knotResolved.Edge true p q →
        Relation.ReflTransGen (knotResolved.Edge false) q p) ∧
      ∀ (g : Draft) opened visits refs, ∃ outcome, g.Follows opened visits refs outcome :=
  lazy_closes_cycles (d := knot) (fun _ => 0) (by decide) (by decide) (by cbv)

end TypedClient.Draft

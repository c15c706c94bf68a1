import Mathlib.Data.List.Pairwise
import Mathlib.Data.List.Nodup
import TypedClient.Draft.Merge
import TypedClient.Proofs.Draft.Nodes

/-!
# Merging keeps the first model of each shape

`FirstWins models kept` says, without any table, which models of a list stay when anonymous models
of one shape become one. `Merge.ofModels_sound` shows that merging with digests computes just that
choice, whatever the digest is, and that it records for each removed model the pointer of the one
model that stays for it.
-/

namespace TypedClient.Draft

/-- `kept` holds the models that stay of `models`: all the named ones, and of the anonymous ones
the first of each shape. -/
structure FirstWins (models kept : List Model) : Prop where
  /-- Models are left out, and the others keep their order. -/
  sublist : kept.Sublist models
  /-- A named model stays. -/
  named : ∀ m ∈ models, m.anonymous = false → m ∈ kept
  /-- No two anonymous models that stay have one shape. -/
  distinct : kept.Pairwise
    (fun a b => a.anonymous = true → b.anonymous = true → a.shape ≠ b.shape)
  /-- A model that is left out comes after the only anonymous one of its shape that stays. -/
  represented : ∀ m ∈ models, m ∉ kept →
    ∃ first ∈ kept, first.anonymous = true ∧ first.shape = m.shape ∧ [first, m].Sublist models ∧
      ∀ other ∈ kept, other.anonymous = true → other.shape = m.shape → other = first

namespace FirstWins

variable {models kept : List Model} {m : Model}

/-- Of no models none stay. -/
theorem nil : FirstWins [] [] where
  sublist := .slnil
  named := fun _ h => absurd h List.not_mem_nil
  distinct := .nil
  represented := fun _ h => absurd h List.not_mem_nil

/-- Only an anonymous model is left out. -/
theorem anonymous_of_not_mem (h : FirstWins models kept) (hm : m ∈ models) (hk : m ∉ kept) :
    m.anonymous = true := by
  cases ha : m.anonymous with
  | true => rfl
  | false => exact absurd (h.named m hm ha) hk

/-- At most one anonymous model of a shape stays. -/
theorem eq_of_shape_eq (h : FirstWins models kept) {a b : Model} (ha : a ∈ kept) (hb : b ∈ kept)
    (haa : a.anonymous = true) (hba : b.anonymous = true) (hs : a.shape = b.shape) : a = b := by
  have : Std.Symm (fun a b : Model =>
      a.anonymous = true → b.anonymous = true → a.shape ≠ b.shape) :=
    ⟨fun _ _ hab hb ha he => hab ha hb he.symm⟩
  by_contra hne
  exact h.distinct.forall ha hb hne haa hba hs

/-- A further model of a new shape stays, and so does a named one. -/
theorem keep (h : FirstWins models kept)
    (hnew : m.anonymous = true → ∀ k ∈ kept, k.anonymous = true → k.shape ≠ m.shape) :
    FirstWins (models ++ [m]) (kept ++ [m]) where
  sublist := h.sublist.append (.refl [m])
  named := by
    intro n hn ha
    rcases List.mem_append.1 hn with hn | hn
    · exact List.mem_append_left _ (h.named n hn ha)
    · exact List.mem_append_right _ hn
  distinct := by
    refine List.pairwise_append.2 ⟨h.distinct, List.pairwise_singleton _ _, ?_⟩
    intro k hk n hn hka hna
    obtain rfl := List.mem_singleton.1 hn
    exact hnew hna k hk hka
  represented := by
    intro n hn hk
    rcases List.mem_append.1 hn with hn | hn
    · obtain ⟨first, hf, ha, hs, hsub, honly⟩ :=
        h.represented n hn (fun hmem => hk (List.mem_append_left _ hmem))
      refine ⟨first, List.mem_append_left _ hf, ha, hs,
        hsub.trans (List.sublist_append_left models [m]), ?_⟩
      intro other hother hoa hos
      rcases List.mem_append.1 hother with hother | hother
      · exact honly other hother hoa hos
      · obtain rfl := List.mem_singleton.1 hother
        exact absurd (hs.trans hos.symm) (hnew hoa first hf ha)
    · exact absurd (List.mem_append_right _ hn) hk

/-- A further anonymous model of a shape that has a model is left out. -/
theorem drop (h : FirstWins models kept) (hm : m.anonymous = true) {first : Model}
    (hf : first ∈ kept) (ha : first.anonymous = true) (hs : first.shape = m.shape) :
    FirstWins (models ++ [m]) kept where
  sublist := h.sublist.trans (List.sublist_append_left models [m])
  named := by
    intro n hn hna
    rcases List.mem_append.1 hn with hn | hn
    · exact h.named n hn hna
    · obtain rfl := List.mem_singleton.1 hn
      rw [hm] at hna
      exact absurd hna (by simp)
  distinct := h.distinct
  represented := by
    intro n hn hk
    rcases List.mem_append.1 hn with hn | hn
    · obtain ⟨other, hmem, hoa, hos, hsub, honly⟩ := h.represented n hn hk
      exact ⟨other, hmem, hoa, hos, hsub.trans (List.sublist_append_left models [m]), honly⟩
    · obtain rfl := List.mem_singleton.1 hn
      exact ⟨first, hf, ha, hs,
        (List.singleton_sublist.2 (h.sublist.subset hf)).append (.refl [n]),
        fun other ho hoa hos => h.eq_of_shape_eq ho hf hoa ha (hos.trans hs.symm)⟩

end FirstWins

namespace Merge

variable {digest : String → UInt64} {g : Merge} {models : List Model} {m : Model}

/-- A representative is a model that stays, is anonymous and has the shape looked for. -/
theorem representative?_eq_some {shape : String} {first : Model}
    (h : g.representative? digest shape = some first) :
    first ∈ g.kept ∧ first.anonymous = true ∧ first.shape = shape := by
  have hmem := List.mem_of_find?_eq_some h
  have hshape := List.find?_some h
  simp only [List.mem_filter, List.mem_reverse, Bool.and_eq_true] at hmem
  exact ⟨hmem.1, hmem.2.1, by simpa using hshape⟩

/-- Without a representative no anonymous model that stays has the shape. Equal shapes have equal
digests, so looking only among those of one digest misses nothing. -/
theorem representative?_eq_none {shape : String} (h : g.representative? digest shape = none) :
    ∀ k ∈ g.kept, k.anonymous = true → k.shape ≠ shape := by
  intro k hk ha hs
  have hfound := List.find?_eq_none.1 h k
  rw [List.mem_filter, List.mem_reverse, ha, hs] at hfound
  exact hfound ⟨hk, by simp⟩ (by simp)

/-- What a merge has recorded after the models of a list. -/
structure Sound (models : List Model) (g : Merge) : Prop where
  /-- The right models stay. -/
  firstWins : FirstWins models g.kept.reverse
  /-- A replacement leads from a model that is left out to one of its shape that stays. -/
  replaced : ∀ e ∈ g.replaced, ∃ m ∈ models, m ∉ g.kept ∧ m.pointer = e.1 ∧
    ∃ first ∈ g.kept, first.anonymous = true ∧ first.shape = m.shape ∧ first.pointer = e.2
  /-- Every model that is left out has a replacement. -/
  complete : ∀ m ∈ models, m ∉ g.kept → m.pointer ∈ g.replaced.map Prod.fst

/-- Nothing is recorded before the first model. -/
theorem Sound.empty : Sound [] {} where
  firstWins := .nil
  replaced := fun _ h => absurd h List.not_mem_nil
  complete := fun _ h => absurd h List.not_mem_nil

/-- A model that is kept, as a step of the merge. The pointer is new, so no model that was left out
before comes back. -/
theorem Sound.keep (h : Sound models g) (hptr : m.pointer ∉ models.map Model.pointer)
    (hnew : m.anonymous = true → ∀ k ∈ g.kept, k.anonymous = true → k.shape ≠ m.shape) :
    Sound (models ++ [m]) { g with kept := m :: g.kept } where
  firstWins := by
    rw [List.reverse_cons]
    exact h.firstWins.keep (fun ha k hk => hnew ha k (List.mem_reverse.1 hk))
  replaced := by
    intro e he
    obtain ⟨n, hn, hk, hp, first, hf, hrest⟩ := h.replaced e he
    have hne : n ≠ m := fun heq => hptr (heq ▸ List.mem_map_of_mem hn)
    exact ⟨n, List.mem_append_left _ hn, List.not_mem_cons_of_ne_of_not_mem hne hk, hp, first,
      List.mem_cons_of_mem m hf, hrest⟩
  complete := by
    intro n hn hk
    rcases List.mem_append.1 hn with hn | hn
    · exact h.complete n hn (List.not_mem_of_not_mem_cons hk)
    · exact absurd (List.mem_singleton.1 hn) (List.ne_of_not_mem_cons hk)

/-- A model that is replaced, as a step of the merge. -/
theorem Sound.replace (h : Sound models g) (hptr : m.pointer ∉ models.map Model.pointer)
    (hm : m.anonymous = true) {first : Model} (hf : first ∈ g.kept)
    (ha : first.anonymous = true) (hs : first.shape = m.shape) :
    Sound (models ++ [m]) { g with replaced := (m.pointer, first.pointer) :: g.replaced } where
  firstWins := h.firstWins.drop hm (List.mem_reverse.2 hf) ha hs
  replaced := by
    intro e he
    rcases List.mem_cons.1 he with rfl | he
    · have hk : m ∉ g.kept := fun hmem => hptr
        (List.mem_map_of_mem (h.firstWins.sublist.subset (List.mem_reverse.2 hmem)))
      exact ⟨m, List.mem_append_right _ (List.mem_singleton_self m), hk, rfl, first, hf, ha, hs,
        rfl⟩
    · obtain ⟨n, hn, hrest⟩ := h.replaced e he
      exact ⟨n, List.mem_append_left _ hn, hrest⟩
  complete := by
    intro n hn hk
    rcases List.mem_append.1 hn with hn | hn
    · exact List.mem_cons_of_mem _ (h.complete n hn hk)
    · obtain rfl := List.mem_singleton.1 hn
      exact List.mem_cons_self

/-- One step of the merge keeps the record right. -/
theorem Sound.add (h : Sound models g) (hptr : m.pointer ∉ models.map Model.pointer) :
    Sound (models ++ [m]) (g.add digest m) := by
  unfold Merge.add
  split
  · rename_i ha
    split
    · rename_i first hfirst
      obtain ⟨hf, hfa, hs⟩ := representative?_eq_some hfirst
      exact h.replace hptr ha hf hfa hs
    · rename_i hnone
      exact h.keep hptr (fun _ => representative?_eq_none hnone)
  · rename_i ha
    exact h.keep hptr (fun hm => absurd hm ha)

/-- A run of the merge keeps the record right. -/
theorem Sound.foldl (h : Sound models g) (rest : List Model)
    (hptr : ((models ++ rest).map Model.pointer).Nodup) :
    Sound (models ++ rest) (rest.foldl (Merge.add digest) g) := by
  induction rest generalizing models g with
  | nil => simpa using h
  | cons m rest ih =>
      rw [List.append_cons] at hptr ⊢
      refine ih (h.add ?_) hptr
      rw [List.map_append, List.map_append] at hptr
      have hfirst := List.nodup_append.1 (List.nodup_append.1 hptr).1
      exact fun hmem => hfirst.2.2 _ hmem _ (by simp) rfl

/-- The merge of models at distinct pointers is right, with any digest. -/
theorem ofModels_sound (digest : String → UInt64) {models : List Model}
    (hptr : (models.map Model.pointer).Nodup) : Sound models (ofModels digest models) :=
  Sound.empty.foldl models hptr

/-- The pointer of a model that is left out becomes that of the model that stays for it. -/
theorem Sound.retarget_removed (h : Sound models g) (hptr : (models.map Model.pointer).Nodup)
    (hm : m ∈ models) (hk : m ∉ g.kept) :
    ∃ first ∈ g.kept, first.anonymous = true ∧ first.shape = m.shape ∧
      g.retarget m.pointer = first.pointer := by
  have hsome : (g.replaced.lookup m.pointer).isSome := by
    obtain ⟨e, he, hp⟩ := List.mem_map.1 (h.complete m hm hk)
    exact List.lookup_isSome_iff.2 ⟨e, he, by simp [hp]⟩
  obtain ⟨target, htarget⟩ := Option.isSome_iff_exists.1 hsome
  obtain ⟨before, after, hsplit, -⟩ := List.lookup_eq_some_iff.1 htarget
  obtain ⟨n, hn, -, hp, first, hf, ha, hs, hfp⟩ := h.replaced (m.pointer, target)
    (by rw [hsplit]; exact List.mem_append_right _ List.mem_cons_self)
  obtain rfl := List.inj_on_of_nodup_map hptr hn hm hp
  exact ⟨first, hf, ha, hs, by rw [retarget, htarget, hfp]; rfl⟩

/-- Any other target stays as it is. -/
theorem Sound.retarget_other (h : Sound models g) {target : String}
    (htarget : ∀ m ∈ models, m ∉ g.kept → m.pointer ≠ target) : g.retarget target = target := by
  have hnone : g.replaced.lookup target = none := by
    refine List.lookup_eq_none_iff.2 (fun e he => ?_)
    obtain ⟨n, hn, hk, hp, -⟩ := h.replaced e he
    simpa using fun heq : target = e.1 => htarget n hn hk (hp.trans heq.symm)
  rw [retarget, hnone]
  rfl

end Merge

/-- A change of the target keeps a reference a reference. -/
theorem isReference_retargetNode (f : String → String) (t : Traits) :
    (retargetNode f t).isReference = t.isReference := by
  unfold retargetNode
  split <;> rfl

/-- The merged draft is the draft of the models that stay, with its references changed. -/
theorem merged_eq (digest : String → UInt64) (d : Draft) :
    d.merged digest =
      { d with models := (Merge.ofModels digest d.models).kept.reverse }.mapModels
        (Model.mapTraits (retargetNode (Merge.ofModels digest d.models).retarget)) := rfl

/-- The models of the merged draft stand where the models that stay stand. -/
theorem pointers_merged (digest : String → UInt64) (d : Draft) :
    (d.merged digest).models.map Model.pointer =
      (Merge.ofModels digest d.models).kept.reverse.map Model.pointer := by
  rw [merged_eq, models_mapModels, List.map_map]
  refine List.map_congr_left (fun m _ => ?_)
  refine Model.traits_mapNodes _ Traits.pointer (fun t => ?_) m
  unfold retargetNode
  split <;> rfl

/-- Merging keeps pointers distinct. -/
theorem pointers_merged_nodup (digest : String → UInt64) {d : Draft}
    (hptr : (d.models.map Model.pointer).Nodup) :
    ((d.merged digest).models.map Model.pointer).Nodup := by
  rw [pointers_merged]
  exact hptr.sublist ((Merge.ofModels_sound digest hptr).firstWins.sublist.map Model.pointer)

/-- The references of the merged draft are those of the models that stay and of the operations,
with their targets changed. -/
theorem referenceNodes_merged (digest : String → UInt64) (d : Draft) :
    (d.merged digest).referenceNodes =
      { d with models := (Merge.ofModels digest d.models).kept.reverse }.referenceNodes.map
        (retargetNode (Merge.ofModels digest d.models).retarget) :=
  referenceNodes_mapModels _ (isReference_retargetNode _) _

end TypedClient.Draft

import Mathlib.Data.List.Forall2
import TypedClient.Proofs.Document.BodyMerge

/-!
# What mending changes

Two bodies of one operation clash, and so do a body and a form parameter. `mend_settles` says that
a document needs mending exactly when parameters of one of its operations clash, that in the mended
document none do, so that mending it again changes nothing, and that nothing else differs: a mended
operation keeps all but its parameters and what it consumes, and every other part of the document
is the same.
-/

namespace TypedClient.BodyMerge

open Value

variable {doc item v : Value} {operation : Dict Value} {path method : String}

/-! ## Clashes -/

/-- Parameters of an operation that cannot be sent together. -/
inductive Clashes (operation : Dict Value) : Prop where
  | bodies {p q : Value} (h : [p, q].Sublist (parameters operation))
      (hp : isAt "body" p = true) (hq : isAt "body" q = true)
  | form {p q : Value} (hmem : p ∈ parameters operation) (hother : q ∈ parameters operation)
      (hp : isAt "body" p = true) (hq : isAt "formData" q = true)

theorem one_lt_bodyCount_iff {ps : List Value} : 1 < bodyCount ps ↔
    ∃ p q, [p, q].Sublist ps ∧ isAt "body" p = true ∧ isAt "body" q = true := by
  constructor
  · intro h
    rw [bodyCount, List.countP_eq_length_filter] at h
    obtain ⟨p, q, rest, hbodies⟩ : ∃ p q rest, ps.filter (isAt "body") = p :: q :: rest := by
      cases hbodies : ps.filter (isAt "body") with
      | nil => simp [hbodies] at h
      | cons p others =>
          cases others with
          | nil => simp [hbodies] at h
          | cons q rest => exact ⟨p, q, rest, rfl⟩
    have hbody : ∀ r ∈ p :: q :: rest, isAt "body" r = true :=
      fun r hr => (List.mem_filter.1 (hbodies ▸ hr)).2
    have hpair : [p, q].Sublist (ps.filter (isAt "body")) := by
      rw [hbodies]
      exact (List.prefix_append [p, q] rest).sublist
    exact ⟨p, q, hpair.trans List.filter_sublist, hbody p List.mem_cons_self,
      hbody q (List.mem_cons_of_mem _ List.mem_cons_self)⟩
  · rintro ⟨p, q, hpair, hp, hq⟩
    have hcount : [p, q].countP (isAt "body") = 2 := by simp [hp, hq]
    have hle := hpair.countP_le (p := isAt "body")
    rw [bodyCount]
    omega

/-- The count of bodies finds every clash. -/
theorem isOffending_iff : isOffending operation = true ↔ Clashes operation := by
  rw [isOffending, Bool.or_eq_true, Bool.and_eq_true, decide_eq_true_iff, decide_eq_true_iff,
    gt_iff_lt, gt_iff_lt, one_lt_bodyCount_iff]
  constructor
  · rintro (⟨p, q, hpair, hp, hq⟩ | ⟨hbody, hform⟩)
    · exact .bodies hpair hp hq
    · obtain ⟨p, hmem, hp⟩ := List.countP_pos_iff.1 hbody
      obtain ⟨q, hother, hq⟩ := List.any_eq_true.1 hform
      exact .form hmem hother hp hq
  · intro h
    cases h with
    | bodies hpair hp hq => exact .inl ⟨_, _, hpair, hp, hq⟩
    | form hmem hother hp hq =>
        exact .inr ⟨List.countP_pos_iff.2 ⟨_, hmem, hp⟩, List.any_eq_true.2 ⟨_, hother, hq⟩⟩

/-- An operation of a document: a mapping under a method of a path. -/
def IsOperation (doc : Value) (path method : String) (operation : Dict Value) : Prop :=
  ∃ item, (path, item) ∈ (doc.field "paths").entries ∧
    (method, .mapping operation) ∈ item.entries ∧ namesOperation method = true

theorem mem_operationsOf : operation ∈ operationsOf item ↔
    ∃ method, (method, .mapping operation) ∈ item.entries ∧ namesOperation method = true := by
  rw [operationsOf, List.mem_filterMap]
  constructor
  · rintro ⟨⟨method, v⟩, he, hmapping⟩
    obtain ⟨he, hnames⟩ := List.mem_filter.1 he
    cases v with
    | mapping entries => exact ⟨method, Option.some.inj hmapping ▸ he, hnames⟩
    | _ => cases hmapping
  · rintro ⟨method, he, hnames⟩
    exact ⟨(method, .mapping operation), List.mem_filter.2 ⟨he, hnames⟩, rfl⟩

theorem isNeeded_iff : isNeeded doc = true ↔
    ∃ path method operation, IsOperation doc path method operation ∧ Clashes operation := by
  rw [isNeeded, List.any_eq_true]
  constructor
  · rintro ⟨⟨path, item⟩, he, hany⟩
    obtain ⟨operation, hmem, hoffending⟩ := List.any_eq_true.1 hany
    obtain ⟨method, hentry, hnames⟩ := mem_operationsOf.1 hmem
    exact ⟨path, method, operation, ⟨item, he, hentry, hnames⟩, isOffending_iff.1 hoffending⟩
  · rintro ⟨path, method, operation, ⟨item, he, hentry, hnames⟩, hclash⟩
    exact ⟨(path, item), he, List.any_eq_true.2
      ⟨operation, mem_operationsOf.2 ⟨method, hentry, hnames⟩, isOffending_iff.2 hclash⟩⟩

/-! ## The rest of the document -/

/-- What stands under a key of a path item before and after mending. -/
inductive MendedEntry (key : String) : (before after : Value) → Prop where
  | same (v : Value) : MendedEntry key v v
  | operation {d e : Dict Value} (hnames : namesOperation key = true) (hclash : Clashes d)
      (hagree : Dict.AgreeApart ["parameters", "consumes"] d e) :
      MendedEntry key (.mapping d) (.mapping e)

/-- A path item before and after mending. -/
inductive MendedItem : (before after : Value) → Prop where
  | same (v : Value) : MendedItem v v
  | mapping {d e : Dict Value}
      (h : List.Forall₂ (fun a b => b.1 = a.1 ∧ MendedEntry a.1 a.2 b.2) d e) :
      MendedItem (.mapping d) (.mapping e)

/-- A document before and after mending. -/
inductive MendedDocument : (before after : Value) → Prop where
  | same (v : Value) : MendedDocument v v
  | mapping {d e paths mended : Dict Value} (hagree : Dict.AgreeApart ["paths"] d e)
      (hpaths : Dict.get? d "paths" = some (.mapping paths))
      (hmended : Dict.get? e "paths" = some (.mapping mended))
      (hitems : List.Forall₂ (fun a b => b.1 = a.1 ∧ MendedItem a.2 b.2) paths mended) :
      MendedDocument (.mapping d) (.mapping e)

/-- Mending an operation keeps all but its parameters and what it consumes. -/
theorem agreeApart_mendOperation (operation : Dict Value) :
    Dict.AgreeApart ["parameters", "consumes"] operation (mendOperation operation) := by
  have hparameters (v : Value) : Dict.AgreeApart ["parameters", "consumes"] operation
      (Dict.insert "parameters" v operation) := (Dict.AgreeApart.refl _ _).insert (by decide) v
  unfold mendOperation
  split
  · split
    · unfold asForm
      extract_lets sent consumes withForm
      split
      · exact hparameters _
      · exact (hparameters _).insert (by decide) _
    · exact hparameters _
  · exact .refl _ _

theorem mendedEntry_mendedValue (key : String) (v : Value) :
    MendedEntry key v (mendedValue key v) := by
  cases v with
  | mapping operation =>
      rw [mendedValue]
      split
      case isTrue hnames =>
        by_cases hclash : Clashes operation
        · exact .operation hnames hclash (agreeApart_mendOperation operation)
        · rw [mendOperation, if_neg (mt isOffending_iff.1 hclash)]
          exact .same _
      case isFalse => exact .same _
  | _ => exact .same _

theorem mendedItem_mendPathItem (item : Value) : MendedItem item (mendPathItem item) := by
  cases item with
  | mapping entries =>
      rw [mendPathItem_mapping]
      refine .mapping (List.forall₂_map_right_iff.2 (List.forall₂_same.2 (fun e _ => ?_)))
      exact ⟨rfl, mendedEntry_mendedValue e.1 e.2⟩
  | _ => exact .same _

/-- A mended document differs in its clashing operations only. -/
theorem mendedDocument_mend (doc : Value) : MendedDocument doc (mend doc) := by
  unfold mend
  split
  case isTrue hneeded =>
    obtain ⟨path, _, _, ⟨item, he, -⟩, -⟩ := isNeeded_iff.1 hneeded
    -- as there is an operation, the document has a mapping of paths
    have hfound := get?_of_entries_ne_nil (List.ne_nil_of_mem he)
    have hpaths := eq_mapping_of_entries_ne_nil (List.ne_nil_of_mem he)
    cases doc with
    | mapping d =>
        refine .mapping ?_ (hfound.trans (congrArg some hpaths))
          (Dict.get?_insert_self "paths" _ d) ?_
        · exact (Dict.AgreeApart.refl _ d).insert (by decide) _
        · exact List.forall₂_map_right_iff.2 (List.forall₂_same.2 (fun e _ =>
            ⟨rfl, mendedItem_mendPathItem e.2⟩))
    | _ => cases he
  case isFalse => exact .same doc

/-! ## Mending once is enough -/

theorem not_clashes_mend (h : IsOperation (mend doc) path method operation) :
    ¬ Clashes operation := by
  obtain ⟨item, he, hentry, hnames⟩ := h
  have hnot := isOffending_mend he operation (mem_operationsOf.2 ⟨method, hentry, hnames⟩)
  rw [← isOffending_iff, hnot]
  exact Bool.false_ne_true

theorem isNeeded_mend (doc : Value) : isNeeded (mend doc) = false := by
  rw [← Bool.not_eq_true, isNeeded_iff]
  rintro ⟨path, method, operation, hoperation, hclash⟩
  exact not_clashes_mend hoperation hclash

theorem mend_of_not_isNeeded (h : isNeeded doc = false) : mend doc = doc :=
  if_neg (Bool.eq_false_iff.1 h)

/-- A document is mended exactly when parameters of one of its operations clash, and it is mended
once for all: in the mended document none clash, and it differs from the document in the parameters
of such operations and in what they consume at most. -/
theorem mend_settles (doc : Value) :
    (isNeeded doc = true ↔
      ∃ path method operation, IsOperation doc path method operation ∧ Clashes operation) ∧
    (isNeeded doc = true ↔ mend doc ≠ doc) ∧
    (∀ path method operation, IsOperation (mend doc) path method operation →
      ¬ Clashes operation) ∧
    isNeeded (mend doc) = false ∧ mend (mend doc) = mend doc ∧
    MendedDocument doc (mend doc) := by
  refine ⟨isNeeded_iff, ⟨fun hneeded hsame => ?_, fun hchanged => ?_⟩,
    fun _ _ _ hoperation => not_clashes_mend hoperation, isNeeded_mend doc,
    mend_of_not_isNeeded (isNeeded_mend doc), mendedDocument_mend doc⟩
  · have hmended := isNeeded_mend doc
    rw [hsame, hneeded] at hmended
    cases hmended
  · by_contra hneeded
    exact hchanged (mend_of_not_isNeeded (Bool.eq_false_iff.2 hneeded))

end TypedClient.BodyMerge

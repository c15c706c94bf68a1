import TypedClient.Document.BodyMerge
import TypedClient.Proofs.Document.Ordered

/-!
# Mended documents

`isOffending_mend` says what mending is for: in the mended document no operation has several body
parameters or a body beside form parameters, as far as parameters in place go. Mending keeps a
document ordered.

Mending compares the places of parameters up to ASCII letter case, and a description is read with
places in lower case. `Text.sameLetters_of_lower` shows that this makes no difference for bodies
and forms.
-/

namespace TypedClient

namespace BodyMerge

open Value

variable {parameter : Value} {operation : Dict Value}

theorem isOrdered_of_mem_entry {key : String} {o : Option Value}
    (h : ∀ v ∈ o, v.isOrdered = true) : ∀ e ∈ entry key o, e.2.isOrdered = true := by
  cases o with
  | none => exact fun _ he => absurd he List.not_mem_nil
  | some v => exact List.forall_mem_singleton.2 (h v rfl)

theorem isOrdered_of_nonEmpty? {v : Value} : ∀ w ∈ nonEmpty? v, w.isOrdered = true := by
  intro w hw
  unfold nonEmpty? at hw
  split at hw
  · cases hw
  · cases hw
    rfl

theorem isOrdered_of_mapping? {v : Value} (h : v.isOrdered = true) :
    ∀ w ∈ mapping? v, w.isOrdered = true := by
  intro w hw
  obtain ⟨entries, hentries, rfl⟩ := Option.map_eq_some_iff.1 hw
  cases v with
  | mapping => exact Option.some.inj hentries ▸ h
  | _ => cases hentries

theorem isOrdered_schemaOf (h : parameter.isOrdered = true) :
    (schemaOf parameter).isOrdered = true := by
  unfold schemaOf
  split
  case h_1 schema hschema =>
    exact isOrdered_of_mapping? (isOrdered_field h "schema") schema hschema
  case h_2 =>
    split
    · decide
    case h_2 type htype =>
      refine Dict.ordered_ofEntries (List.forall_mem_append.2
        ⟨List.forall_mem_cons.2 ⟨isOrdered_of_nonEmpty? type htype, ?_⟩, ?_⟩)
      · exact isOrdered_of_mem_entry (isOrdered_of_mapping? (isOrdered_field h "items"))
      · exact isOrdered_of_mem_entry isOrdered_of_nonEmpty?

theorem isOrdered_formOf (h : parameter.isOrdered = true) :
    (formOf parameter).isOrdered = true := by
  unfold formOf
  extract_lets schema declared fromSchema source type items
  have hschema : schema.isOrdered = true := isOrdered_field h "schema"
  have hsource : source.isOrdered = true := by
    unfold source
    split
    · exact h
    · exact hschema
  have hitems : ∀ v ∈ items, v.isOrdered = true := by
    intro v hv
    unfold items at hv
    split at hv
    case h_1 w hw =>
      exact isOrdered_of_mapping? (isOrdered_field hsource "items") v (hw.trans hv)
    case h_2 => exact isOrdered_of_mapping? (isOrdered_field hschema "items") v hv
  refine Dict.ordered_ofEntries (List.forall_mem_append.2 ⟨List.forall_mem_append.2
    ⟨List.forall_mem_append.2 ⟨List.forall_mem_append.2 ⟨?_, ?_⟩, ?_⟩, ?_⟩, ?_⟩)
  · simp [isOrdered]
  · exact isOrdered_of_mem_entry isOrdered_of_nonEmpty?
  · refine isOrdered_of_mem_entry (fun v hv => ?_)
    obtain ⟨b, -, rfl⟩ := Option.map_eq_some_iff.1 hv
    rfl
  · exact isOrdered_of_mem_entry hitems
  · exact isOrdered_of_mem_entry isOrdered_of_nonEmpty?

theorem isOrdered_mergedBody {bodies : List Value} (h : ∀ p ∈ bodies, p.isOrdered = true) :
    (mergedBody bodies).isOrdered = true := by
  unfold mergedBody
  extract_lets properties required list schema
  have hproperties : properties.Ordered :=
    Dict.ordered_ofEntries (List.forall_mem_map.2 (fun p hp => isOrdered_schemaOf (h p hp)))
  have hlist : ∀ v ∈ list, v.isOrdered = true := by
    intro v hv
    unfold list at hv
    split at hv
    · cases hv
    · cases hv
      exact isOrdered_list.2 (List.forall_mem_map.2 (fun _ _ => rfl))
  have hschema : schema.isOrdered = true :=
    Dict.ordered_ofEntries (List.forall_mem_append.2
      ⟨List.forall_mem_cons.2 ⟨rfl, List.forall_mem_singleton.2 hproperties⟩,
       isOrdered_of_mem_entry hlist⟩)
  refine Dict.ordered_ofEntries (List.forall_mem_append.2 ⟨?_, isOrdered_of_mem_entry ?_⟩)
  · exact List.forall_mem_cons.2 ⟨rfl, List.forall_mem_cons.2 ⟨rfl,
      List.forall_mem_singleton.2 hschema⟩⟩
  · intro v hv
    obtain ⟨_, -, rfl⟩ := Option.map_eq_some_iff.1 hv
    rfl

theorem isOrdered_of_mem_parameters (h : operation.Ordered) :
    ∀ p ∈ parameters operation, p.isOrdered = true :=
  fun p hp => h.listed p (List.mem_filter.1 hp).1

theorem ordered_mendOperation (h : operation.Ordered) : (mendOperation operation).Ordered := by
  have hall := isOrdered_of_mem_parameters h
  unfold mendOperation
  split
  · split
    · unfold asForm
      extract_lets sent consumes withForm
      have hsent : (Value.list sent).isOrdered = true := by
        refine isOrdered_list.2 (List.forall_mem_map.2 (fun p hp => ?_))
        split
        · exact isOrdered_formOf (hall p hp)
        · exact hall p hp
      split
      · exact h.insert hsent
      · refine (h.insert hsent).insert (isOrdered_list.2 (List.forall_mem_append.2 ⟨?_, ?_⟩))
        · exact h.listed
        · exact List.forall_mem_singleton.2 rfl
    · unfold asOneBody
      rw [List.partition_eq_filter_filter]
      refine h.insert (isOrdered_list.2 (List.forall_mem_cons.2 ⟨?_, ?_⟩))
      · exact isOrdered_mergedBody (fun p hp => hall p (List.mem_filter.1 hp).1)
      · exact fun p hp => hall p (List.mem_filter.1 hp).1
  · exact h

/-- The value under a key of a path item after mending. -/
def mendedValue (key : String) (v : Value) : Value :=
  match v with
  | .mapping operation =>
      if namesOperation key then .mapping (mendOperation operation) else v
  | _ => v

/-- Mending a path item keeps its keys. -/
theorem mendPathItem_mapping (entries : Dict Value) :
    mendPathItem (.mapping entries) =
      .mapping (entries.map (fun e => (e.1, mendedValue e.1 e.2))) := by
  refine congrArg Value.mapping (List.map_congr_left (fun e _ => ?_))
  obtain ⟨key, v⟩ := e
  cases v with
  | mapping operation =>
      dsimp only [mendedValue]
      split <;> rfl
  | _ => rfl

theorem isOrdered_mendedValue {key : String} {v : Value} (h : v.isOrdered = true) :
    (mendedValue key v).isOrdered = true := by
  unfold mendedValue
  split
  · split
    · exact ordered_mendOperation h
    · exact h
  · exact h

theorem isOrdered_mendPathItem {item : Value} (h : item.isOrdered = true) :
    (mendPathItem item).isOrdered = true := by
  cases item with
  | mapping entries =>
      obtain ⟨hsorted, hall⟩ := isOrdered_mapping.1 h
      rw [mendPathItem_mapping]
      exact isOrdered_mapping.2 ⟨List.pairwise_map.2 hsorted,
        List.forall_mem_map.2 (fun e he => isOrdered_mendedValue (hall e he))⟩
  | _ => exact h

/-- The mended document is ordered. -/
theorem isOrdered_mend {doc : Value} (h : doc.isOrdered = true) :
    (mend doc).isOrdered = true := by
  unfold mend
  split
  · obtain ⟨hsorted, hall⟩ := Dict.ordered_iff.1 (ordered_entries (isOrdered_field h "paths"))
    refine (ordered_entries h).insert (isOrdered_mapping.2 ⟨hsorted.mapValues _, ?_⟩)
    exact List.forall_mem_map.2 (fun e he => isOrdered_mendPathItem (hall e he))
  · exact h

/-- Mending changes no entry of a document but its paths. -/
theorem filter_mend {test : String → Bool} (h : test "paths" = false) (doc : Value) :
    (mend doc).entries.filter (fun e => test e.1) = doc.entries.filter (fun e => test e.1) := by
  unfold mend
  split
  · exact Dict.filter_insert_of_not h _ doc.entries
  · rfl

/-! ## Mended operations are not offending -/

theorem mem_entry {key name : String} {o : Option Value}
    (h : name ∈ (entry key o).map Prod.fst) : name = key := by
  cases o with
  | none => cases h
  | some v => exact List.mem_singleton.1 h

/-- A body that is sent as a form parameter is no body. -/
theorem isAt_formOf (parameter : Value) : isAt "body" (formOf parameter) = false := by
  have hplace : (formOf parameter).field "in" = .text "formData" := by
    unfold formOf
    extract_lets schema declared fromSchema source type items
    refine field_mapping (Dict.get?_ofEntries_cons (Value.text "formData") ?_)
    simp only [List.append_eq, List.map_append, List.mem_append, not_or]
    refine ⟨⟨⟨⟨by simp, ?_⟩, ?_⟩, ?_⟩, ?_⟩ <;>
      exact fun hmem => absurd (mem_entry hmem) (by decide)
  rw [isAt, hplace]
  decide

/-- The body that bodies become is sent as a body. -/
theorem field_in_mergedBody (bodies : List Value) :
    (mergedBody bodies).field "in" = .text "body" := by
  unfold mergedBody
  extract_lets properties required list schema
  refine field_mapping (Dict.get?_ofEntries_cons (Value.text "body") ?_)
  simp only [List.append_eq, List.map_append, List.mem_append, not_or]
  exact ⟨by simp, fun hmem => absurd (mem_entry hmem) (by decide)⟩

/-- Where the parameters of an operation are the mappings of a list. -/
theorem parameters_of_get? {items : List Value}
    (h : Dict.get? operation "parameters" = some (.list items)) :
    parameters operation = items.filter (fun p => p.mapping?.isSome) := by
  rw [parameters, h]
  rfl

/-- Without bodies an operation is not offending. -/
theorem isOffending_of_no_body (h : ∀ p ∈ parameters operation, isAt "body" p = false) :
    isOffending operation = false := by
  have hcount : bodyCount (parameters operation) = 0 :=
    List.countP_eq_zero.2 (fun p hp => by simp [h p hp])
  simp [isOffending, hcount]

/-- What it means that an operation is not offending. -/
theorem counts_of_isOffending (h : isOffending operation = false) :
    bodyCount (parameters operation) ≤ 1 ∧
      (0 < (parameters operation).countP (isAt "formData") →
        bodyCount (parameters operation) = 0) := by
  simp only [isOffending, Bool.or_eq_false_iff, Bool.and_eq_false_iff,
    decide_eq_false_iff_not] at h
  obtain ⟨hone, hform⟩ := h
  refine ⟨by omega, fun hpos => ?_⟩
  rcases hform with hform | hform
  · omega
  · exact absurd (List.any_eq_true.2 (List.countP_pos_iff.1 hpos)) (Bool.eq_false_iff.1 hform)

/-- Bodies that are sent as form parameters do not offend. -/
theorem isOffending_asForm (operation : Dict Value) : isOffending (asForm operation) = false := by
  unfold asForm
  extract_lets sent consumes withForm
  have hsent : ∀ p ∈ sent, isAt "body" p = false := by
    refine List.forall_mem_map.2 (fun p _ => ?_)
    split
    · exact isAt_formOf p
    case isFalse hplace => simpa using hplace
  have hfound : Dict.get? withForm "parameters" = some (.list sent) :=
    Dict.get?_insert_self "parameters" _ operation
  split
  · refine isOffending_of_no_body (fun p hp => ?_)
    rw [parameters_of_get? hfound] at hp
    exact hsent p (List.mem_filter.1 hp).1
  · refine isOffending_of_no_body (fun p hp => ?_)
    rw [parameters_of_get? ((Dict.get?_insert_of_ne (by decide) _).trans hfound)] at hp
    exact hsent p (List.mem_filter.1 hp).1

/-- Bodies that become one do not offend when there is no form. -/
theorem isOffending_asOneBody (h : hasForm (parameters operation) = false) :
    isOffending (asOneBody operation) = false := by
  have hothers : ∀ p ∈ (parameters operation).filter (fun p => !isAt "body" p),
      isAt "body" p = false := fun p hp => by simpa using (List.mem_filter.1 hp).2
  have hparameters : parameters (asOneBody operation) =
      (mergedBody ((parameters operation).filter (isAt "body")) ::
        (parameters operation).filter (fun p => !isAt "body" p)).filter
          (fun p => p.mapping?.isSome) := by
    unfold asOneBody
    rw [List.partition_eq_filter_filter]
    exact parameters_of_get? (Dict.get?_insert_self "parameters" _ operation)
  -- only the merged body can be at the place of a body, as those that it was made of are gone
  have hcount : bodyCount (parameters (asOneBody operation)) ≤ 1 := by
    rw [hparameters, bodyCount]
    refine Nat.le_trans (List.Sublist.countP_le List.filter_sublist) ?_
    rw [List.countP_cons, List.countP_eq_zero.2 (fun p hp => by simp [hothers p hp])]
    split <;> omega
  have hform : hasForm (parameters (asOneBody operation)) = false := by
    rw [hparameters, hasForm, List.any_eq_false]
    intro p hp
    rcases List.mem_cons.1 (List.mem_filter.1 hp).1 with rfl | hp
    · rw [isAt, field_in_mergedBody]
      decide
    · exact List.any_eq_false.1 h p (List.mem_filter.1 hp).1
  simp only [isOffending, hform, Bool.and_false, Bool.or_false, decide_eq_false_iff_not]
  omega

/-- A mended operation is not offending. -/
theorem isOffending_mendOperation (operation : Dict Value) :
    isOffending (mendOperation operation) = false := by
  unfold mendOperation
  split
  · split
    · exact isOffending_asForm operation
    case isFalse hform => exact isOffending_asOneBody (by simpa using hform)
  case isFalse h => simpa using h

/-- The operations of a mended path item are not offending. -/
theorem isOffending_of_mem_mendPathItem {item : Value} :
    ∀ operation ∈ operationsOf (mendPathItem item), isOffending operation = false := by
  intro operation hoperation
  obtain ⟨e, he, hmapping⟩ := List.mem_filterMap.1 hoperation
  obtain ⟨he, hnames⟩ := List.mem_filter.1 he
  cases item with
  | mapping entries =>
      rw [mendPathItem_mapping] at he
      obtain ⟨⟨key, v⟩, -, rfl⟩ := List.mem_map.1 he
      cases v with
      | mapping before =>
          simp only [mendedValue, if_pos hnames] at hmapping
          cases hmapping
          exact isOffending_mendOperation before
      | _ => cases hmapping
  | _ => cases he

/-- No operation of a mended document is offending. -/
theorem isOffending_mend {doc : Value} {e : String × Value}
    (he : e ∈ ((mend doc).field "paths").entries) :
    ∀ operation ∈ operationsOf e.2, isOffending operation = false := by
  unfold mend at he
  split at he
  case isTrue =>
    rw [field_mapping (Dict.get?_insert_self "paths" _ doc.entries)] at he
    obtain ⟨before, -, rfl⟩ := List.mem_map.1 he
    exact isOffending_of_mem_mendPathItem
  case isFalse hneeded =>
    -- a document is left alone when none of its operations is offending
    intro operation hoperation
    have hitem := List.any_eq_false.1 (Bool.eq_false_iff.2 hneeded) e he
    simpa using List.any_eq_false.1 (Bool.eq_false_iff.2 hitem) operation hoperation

end BodyMerge

/-! ## Letter case -/

namespace Unicode

/-- The character of a code point has it, or is the null character. -/
theorem toNat_ofNat (n : Nat) : (Char.ofNat n).toNat = n ∨ (Char.ofNat n).toNat = 0 := by
  by_cases hvalid : n.isValidChar
  · rw [Char.ofNat, dif_pos hvalid]
    exact .inl rfl
  · rw [Char.ofNat, dif_neg hvalid]
    exact .inr rfl

/-- Beyond ASCII only two characters have an ASCII character as their lower case: the dotted
capital I and the Kelvin sign. -/
theorem lower_eq_toLower {c : Char} (hpos : 0 < (lower c).toNat) (hascii : (lower c).toNat < 0x80)
    (hi : lower c ≠ 'i') (hk : lower c ≠ 'k') : lower c = c.toLower := by
  -- a shift that leads into ASCII starts there, or shifts one of the two characters alone
  have hshifts : ∀ s ∈ lowerShifts, s.span.last < 0x80 ∨ 0x80 ≤ s.target ∨
      (s.span.first = s.span.last ∧ (s.target = 'i'.toNat ∨ s.target = 'k'.toNat)) := by
    decide +kernel
  by_cases hval : c.val < 0x80
  · exact if_pos hval
  · have hcode : 0x80 ≤ c.toNat := Nat.le_of_not_lt hval
    have hshifted : lower c = Shift.apply lowerShifts c := if_neg hval
    cases hfound : lowerShifts.find? (fun s => s.span.mem c.toNat) with
    | none =>
        have hkept : lower c = c := by rw [hshifted, Shift.apply, hfound]
        rw [hkept] at hascii
        omega
    | some s =>
        have hmoved : lower c = Char.ofNat (s.target + (c.toNat - s.span.first)) := by
          rw [hshifted, Shift.apply, hfound]
        rw [hmoved] at hpos hascii hi hk
        have hmem := List.find?_some hfound
        simp only [Span.mem, Bool.and_eq_true, decide_eq_true_eq] at hmem
        obtain ⟨⟨hfirst, hlast⟩, -⟩ := hmem
        rcases hshifts s (List.mem_of_find?_eq_some hfound) with hspan | htarget | ⟨hone, htarget⟩
        · omega
        · have := toNat_ofNat (s.target + (c.toNat - s.span.first))
          omega
        · have hzero : c.toNat - s.span.first = 0 := by omega
          rw [hzero, Nat.add_zero] at hi hk
          rcases htarget with htarget | htarget
          · exact absurd (htarget ▸ Char.ofNat_toNat 'i') hi
          · exact absurd (htarget ▸ Char.ofNat_toNat 'k') hk

end Unicode

/-- A text whose lower case is a word without `i` and `k` is that word up to ASCII letter case. -/
theorem Text.sameLetters_of_lower {s word place : String} (h : Text.lower s = word)
    (hword : ∀ c ∈ word.toList, 0 < c.toNat ∧ c.toNat < 0x80 ∧ c ≠ 'i' ∧ c ≠ 'k')
    (hplace : place.toList.map Char.toLower = word.toList) :
    Text.sameLetters s place = true := by
  have hchars : s.toList.map Unicode.lower = word.toList := by
    rw [← h, Text.lower, String.toList_ofList]
  have hascii : s.toList.map Unicode.lower = s.toList.map Char.toLower := by
    refine List.map_congr_left (fun c hc => ?_)
    obtain ⟨hpos, hlt, hi, hk⟩ := hword _ (hchars ▸ List.mem_map_of_mem hc)
    exact Unicode.lower_eq_toLower hpos hlt hi hk
  rw [Text.sameLetters, hplace, ← hchars, hascii, beq_self_eq_true]

end TypedClient

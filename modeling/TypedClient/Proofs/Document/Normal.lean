import Mathlib.Data.List.Forall2
import TypedClient.Proofs.Document.Ordered
import TypedClient.Proofs.Document.Place

/-!
# The normal form of a document

`normalize_settles` says what the normal form of a document is. No mapping in it holds a list of
types or a number as an exclusive bound, and no path is an extension. `Normalizes` relates a value
to its normal form key by key: the keywords of a mapping settle some of its entries, and all others
are normalized in turn. As folding leaves a normal value alone, a normal document is its own normal
form.
-/

namespace TypedClient

namespace Value

variable {doc v w : Value} {entries d : Dict Value} {types : List Value} {key : String}

/-! ## What the keywords of a mapping settle -/

/-- The first text in a list of types that is neither empty nor `null`. -/
def IsFirstType (types : List Value) (s : String) : Prop :=
  ∃ before after, types = before ++ .text s :: after ∧ s ≠ "" ∧ s ≠ "null" ∧
    ∀ t, .text t ∈ before → t = "" ∨ t = "null"

/-- What a mapping settles about the entries of its normal form: a list of types becomes the first
of them or goes, `null` in such a list sets a flag, and a number as an exclusive bound goes. -/
inductive Settles (entries : Dict Value) : String → Option Value → Prop where
  | type {types : List Value} {s : String} (htypes : Dict.get? entries "type" = some (.list types))
      (h : IsFirstType types s) : Settles entries "type" (some (.text s))
  | untyped {types : List Value} (htypes : Dict.get? entries "type" = some (.list types))
      (h : ∀ s, ¬ IsFirstType types s) : Settles entries "type" none
  | nullable {types : List Value} (htypes : Dict.get? entries "type" = some (.list types))
      (h : .text "null" ∈ types) : Settles entries "nullable" (some (.bool true))
  | bound {key : String} {v : Value} (hkey : key = "exclusiveMinimum" ∨ key = "exclusiveMaximum")
      (hv : Dict.get? entries key = some v) (hbound : (∃ n, v = .int n) ∨ ∃ x, v = .float x) :
      Settles entries key none

theorem Settles.key_eq {value : Option Value} (h : Settles entries key value) :
    key = "type" ∨ key = "nullable" ∨ key = "exclusiveMinimum" ∨ key = "exclusiveMaximum" := by
  cases h with
  | type | untyped => exact .inl rfl
  | nullable => exact .inr (.inl rfl)
  | bound hkey => exact .inr (.inr hkey)

/-- A value and its normal form. -/
inductive Normalizes : (before after : Value) → Prop where
  | scalar {v : Value} (hlist : v.list? = none) (hmapping : v.mapping? = none) : Normalizes v v
  | list {items folded : List Value} (h : List.Forall₂ Normalizes items folded) :
      Normalizes (.list items) (.list folded)
  | mapping {entries folded : Dict Value}
      (hsettled : ∀ key value, Settles entries key value → Dict.get? folded key = value)
      (hkept : ∀ key, (∀ value, ¬ Settles entries key value) →
        Option.Rel Normalizes (Dict.get? entries key) (Dict.get? folded key)) :
      Normalizes (.mapping entries) (.mapping folded)

theorem isBound_iff : v.isBound = true ↔ (∃ n, v = .int n) ∨ ∃ x, v = .float x := by
  cases v <;> simp [isBound]

theorem eq_text_of_textOrEmpty {s : String} (h : v.textOrEmpty = s) (hs : s ≠ "") :
    v = .text s := by
  cases v with
  | text t => exact congrArg Value.text h
  | _ => exact absurd h.symm hs

theorem isFirstType_iff {s : String} : IsFirstType types s ↔
    (types.map textOrEmpty).find? (fun s => s != "" && s != "null") = some s := by
  rw [List.find?_eq_some_iff_append]
  simp only [Bool.and_eq_true, bne_iff_ne, ne_eq, Bool.not_eq_true', Bool.and_eq_false_iff,
    bne_eq_false_iff_eq]
  constructor
  · rintro ⟨before, after, rfl, hs, hnull, hbefore⟩
    refine ⟨⟨hs, hnull⟩, before.map textOrEmpty, after.map textOrEmpty, ?_, ?_⟩
    · rw [List.map_append, List.map_cons]
      rfl
    refine List.forall_mem_map.2 (fun v hv => ?_)
    cases v with
    | text t => exact hbefore t hv
    | _ => exact .inl rfl
  · rintro ⟨⟨hs, hnull⟩, before, after, hsplit, hbefore⟩
    obtain ⟨start, rest, rfl, rfl, hrest⟩ := List.map_eq_append_iff.1 hsplit
    obtain ⟨v, final, rfl, hv, -⟩ := List.map_eq_cons_iff.1 hrest
    refine ⟨start, final, by rw [eq_text_of_textOrEmpty hv hs], hs, hnull, fun t ht => ?_⟩
    exact hbefore t (List.mem_map.2 ⟨.text t, ht, rfl⟩)

theorem firstType_eq_empty_iff : firstType types = "" ↔ ∀ s, ¬ IsFirstType types s := by
  simp only [isFirstType_iff, firstType]
  cases hfound : (types.map textOrEmpty).find? (fun s => s != "" && s != "null") with
  | none => simp
  | some s =>
      have hs := List.find?_some hfound
      simp only [Bool.and_eq_true, bne_iff_ne, ne_eq] at hs
      simp [hs.1]

theorem IsFirstType.firstType_eq {s : String} (h : IsFirstType types s) : firstType types = s := by
  rw [firstType, isFirstType_iff.1 h, Option.getD_some]

/-! ## Folding the keywords of one mapping -/

theorem foldTypes_of_none (h : (Dict.get? d "type").bind list? = none) : foldTypes d = d := by
  rw [foldTypes, h]

/-- Whether `null` is in a list of types. -/
def hasNull (types : List Value) : Bool :=
  types.any (fun t => t.textOrEmpty == "null")

theorem hasNull_iff : hasNull types = true ↔ .text "null" ∈ types := by
  rw [hasNull, List.any_eq_true]
  constructor
  · rintro ⟨v, hv, hnull⟩
    exact eq_text_of_textOrEmpty (eq_of_beq hnull) (by decide) ▸ hv
  · exact fun hmem => ⟨_, hmem, rfl⟩

/-- A mapping with the flag that `null` in a list of types sets. -/
def flagNull (types : List Value) (d : Dict Value) : Dict Value :=
  if hasNull types then Dict.insert "nullable" (.bool true) d else d

theorem get?_flagNull_self : Dict.get? (flagNull types d) "nullable" =
    if hasNull types then some (.bool true) else Dict.get? d "nullable" := by
  unfold flagNull
  split
  · exact Dict.get?_insert_self _ _ _
  · rfl

theorem get?_flagNull_of_ne (h : key ≠ "nullable") :
    Dict.get? (flagNull types d) key = Dict.get? d key := by
  unfold flagNull
  split
  · exact Dict.get?_insert_of_ne h _
  · rfl

theorem mem_of_mem_flagNull {e : String × Value} (h : e ∈ flagNull types d) :
    e ∈ d ∨ e = ("nullable", .bool true) := by
  unfold flagNull at h
  split at h
  · exact (Dict.eq_or_mem_of_mem_insert h).symm
  · exact .inl h

theorem foldTypes_of_some (h : (Dict.get? d "type").bind list? = some types) :
    foldTypes d =
      if firstType types = "" then Dict.erase "type" (flagNull types d)
      else Dict.insert "type" (.text (firstType types)) (flagNull types d) := by
  rw [foldTypes, h]
  rfl

theorem get?_foldTypes_type (h : (Dict.get? d "type").bind list? = some types) :
    Dict.get? (foldTypes d) "type" =
      if firstType types = "" then none else some (.text (firstType types)) := by
  rw [foldTypes_of_some h]
  split
  · exact Dict.get?_erase_self _ _
  · exact Dict.get?_insert_self _ _ _

/-- Below all keys but `type` a list of types sets its flag. -/
theorem get?_foldTypes_of_some (h : (Dict.get? d "type").bind list? = some types)
    (htype : key ≠ "type") :
    Dict.get? (foldTypes d) key = Dict.get? (flagNull types d) key := by
  rw [foldTypes_of_some h]
  split
  · exact Dict.get?_erase_of_ne htype
  · exact Dict.get?_insert_of_ne htype _

theorem get?_foldTypes_nullable (h : (Dict.get? d "type").bind list? = some types) :
    Dict.get? (foldTypes d) "nullable" =
      if hasNull types then some (.bool true) else Dict.get? d "nullable" := by
  rw [get?_foldTypes_of_some h (by decide), get?_flagNull_self]

theorem get?_foldTypes_of_ne (htype : key ≠ "type") (hnullable : key ≠ "nullable") :
    Dict.get? (foldTypes d) key = Dict.get? d key := by
  cases h : (Dict.get? d "type").bind list? with
  | none => rw [foldTypes_of_none h]
  | some types => rw [get?_foldTypes_of_some h htype, get?_flagNull_of_ne hnullable]

theorem get?_dropBound_self (key : String) (d : Dict Value) :
    Dict.get? (dropBound key d) key = (Dict.get? d key).filter (fun v => !v.isBound) := by
  unfold dropBound
  cases h : Dict.get? d key with
  | none => exact h
  | some v =>
      dsimp only
      cases hbound : v.isBound with
      | true =>
          rw [if_pos rfl, Dict.get?_erase_self, Option.filter_some, hbound]
          rfl
      | false =>
          rw [if_neg Bool.false_ne_true, h, Option.filter_some, hbound]
          rfl

theorem get?_dropBound_of_ne {other : String} (hne : other ≠ key) :
    Dict.get? (dropBound key d) other = Dict.get? d other := by
  unfold dropBound
  split
  · split
    · exact Dict.get?_erase_of_ne hne
    · rfl
  · rfl

theorem get?_foldKeywords_bound (h : key = "exclusiveMinimum" ∨ key = "exclusiveMaximum") :
    Dict.get? (foldKeywords d) key = (Dict.get? d key).filter (fun v => !v.isBound) := by
  rcases h with rfl | rfl
  · rw [foldKeywords, get?_dropBound_of_ne (by decide), get?_dropBound_self,
      get?_foldTypes_of_ne (by decide) (by decide)]
  · rw [foldKeywords, get?_dropBound_self, get?_dropBound_of_ne (by decide),
      get?_foldTypes_of_ne (by decide) (by decide)]

theorem get?_foldKeywords_of_not_bound (hmin : key ≠ "exclusiveMinimum")
    (hmax : key ≠ "exclusiveMaximum") :
    Dict.get? (foldKeywords d) key = Dict.get? (foldTypes d) key := by
  rw [foldKeywords, get?_dropBound_of_ne hmax, get?_dropBound_of_ne hmin]

/-! ## Folding a value -/

theorem fold_mapping (entries : Dict Value) :
    (mapping entries).fold = .mapping (foldKeywords (Dict.mapValues fold entries)) := by
  rw [fold, foldEntries_eq_mapValues]

theorem textOrEmpty_fold (v : Value) : v.fold.textOrEmpty = v.textOrEmpty := by
  cases v <;> simp [fold, textOrEmpty, text?]

theorem isBound_fold (v : Value) : v.fold.isBound = v.isBound := by
  cases v <;> simp [fold, isBound]

theorem list?_fold (v : Value) : v.fold.list? = v.list?.map (List.map fold) := by
  cases v <;> simp [fold, list?, foldItems_eq_map]

/-- The list of types of a mapping whose values are folded. -/
theorem types_mapValues_fold (entries : Dict Value) :
    (Dict.get? (Dict.mapValues fold entries) "type").bind list? =
      ((Dict.get? entries "type").bind list?).map (List.map fold) := by
  rw [Dict.get?_mapValues]
  cases Dict.get? entries "type" with
  | none => rfl
  | some v => exact list?_fold v

theorem map_textOrEmpty_fold (types : List Value) :
    (types.map fold).map textOrEmpty = types.map textOrEmpty := by
  rw [List.map_map]
  exact List.map_congr_left (fun v _ => textOrEmpty_fold v)

theorem firstType_map_fold (types : List Value) : firstType (types.map fold) = firstType types := by
  rw [firstType, firstType, map_textOrEmpty_fold]

theorem hasNull_map_fold (types : List Value) : hasNull (types.map fold) = hasNull types := by
  simp only [hasNull, List.any_map, Function.comp_def, textOrEmpty_fold]

theorem typeList_of_get? (h : Dict.get? entries "type" = some (.list types)) :
    (Dict.get? (Dict.mapValues fold entries) "type").bind list? = some (types.map fold) := by
  rw [types_mapValues_fold, h]
  rfl

/-- What the keywords settle is so in the folded mapping. -/
theorem get?_fold_of_settles {value : Option Value} (h : Settles entries key value) :
    Dict.get? (foldKeywords (Dict.mapValues fold entries)) key = value := by
  cases h with
  | type htypes hfirst =>
      rw [get?_foldKeywords_of_not_bound (by decide) (by decide),
        get?_foldTypes_type (typeList_of_get? htypes), firstType_map_fold, hfirst.firstType_eq]
      obtain ⟨-, -, -, hs, -⟩ := hfirst
      exact if_neg hs
  | untyped htypes hnone =>
      rw [get?_foldKeywords_of_not_bound (by decide) (by decide),
        get?_foldTypes_type (typeList_of_get? htypes), firstType_map_fold]
      exact if_pos (firstType_eq_empty_iff.2 hnone)
  | nullable htypes hnull =>
      rw [get?_foldKeywords_of_not_bound (by decide) (by decide),
        get?_foldTypes_nullable (typeList_of_get? htypes), hasNull_map_fold]
      exact if_pos (hasNull_iff.2 hnull)
  | bound hkey hv hbound =>
      rw [get?_foldKeywords_bound hkey, Dict.get?_mapValues, hv]
      simp [isBound_fold, isBound_iff.2 hbound]

/-- What the keywords do not settle is folded. -/
theorem get?_fold_of_not_settles (h : ∀ value, ¬ Settles entries key value) :
    Dict.get? (foldKeywords (Dict.mapValues fold entries)) key =
      (Dict.get? entries key).map fold := by
  by_cases hbound : key = "exclusiveMinimum" ∨ key = "exclusiveMaximum"
  · rw [get?_foldKeywords_bound hbound, Dict.get?_mapValues]
    cases hv : Dict.get? entries key with
    | none => rfl
    | some v =>
        have hnot : v.isBound = false := Bool.eq_false_iff.2 (fun hv' =>
          h none (.bound hbound hv (isBound_iff.1 hv')))
        simp [isBound_fold, hnot]
  rw [not_or] at hbound
  rw [get?_foldKeywords_of_not_bound hbound.1 hbound.2, ← Dict.get?_mapValues]
  cases htypes : (Dict.get? entries "type").bind list? with
  | none => rw [foldTypes_of_none (by rw [types_mapValues_fold, htypes]; rfl)]
  | some types =>
      obtain ⟨v, hv, hlist⟩ := Option.bind_eq_some_iff.1 htypes
      have hget : Dict.get? entries "type" = some (.list types) := by
        cases v with
        | list items => rw [hv, ← Option.some.inj hlist]
        | _ => cases hlist
      by_cases htype : key = "type"
      · subst htype
        by_cases hfirst : ∃ s, IsFirstType types s
        · obtain ⟨s, hs⟩ := hfirst
          exact absurd (.type hget hs) (h _)
        · exact absurd (.untyped hget (not_exists.1 hfirst)) (h _)
      · by_cases hnullable : key = "nullable"
        · subst hnullable
          have hnull : ¬ hasNull types = true := fun hnull =>
            h _ (.nullable hget (hasNull_iff.1 hnull))
          rw [get?_foldTypes_nullable (typeList_of_get? hget), hasNull_map_fold, if_neg hnull]
        · exact get?_foldTypes_of_ne htype hnullable

/-- Folding a value gives its normal form. -/
theorem normalizes_fold (v : Value) : Normalizes v v.fold := by
  induction v using induction_on_parts with
  | scalar v hlist hmapping =>
      rw [fold_of_scalar hlist hmapping]
      exact .scalar hlist hmapping
  | list items ih =>
      rw [fold, foldItems_eq_map]
      exact .list (List.forall₂_map_right_iff.2 (List.forall₂_same.2 ih))
  | mapping entries ih =>
      rw [fold, foldEntries_eq_mapValues]
      refine .mapping (fun key value h => get?_fold_of_settles h) (fun key h => ?_)
      rw [get?_fold_of_not_settles h]
      cases hv : Dict.get? entries key with
      | none => exact .none
      | some v =>
          obtain ⟨before, after, rfl, -⟩ := List.lookup_eq_some_iff.1 hv
          exact .some (ih (key, v) (List.mem_append_right _ List.mem_cons_self))

/-! ## Normal values -/

/-- The keywords of a mapping are in normal form: its type is no list, and no exclusive bound is a
number. -/
structure NormalKeywords (entries : Dict Value) : Prop where
  type_ne : ∀ types, Dict.get? entries "type" ≠ some (.list types)
  bound_ne : ∀ key, key = "exclusiveMinimum" ∨ key = "exclusiveMaximum" →
    (∀ n, Dict.get? entries key ≠ some (.int n)) ∧ ∀ x, Dict.get? entries key ≠ some (.float x)

/-- The keywords of every mapping in a value are in normal form. -/
inductive IsNormal : Value → Prop where
  | scalar {v : Value} (hlist : v.list? = none) (hmapping : v.mapping? = none) : IsNormal v
  | list {items : List Value} (h : ∀ v ∈ items, IsNormal v) : IsNormal (.list items)
  | mapping {entries : Dict Value} (hkeywords : NormalKeywords entries)
      (h : ∀ e ∈ entries, IsNormal e.2) : IsNormal (.mapping entries)

theorem normalKeywords_foldKeywords (d : Dict Value) : NormalKeywords (foldKeywords d) where
  type_ne := by
    intro types htypes
    rw [get?_foldKeywords_of_not_bound (by decide) (by decide)] at htypes
    cases h : (Dict.get? d "type").bind list? with
    | none =>
        rw [foldTypes_of_none h] at htypes
        rw [htypes] at h
        cases h
    | some found =>
        rw [get?_foldTypes_type h] at htypes
        split at htypes <;> cases htypes
  bound_ne := by
    intro key hkey
    have hfree : ∀ v, Dict.get? (foldKeywords d) key = some v → v.isBound = false := by
      intro v hv
      rw [get?_foldKeywords_bound hkey, Option.filter_eq_some_iff] at hv
      simpa using hv.2
    exact ⟨fun n hn => Bool.noConfusion (hfree _ hn), fun x hx => Bool.noConfusion (hfree _ hx)⟩

/-- In a folded mapping stand no new values but a type and a flag. -/
theorem mem_of_mem_foldKeywords {e : String × Value} (h : e ∈ foldKeywords d) :
    e ∈ d ∨ (∃ s, e = ("type", .text s)) ∨ e = ("nullable", .bool true) := by
  have hdrop : ∀ {key : String} {d : Dict Value}, e ∈ dropBound key d → e ∈ d := by
    intro key d he
    unfold dropBound at he
    split at he
    · split at he
      · exact List.mem_of_mem_filter he
      · exact he
    · exact he
  have htypes := hdrop (hdrop h)
  cases hlist : (Dict.get? d "type").bind list? with
  | none => exact .inl (foldTypes_of_none hlist ▸ htypes)
  | some types =>
      rw [foldTypes_of_some hlist] at htypes
      split at htypes
      · exact (mem_of_mem_flagNull (List.mem_of_mem_filter htypes)).imp_right .inr
      · rcases Dict.eq_or_mem_of_mem_insert htypes with rfl | he
        · exact .inr (.inl ⟨_, rfl⟩)
        · exact (mem_of_mem_flagNull he).imp_right .inr

/-- A folded value is normal. -/
theorem isNormal_fold (v : Value) : IsNormal v.fold := by
  induction v using induction_on_parts with
  | scalar v hlist hmapping =>
      rw [fold_of_scalar hlist hmapping]
      exact .scalar hlist hmapping
  | list items ih =>
      rw [fold, foldItems_eq_map]
      exact .list (List.forall_mem_map.2 ih)
  | mapping entries ih =>
      rw [fold, foldEntries_eq_mapValues]
      refine .mapping (normalKeywords_foldKeywords _) (fun e he => ?_)
      rcases mem_of_mem_foldKeywords he with he | ⟨s, rfl⟩ | rfl
      · obtain ⟨e, hmem, rfl⟩ := List.mem_map.1 he
        exact ih e hmem
      · exact .scalar rfl rfl
      · exact .scalar rfl rfl

theorem dropBound_of_forall (h : ∀ v, Dict.get? d key = some v → v.isBound = false) :
    dropBound key d = d := by
  unfold dropBound
  split
  case h_1 v hv => rw [h v hv, if_neg Bool.false_ne_true]
  case h_2 => rfl

theorem NormalKeywords.foldKeywords_eq (h : NormalKeywords entries) :
    foldKeywords entries = entries := by
  have htypes : (Dict.get? entries "type").bind list? = none := by
    cases hv : Dict.get? entries "type" with
    | none => rfl
    | some v =>
        cases v with
        | list types => exact absurd hv (h.type_ne types)
        | _ => rfl
  have hfree : ∀ key, key = "exclusiveMinimum" ∨ key = "exclusiveMaximum" →
      ∀ v, Dict.get? entries key = some v → v.isBound = false := by
    intro key hkey v hv
    obtain ⟨hint, hfloat⟩ := h.bound_ne key hkey
    cases v with
    | int n => exact absurd hv (hint n)
    | float x => exact absurd hv (hfloat x)
    | _ => rfl
  rw [foldKeywords, foldTypes_of_none htypes, dropBound_of_forall (hfree _ (.inl rfl)),
    dropBound_of_forall (hfree _ (.inr rfl))]

/-- Folding leaves a normal value alone. -/
theorem IsNormal.fold_eq (h : IsNormal v) : v.fold = v := by
  induction h with
  | scalar hlist hmapping => exact fold_of_scalar hlist hmapping
  | @list items h ih =>
      have hsame : items.map fold = items := (List.map_congr_left ih).trans (List.map_id items)
      rw [fold, foldItems_eq_map, hsame]
  | @mapping entries hkeywords h ih =>
      have hentry : ∀ e ∈ entries, (e.1, e.2.fold) = id e :=
        fun e he => Prod.ext rfl (ih e he)
      have hsame : Dict.mapValues fold entries = entries :=
        (List.map_congr_left hentry).trans (List.map_id entries)
      rw [fold, foldEntries_eq_mapValues, hsame, hkeywords.foldKeywords_eq]

/-- What stands in a normal value is normal. -/
theorem IsNormal.at? {path : List Step} (h : IsNormal v) (hw : v.at? path = some w) :
    IsNormal w := by
  induction path generalizing v with
  | nil => exact Option.some.inj hw ▸ h
  | cons step path ih =>
      obtain ⟨part, hpart, hw⟩ := Option.bind_eq_some_iff.1 hw
      refine ih ?_ hw
      cases step with
      | key name =>
          obtain ⟨before, after, hentries, -⟩ := List.lookup_eq_some_iff.1 hpart
          cases h with
          | scalar hlist hmapping =>
              rw [Value.entries, hmapping] at hentries
              simp at hentries
          | list => simp [Value.entries, mapping?] at hentries
          | @mapping entries hkeywords h =>
              obtain rfl : entries = before ++ (name, part) :: after := hentries
              exact h (name, part) (List.mem_append_right _ List.mem_cons_self)
      | item position =>
          obtain ⟨items, hitems, hpart⟩ := Option.bind_eq_some_iff.1 hpart
          cases h with
          | scalar hlist hmapping => rw [hlist] at hitems; cases hitems
          | list h =>
              cases hitems
              exact h part (List.mem_of_getElem? hpart)
          | mapping => cases hitems

/-! ## Extension keys below the paths -/

/-- A document before and after the extension keys are left out of its paths. -/
inductive TrimsPaths : (before after : Value) → Prop where
  | same {doc : Value} (h : (doc.field "paths").mapping? = none) : TrimsPaths doc doc
  | mapping {d e paths kept : Dict Value} (hagree : Dict.AgreeApart ["paths"] d e)
      (hpaths : Dict.get? d "paths" = some (.mapping paths))
      (hkept : Dict.get? e "paths" = some (.mapping kept))
      (hdropped : ∀ path, "x-".toList <+: path.toList → Dict.get? kept path = none)
      (hother : ∀ path, ¬ "x-".toList <+: path.toList →
        Dict.get? kept path = Dict.get? paths path) :
      TrimsPaths (.mapping d) (.mapping e)

theorem isExtensionKey_iff : isExtensionKey key = true ↔ "x-".toList <+: key.toList :=
  List.isPrefixOf_iff_prefix

/-- A document without a mapping of paths is left alone, and from such a mapping the extension keys
are left out. -/
theorem dropPathExtensions_cases (doc : Value) :
    (doc.field "paths").mapping? = none ∧ doc.dropPathExtensions = doc ∨
    ∃ d paths, doc = .mapping d ∧ Dict.get? d "paths" = some (.mapping paths) ∧
      doc.dropPathExtensions = .mapping (Dict.insert "paths"
        (.mapping (paths.filter (fun e => !isExtensionKey e.1))) d) := by
  cases doc with
  | mapping d =>
      cases hfound : Dict.get? d "paths" with
      | none =>
          refine .inl ⟨?_, by rw [dropPathExtensions, hfound]; rfl⟩
          rw [field, Value.get?, Value.entries, mapping?, Option.getD_some, hfound]
          rfl
      | some v =>
          have hfield : (mapping d).field "paths" = v := field_mapping hfound
          cases hpaths : v.mapping? with
          | none =>
              refine .inl ⟨hfield ▸ hpaths, ?_⟩
              rw [dropPathExtensions, hfound, Option.bind_some, hpaths]
          | some paths =>
              have hv : v = .mapping paths := by
                cases v with
                | mapping entries => exact congrArg Value.mapping (Option.some.inj hpaths)
                | _ => cases hpaths
              refine .inr ⟨d, paths, rfl, hv ▸ hfound, ?_⟩
              rw [dropPathExtensions, hfound, Option.bind_some, hpaths]
  | _ => exact .inl ⟨rfl, rfl⟩

theorem trimsPaths_dropPathExtensions (doc : Value) : TrimsPaths doc doc.dropPathExtensions := by
  obtain ⟨hpaths, hsame⟩ | ⟨d, paths, rfl, hpaths, htrimmed⟩ := dropPathExtensions_cases doc
  · exact hsame.symm ▸ .same hpaths
  · rw [htrimmed]
    refine .mapping ((Dict.AgreeApart.refl _ d).insert (by decide) _) hpaths
      (Dict.get?_insert_self _ _ _) (fun path hpath => ?_) (fun path hpath => ?_)
    · rw [Dict.get?_filter (fun key => !isExtensionKey key), isExtensionKey_iff.2 hpath]
      rfl
    · rw [Dict.get?_filter (fun key => !isExtensionKey key),
        Bool.eq_false_iff.2 (mt isExtensionKey_iff.1 hpath)]
      rfl

/-- Folding keeps the keys below the paths, but for the keywords. -/
theorem key_of_mem_paths_fold {e : String × Value} (h : e ∈ (v.fold.field "paths").entries) :
    e.1 ∈ (v.field "paths").entries.keys ∨ e.1 = "type" ∨ e.1 = "nullable" := by
  cases v with
  | mapping entries =>
      have hfree : ∀ value, ¬ Settles entries "paths" value := by
        intro value hsettles
        exact absurd hsettles.key_eq (by decide)
      have hget : (mapping entries).fold.get? "paths" = (Dict.get? entries "paths").map fold := by
        rw [fold, foldEntries_eq_mapValues]
        exact get?_fold_of_not_settles hfree
      rw [field, hget] at h
      cases hfound : Dict.get? entries "paths" with
      | none => rw [hfound] at h; cases h
      | some w =>
          rw [hfound, Option.map_some, Option.getD_some] at h
          rw [field_mapping hfound]
          cases w with
          | mapping paths =>
              rw [fold, foldEntries_eq_mapValues] at h
              rcases mem_of_mem_foldKeywords h with h | ⟨s, rfl⟩ | rfl
              · obtain ⟨e, hmem, rfl⟩ := List.mem_map.1 h
                exact .inl (List.mem_map.2 ⟨e, hmem, rfl⟩)
              · exact .inr (.inl rfl)
              · exact .inr (.inr rfl)
          | _ => simp [fold, Value.entries, mapping?] at h
  | _ => simp [fold, field, Value.get?, Value.entries, mapping?] at h

/-- No path of the normal form is an extension. -/
theorem not_extension_normalize (doc : Value) :
    ∀ e ∈ (doc.normalize.field "paths").entries, isExtensionKey e.1 = false := by
  intro e he
  rcases key_of_mem_paths_fold he with hkey | hkey | hkey
  · obtain ⟨hpaths, hsame⟩ | ⟨d, paths, rfl, hpaths, htrimmed⟩ := dropPathExtensions_cases doc
    · rw [hsame, Value.entries, hpaths] at hkey
      cases hkey
    · rw [htrimmed, field_mapping (Dict.get?_insert_self "paths" _ d)] at hkey
      obtain ⟨kept, hkept, heq⟩ := List.mem_map.1 hkey
      have hnot := (List.mem_filter.1 hkept).2
      rw [heq] at hnot
      simpa using hnot
  · rw [hkey]
    decide
  · rw [hkey]
    decide

/-- Without extensions among its paths an ordered document is left alone. -/
theorem dropPathExtensions_eq (hordered : doc.isOrdered = true)
    (h : ∀ e ∈ (doc.field "paths").entries, isExtensionKey e.1 = false) :
    doc.dropPathExtensions = doc := by
  obtain ⟨-, hsame⟩ | ⟨d, paths, rfl, hpaths, htrimmed⟩ := dropPathExtensions_cases doc
  · exact hsame
  · have hkept : paths.filter (fun e => !isExtensionKey e.1) = paths := by
      rw [field_mapping hpaths] at h
      exact List.filter_eq_self.2 (fun e he => (congrArg not (h e he)).trans rfl)
    rw [htrimmed, hkept, Dict.Sorted.insert_eq_self (Dict.Ordered.sorted hordered) hpaths]

/-- A normal document is its own normal form. -/
theorem normalize_normalize (hordered : doc.isOrdered = true) :
    doc.normalize.normalize = doc.normalize := by
  rw [normalize, dropPathExtensions_eq (isOrdered_normalize hordered) (not_extension_normalize doc)]
  exact (isNormal_fold _).fold_eq

/-! ## Entries that are left alone -/

theorem filter_flagNull {test : String → Bool} (h : test "nullable" = false) (types : List Value)
    (d : Dict Value) :
    (flagNull types d).filter (fun e => test e.1) = d.filter (fun e => test e.1) := by
  unfold flagNull
  split
  · exact Dict.filter_insert_of_not h _ d
  · rfl

theorem filter_foldTypes {test : String → Bool} (htype : test "type" = false)
    (hnullable : test "nullable" = false) (d : Dict Value) :
    (foldTypes d).filter (fun e => test e.1) = d.filter (fun e => test e.1) := by
  cases h : (Dict.get? d "type").bind list? with
  | none => rw [foldTypes_of_none h]
  | some types =>
      rw [foldTypes_of_some h]
      split
      · rw [Dict.filter_erase_of_not htype, filter_flagNull hnullable]
      · rw [Dict.filter_insert_of_not htype, filter_flagNull hnullable]

theorem filter_dropBound {test : String → Bool} (h : test key = false) (d : Dict Value) :
    (dropBound key d).filter (fun e => test e.1) = d.filter (fun e => test e.1) := by
  unfold dropBound
  split
  · split
    · exact Dict.filter_erase_of_not h d
    · rfl
  · rfl

/-- Entries under keys that are no keywords are folded on their own. -/
theorem filter_fold {test : String → Bool}
    (h : ∀ key ∈ ["type", "nullable", "exclusiveMinimum", "exclusiveMaximum"], test key = false)
    (v : Value) : v.fold.entries.filter (fun e => test e.1) =
      Dict.mapValues fold (v.entries.filter (fun e => test e.1)) := by
  cases v with
  | mapping entries =>
      rw [fold_mapping, ← Dict.filter_mapValues]
      exact (filter_dropBound (h _ (by decide)) _).trans
        ((filter_dropBound (h _ (by decide)) _).trans
          (filter_foldTypes (h _ (by decide)) (h _ (by decide)) _))
  | _ => rfl

/-- The entries of a document that are no keywords and not its paths are folded on their own when
the document is brought into normal form. -/
theorem filter_normalize {test : String → Bool} (hpaths : test "paths" = false)
    (h : ∀ key ∈ ["type", "nullable", "exclusiveMinimum", "exclusiveMaximum"], test key = false)
    (doc : Value) : doc.normalize.entries.filter (fun e => test e.1) =
      Dict.mapValues fold (doc.entries.filter (fun e => test e.1)) := by
  rw [normalize, filter_fold h]
  obtain ⟨-, hsame⟩ | ⟨d, paths, rfl, -, htrimmed⟩ := dropPathExtensions_cases doc
  · rw [hsame]
  · rw [htrimmed]
    exact congrArg (Dict.mapValues fold) (Dict.filter_insert_of_not hpaths _ d)

/-! ## The normal form -/

/-- In the normal form of a document no mapping holds a list of types or a number as an exclusive
bound, and no path is an extension. But for those paths the keywords of each mapping settle what
they say, and all else is the same; and the normal form is its own. -/
theorem normalize_settles (hordered : doc.isOrdered = true) :
    doc.normalize.isOrdered = true ∧
      (∀ path entries, doc.normalize.at? path = some (.mapping entries) →
        NormalKeywords entries) ∧
      (∀ e ∈ (doc.normalize.field "paths").entries, ¬ "x-".toList <+: e.1.toList) ∧
      (∃ trimmed, TrimsPaths doc trimmed ∧ Normalizes trimmed doc.normalize) ∧
      doc.normalize.normalize = doc.normalize := by
  refine ⟨isOrdered_normalize hordered, fun path entries hentries => ?_, fun e he => ?_,
    ⟨_, trimsPaths_dropPathExtensions doc, normalizes_fold _⟩, normalize_normalize hordered⟩
  · have hnormal := (isNormal_fold doc.dropPathExtensions).at? hentries
    cases hnormal with
    | scalar _ hmapping => cases hmapping
    | mapping hkeywords _ => exact hkeywords
  · rw [← isExtensionKey_iff, not_extension_normalize doc e he]
    exact Bool.false_ne_true

/-- A document with a list of types, a number as a bound and an extension among its paths. -/
def loose : Value :=
  .mapping [("definitions", .mapping [("age", .mapping [("exclusiveMinimum", .int 0),
      ("type", .list [.text "null", .text "", .text "integer", .text "string"])])]),
    ("paths", .mapping [("/pets", .mapping []), ("x-note", .text "none")])]

/-- What `normalize_settles` says of `loose`: the first proper type is kept, with a flag, and the
bound and the extension go. -/
theorem normalize_settles_loose :
    loose.isOrdered = true ∧
      loose.normalize = .mapping [("definitions", .mapping [("age", .mapping
          [("nullable", .bool true), ("type", .text "integer")])]),
        ("paths", .mapping [("/pets", .mapping [])])] ∧
      (∃ trimmed, TrimsPaths loose trimmed ∧ Normalizes trimmed loose.normalize) ∧
      loose.normalize.normalize = loose.normalize := by
  have hordered : loose.isOrdered = true := by decide
  obtain ⟨-, -, -, hrewritten, hidempotent⟩ := normalize_settles hordered
  exact ⟨hordered, by rfl, hrewritten, hidempotent⟩

end Value

end TypedClient

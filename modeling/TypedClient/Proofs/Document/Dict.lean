import TypedClient.Description.Field
import TypedClient.Document.Normal

/-!
# Dictionaries stay sorted

Putting entries in, changing values and leaving entries out keep the keys in strictly ascending
order, so a field that is read as a dictionary is sorted whatever its value is, and the look-up of
a key finds each of its entries. Entries with distinct keys all find a place.
-/

namespace TypedClient

/-- In entries with distinct keys the look-up of a key finds its entry. -/
theorem lookup_eq_some_of_mem {κ α : Type} [BEq κ] [LawfulBEq κ] {entries : List (κ × α)}
    (h : (entries.map Prod.fst).Nodup) {key : κ} {value : α} (he : (key, value) ∈ entries) :
    entries.lookup key = some value := by
  obtain ⟨before, after, rfl⟩ := List.append_of_mem he
  refine List.lookup_eq_some_iff.2 ⟨before, after, rfl, fun e hbefore => ?_⟩
  rw [List.map_append, List.map_cons, List.nodup_append] at h
  exact bne_iff_ne.2 (h.2.2 e.1 (List.mem_map_of_mem hbefore) key List.mem_cons_self).symm

namespace Dict

variable {α β : Type} {d : Dict α}

/-- An entry of a dictionary after an insertion is the new one or an old one. -/
theorem eq_or_mem_of_mem_insert {key : String} {value : α} {e : String × α}
    (h : e ∈ insert key value d) : e = (key, value) ∨ e ∈ d := by
  induction d with
  | nil => simpa [insert] using h
  | cons first rest ih =>
      obtain ⟨k, v⟩ := first
      unfold insert at h
      split at h
      · exact List.mem_cons.1 h
      · split at h
        · exact (List.mem_cons.1 h).imp_right (List.mem_cons_of_mem _)
        · rcases List.mem_cons.1 h with rfl | h
          · exact .inr List.mem_cons_self
          · exact (ih h).imp_right (List.mem_cons_of_mem _)

/-- An entry after several insertions is one of the new ones or an old one. -/
theorem mem_of_mem_insertAll {entries : List (String × α)} {e : String × α}
    (h : e ∈ entries.foldl (fun d e => insert e.1 e.2 d) d) : e ∈ d ∨ e ∈ entries := by
  induction entries generalizing d with
  | nil => exact .inl h
  | cons first rest ih =>
      rcases ih h with hmem | hmem
      · rcases eq_or_mem_of_mem_insert hmem with rfl | hmem
        · exact .inr List.mem_cons_self
        · exact .inl hmem
      · exact .inr (List.mem_cons_of_mem _ hmem)

/-- The entries of a dictionary are among those it is made of. -/
theorem mem_of_mem_ofEntries {entries : List (String × α)} {e : String × α}
    (h : e ∈ ofEntries entries) : e ∈ entries :=
  (mem_of_mem_insertAll h).resolve_left List.not_mem_nil

/-- An entry of a dictionary with changed values comes from one under the same key. -/
theorem exists_of_mem_mapValues {read : α → β} {key : String} {b : β}
    (h : (key, b) ∈ mapValues read d) : ∃ a, (key, a) ∈ d ∧ read a = b := by
  obtain ⟨⟨key, a⟩, ha, heq⟩ := List.mem_map.1 h
  obtain ⟨rfl, hread⟩ := Prod.mk.inj heq
  exact ⟨a, ha, hread⟩

theorem get?_insert_of_ne {key other : String} (hne : other ≠ key) (value : α) :
    get? (insert key value d) other = get? d other := by
  have hkey : (other == key) = false := beq_eq_false_iff_ne.2 hne
  induction d with
  | nil => simp [insert, get?, List.lookup_cons, hkey]
  | cons e rest ih =>
      obtain ⟨k, v⟩ := e
      unfold insert
      split
      · simp [get?, List.lookup_cons, hkey]
      · split
        case isTrue heq =>
          subst heq
          simp [get?, List.lookup_cons, hkey]
        case isFalse =>
          simp only [get?, List.lookup_cons] at ih ⊢
          rw [ih]

/-- What stands under a key stays when entries under other keys are put in. -/
theorem get?_insertAll_of_not_mem {key : String} {entries : List (String × α)}
    (h : key ∉ entries.map Prod.fst) :
    get? (entries.foldl (fun d e => insert e.1 e.2 d) d) key = get? d key := by
  induction entries generalizing d with
  | nil => rfl
  | cons e rest ih =>
      rw [List.map_cons, List.mem_cons, not_or] at h
      exact (ih h.2).trans (get?_insert_of_ne h.1 e.2)

/-- The last entry of a key stays. -/
theorem get?_ofEntries_append_cons {key : String} (value : α) (before : List (String × α))
    {after : List (String × α)} (h : key ∉ after.map Prod.fst) :
    get? (ofEntries (before ++ (key, value) :: after)) key = some value := by
  rw [ofEntries, List.foldl_append, List.foldl_cons, get?_insertAll_of_not_mem h]
  exact get?_insert_self key value _

/-- A first entry whose key does not come again stays. -/
theorem get?_ofEntries_cons {key : String} (value : α) {entries : List (String × α)}
    (h : key ∉ entries.map Prod.fst) :
    get? (ofEntries ((key, value) :: entries)) key = some value :=
  get?_ofEntries_append_cons value [] h

/-- Of entries that are chosen by their keys the look-up finds those of the chosen keys. -/
theorem get?_filter (test : String → Bool) (d : Dict α) (key : String) :
    get? (d.filter (fun e => test e.1)) key = if test key then get? d key else none := by
  induction d with
  | nil => exact (ite_self none).symm
  | cons e rest ih =>
      obtain ⟨k, v⟩ := e
      rw [List.filter_cons, get?, get?, List.lookup_cons]
      by_cases hk : key = k
      · subst hk
        rw [beq_self_eq_true]
        split
        · exact List.lookup_cons_self
        case isFalse htest => exact ih.trans (if_neg htest)
      · rw [beq_eq_false_iff_ne.2 hk]
        split
        · rw [List.lookup_cons, beq_eq_false_iff_ne.2 hk]
          exact ih
        · exact ih

theorem get?_erase_self (key : String) (d : Dict α) : get? (erase key d) key = none := by
  rw [erase, get?_filter (· != key), bne_self_eq_false, if_neg Bool.false_ne_true]

theorem get?_erase_of_ne {key other : String} (hne : other ≠ key) :
    get? (erase key d) other = get? d other := by
  rw [erase, get?_filter (· != key), if_pos (bne_iff_ne.2 hne)]

theorem get?_mapValues (f : α → β) (d : Dict α) (key : String) :
    get? (mapValues f d) key = (get? d key).map f := by
  induction d with
  | nil => rfl
  | cons e rest ih =>
      rw [mapValues, List.map_cons, get?, List.lookup_cons, get?, List.lookup_cons]
      cases key == e.1 with
      | true => rfl
      | false => exact ih

/-- An insertion under a key that is not chosen leaves the chosen entries alone. -/
theorem filter_insert_of_not {test : String → Bool} {key : String} (h : test key = false)
    (value : α) (d : Dict α) :
    (insert key value d).filter (fun e => test e.1) = d.filter (fun e => test e.1) := by
  induction d with
  | nil => rw [insert, List.filter_cons_of_neg (by simp [h])]
  | cons e rest ih =>
      obtain ⟨k, v⟩ := e
      unfold insert
      split
      · rw [List.filter_cons_of_neg (by simp [h])]
      · split
        case isTrue heq =>
          subst heq
          rw [List.filter_cons_of_neg (by simp [h]), List.filter_cons_of_neg (by simp [h])]
        case isFalse => rw [List.filter_cons, List.filter_cons, ih]

/-- So does the removal of the entry under such a key. -/
theorem filter_erase_of_not {test : String → Bool} {key : String} (h : test key = false)
    (d : Dict α) : (erase key d).filter (fun e => test e.1) = d.filter (fun e => test e.1) := by
  rw [erase, List.filter_filter]
  refine List.filter_congr (fun e _ => ?_)
  by_cases he : e.1 = key
  · rw [he, h, Bool.false_and]
  · rw [bne_iff_ne.2 he, Bool.and_true]

theorem filter_mapValues (test : String → Bool) (f : α → β) (d : Dict α) :
    (mapValues f d).filter (fun e => test e.1) = mapValues f (d.filter (fun e => test e.1)) := by
  rw [mapValues, List.filter_map]
  rfl

/-- Dictionaries that agree under all keys but the given ones. -/
def AgreeApart (keys : List String) (d e : Dict α) : Prop :=
  ∀ key, key ∉ keys → get? e key = get? d key

theorem AgreeApart.refl (keys : List String) (d : Dict α) : AgreeApart keys d d :=
  fun _ _ => rfl

theorem AgreeApart.insert {keys : List String} {key : String} {d e : Dict α}
    (h : AgreeApart keys d e) (hkey : key ∈ keys) (value : α) :
    AgreeApart keys d (Dict.insert key value e) := by
  intro other hother
  have hne : other ≠ key := fun heq => hother (heq ▸ hkey)
  rw [get?_insert_of_ne hne, h other hother]

/-- An insertion keeps the keys ascending. -/
theorem Sorted.insert (h : d.Sorted) (key : String) (value : α) :
    (Dict.insert key value d).Sorted := by
  induction d with
  | nil => exact List.pairwise_singleton _ _
  | cons first rest ih =>
      obtain ⟨k, v⟩ := first
      obtain ⟨hfirst, hrest⟩ := List.pairwise_cons.1 h
      unfold Dict.insert
      split
      case isTrue hlt =>
        refine List.pairwise_cons.2 ⟨fun e he => ?_, h⟩
        rcases List.mem_cons.1 he with rfl | he
        · exact hlt
        · exact String.lt_trans hlt (hfirst e he)
      case isFalse hnot =>
        split
        case isTrue heq =>
          subst heq
          exact List.pairwise_cons.2 ⟨hfirst, hrest⟩
        case isFalse hne =>
          refine List.pairwise_cons.2 ⟨fun e he => ?_, ih hrest⟩
          rcases eq_or_mem_of_mem_insert he with rfl | he
          · exact String.not_le.1 (fun hle => hne (String.le_antisymm hle (String.not_lt.1 hnot)))
          · exact hfirst e he

/-- Insertions in turn keep the keys ascending. -/
theorem Sorted.insertAll (h : d.Sorted) (entries : List (String × α)) :
    (entries.foldl (fun d e => Dict.insert e.1 e.2 d) d).Sorted := by
  induction entries generalizing d with
  | nil => exact h
  | cons e rest ih => exact ih (h.insert e.1 e.2)

/-- A change of the values keeps the keys ascending. -/
theorem Sorted.mapValues (h : d.Sorted) (f : α → β) : (Dict.mapValues f d).Sorted :=
  List.pairwise_map.2 h

/-- Leaving entries out keeps the keys ascending. -/
theorem Sorted.withoutExtensions (h : d.Sorted) : (Dict.withoutExtensions d).Sorted :=
  h.filter _

/-- No two entries have one key. -/
theorem Sorted.nodup_keys (h : d.Sorted) : d.keys.Nodup :=
  List.pairwise_map.2 (h.imp (fun hlt => String.ne_of_lt hlt))

/-- The look-up of a key finds its entry. -/
theorem Sorted.get?_eq_some (h : d.Sorted) {key : String} {value : α} (he : (key, value) ∈ d) :
    d.get? key = some value :=
  lookup_eq_some_of_mem h.nodup_keys he

/-- What stands under a key may be put in again. -/
theorem Sorted.insert_eq_self (h : d.Sorted) {key : String} {value : α}
    (hfound : d.get? key = some value) : Dict.insert key value d = d := by
  induction d with
  | nil => cases hfound
  | cons first rest ih =>
      obtain ⟨k, v⟩ := first
      obtain ⟨hfirst, hrest⟩ := List.pairwise_cons.1 h
      rw [get?, List.lookup_cons] at hfound
      by_cases heq : key = k
      · subst heq
        rw [beq_self_eq_true] at hfound
        obtain rfl := Option.some.inj hfound
        rw [Dict.insert, if_neg (String.lt_irrefl _), if_pos rfl]
      · rw [beq_eq_false_iff_ne.2 heq] at hfound
        have hmem : (key, value) ∈ rest := by
          obtain ⟨before, after, rfl, -⟩ := List.lookup_eq_some_iff.1 hfound
          exact List.mem_append_right _ List.mem_cons_self
        have hlt : ¬ key < k := fun hlt =>
          String.lt_irrefl _ (String.lt_trans hlt (hfirst _ hmem))
        rw [Dict.insert, if_neg hlt, if_neg heq, ih hrest hfound]

/-- An entry with a new key joins the others. -/
theorem insert_perm {key : String} {value : α} (h : key ∉ d.keys) :
    (insert key value d).Perm ((key, value) :: d) := by
  induction d with
  | nil => exact List.Perm.refl _
  | cons first rest ih =>
      obtain ⟨k, v⟩ := first
      obtain ⟨hne, hrest⟩ : key ≠ k ∧ key ∉ keys rest := not_or.1 (mt List.mem_cons.2 h)
      rw [insert, if_neg hne]
      split
      · exact List.Perm.refl _
      · exact ((ih hrest).cons (k, v)).trans (List.Perm.swap _ _ _)

/-- Entries with distinct keys all stay. -/
theorem ofEntries_perm {entries : List (String × α)} (h : (entries.map Prod.fst).Nodup) :
    (ofEntries entries).Perm entries := by
  have hfold : ∀ (rest : List (String × α)) (d : Dict α), ((d ++ rest).map Prod.fst).Nodup →
      (rest.foldl (fun d e => insert e.1 e.2 d) d).Perm (d ++ rest) := by
    intro rest
    induction rest with
    | nil => exact fun d _ => (List.append_nil d).symm ▸ List.Perm.refl d
    | cons e rest ih =>
        intro d hd
        have hmiddle : ((e :: (d ++ rest)).map Prod.fst).Nodup :=
          (List.perm_middle.map Prod.fst).nodup_iff.1 hd
        have hnew : e.1 ∉ d.keys := by
          intro hmem
          rw [List.map_cons, List.nodup_cons, List.map_append] at hmiddle
          exact hmiddle.1 (List.mem_append_left _ hmem)
        have hperm : (insert e.1 e.2 d ++ rest).Perm (e :: (d ++ rest)) :=
          (insert_perm hnew).append_right rest
        rw [List.foldl_cons]
        refine (ih _ ((hperm.map Prod.fst).nodup_iff.2 hmiddle)).trans ?_
        exact hperm.trans List.perm_middle.symm
  exact hfold entries [] h

end Dict

/-- A field that is read as a dictionary has ascending keys. -/
theorem Field.dict_sorted (name : String) (entries : Dict Value) :
    (Field.dict name entries).Sorted := by
  unfold Field.dict
  refine List.foldlRecOn (motive := Dict.Sorted) _ _ List.Pairwise.nil (fun d hd v _ => ?_)
  -- a mapping is put into what is there, and anything else starts again from nothing
  cases v with
  | mapping es => exact hd.insertAll es
  | _ => exact List.Pairwise.nil

end TypedClient

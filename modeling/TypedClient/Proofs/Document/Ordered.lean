import TypedClient.Proofs.Document.Dict

/-!
# Ordered documents

The keys of every mapping in a document strictly ascend, so no key is there twice. `isOrdered`
says this of a whole value, and the normal form of a document keeps it. In an ordered mapping whose
keys write a field exactly, `Field.all` finds what is stored under the name of the field and
nothing else.
-/

namespace TypedClient

instance {α : Type} (d : Dict α) : Decidable d.Sorted :=
  inferInstanceAs (Decidable (List.Pairwise _ _))

namespace Value

mutual

/-- Whether the keys of every mapping in a value strictly ascend. -/
def isOrdered : Value → Bool
  | .list items => itemsOrdered items
  | .mapping entries => decide (Dict.Sorted entries) && entriesOrdered entries
  | .null | .bool _ | .int _ | .int64 _ | .uint _ | .float _ | .text _ => true

/-- Whether the items of a list are ordered. -/
def itemsOrdered : List Value → Bool
  | [] => true
  | v :: rest => v.isOrdered && itemsOrdered rest

/-- Whether the values of entries are ordered. -/
def entriesOrdered : List (String × Value) → Bool
  | [] => true
  | (_, v) :: rest => v.isOrdered && entriesOrdered rest

end

/-- Induction over a value: what passes from the parts of a value to the value holds of every
value. -/
theorem induction_on_parts {P : Value → Prop}
    (scalar : ∀ v : Value, v.list? = none → v.mapping? = none → P v)
    (list : ∀ items, (∀ v ∈ items, P v) → P (.list items))
    (mapping : ∀ entries : Dict Value, (∀ e ∈ entries, P e.2) → P (.mapping entries))
    (v : Value) : P v :=
  @Value.rec P (fun items => ∀ v ∈ items, P v) (fun entries => ∀ e ∈ entries, P e.2)
    (fun e => P e.2)
    (scalar _ rfl rfl) (fun _ => scalar _ rfl rfl) (fun _ => scalar _ rfl rfl)
    (fun _ => scalar _ rfl rfl) (fun _ => scalar _ rfl rfl) (fun _ => scalar _ rfl rfl)
    (fun _ => scalar _ rfl rfl) list mapping
    (fun _ h => absurd h List.not_mem_nil)
    (fun _ _ hv hrest => List.forall_mem_cons.2 ⟨hv, hrest⟩)
    (fun _ h => absurd h List.not_mem_nil)
    (fun _ _ he hrest => List.forall_mem_cons.2 ⟨he, hrest⟩)
    (fun _ _ hv => hv) v

theorem isOrdered_list {items : List Value} :
    (list items).isOrdered = true ↔ ∀ v ∈ items, v.isOrdered = true := by
  rw [isOrdered]
  induction items with
  | nil => simp [itemsOrdered]
  | cons v rest ih => rw [itemsOrdered, Bool.and_eq_true, ih, List.forall_mem_cons]

theorem isOrdered_mapping {entries : Dict Value} :
    (mapping entries).isOrdered = true ↔
      entries.Sorted ∧ ∀ e ∈ entries, e.2.isOrdered = true := by
  have hall : ∀ entries : Dict Value,
      entriesOrdered entries = true ↔ ∀ e ∈ entries, e.2.isOrdered = true := by
    intro entries
    induction entries with
    | nil => simp [entriesOrdered]
    | cons e rest ih => rw [entriesOrdered, Bool.and_eq_true, ih, List.forall_mem_cons]
  rw [isOrdered, Bool.and_eq_true, decide_eq_true_iff, hall]

end Value

/-- The entries of an ordered mapping. -/
def Dict.Ordered (d : Dict Value) : Prop :=
  (Value.mapping d).isOrdered = true

namespace Dict

variable {d : Dict Value} {key : String} {v : Value}

theorem ordered_iff : d.Ordered ↔ d.Sorted ∧ ∀ e ∈ d, e.2.isOrdered = true :=
  Value.isOrdered_mapping

theorem ordered_nil : Ordered [] := rfl

theorem Ordered.sorted (h : d.Ordered) : d.Sorted :=
  (ordered_iff.1 h).1

theorem Ordered.insert (h : d.Ordered) (hv : v.isOrdered = true) :
    (Dict.insert key v d).Ordered := by
  obtain ⟨hsorted, hall⟩ := ordered_iff.1 h
  refine ordered_iff.2 ⟨hsorted.insert key v, fun e he => ?_⟩
  rcases eq_or_mem_of_mem_insert he with rfl | he
  · exact hv
  · exact hall e he

theorem Ordered.filter (h : d.Ordered) (test : String × Value → Bool) :
    Ordered (d.filter test) := by
  obtain ⟨hsorted, hall⟩ := ordered_iff.1 h
  exact ordered_iff.2 ⟨List.Pairwise.filter _ hsorted,
    fun e he => hall e (List.mem_filter.1 he).1⟩

/-- What is found in an ordered mapping is ordered. -/
theorem Ordered.get? (h : d.Ordered) (hv : Dict.get? d key = some v) : v.isOrdered = true := by
  obtain ⟨before, after, rfl, -⟩ := List.lookup_eq_some_iff.1 hv
  exact (ordered_iff.1 h).2 (key, v) (List.mem_append_right _ List.mem_cons_self)

/-- The items of a list in an ordered mapping are ordered. -/
theorem Ordered.listed (h : d.Ordered) :
    ∀ v ∈ ((Dict.get? d key).bind Value.list?).getD [], v.isOrdered = true := by
  intro v hv
  cases hfound : Dict.get? d key with
  | none =>
      rw [hfound] at hv
      cases hv
  | some w =>
      rw [hfound] at hv
      cases w with
      | list items => exact Value.isOrdered_list.1 (h.get? hfound) v hv
      | _ => cases hv

/-- A dictionary of ordered values is ordered. -/
theorem ordered_ofEntries {entries : List (String × Value)}
    (h : ∀ e ∈ entries, e.2.isOrdered = true) : (Dict.ofEntries entries).Ordered := by
  have hadd : ∀ (entries : List (String × Value)) (d : Dict Value), d.Ordered →
      (∀ e ∈ entries, e.2.isOrdered = true) →
      (entries.foldl (fun d e => Dict.insert e.1 e.2 d) d).Ordered := by
    intro entries
    induction entries with
    | nil => exact fun d hd _ => hd
    | cons e rest ih =>
        intro d hd hall
        obtain ⟨he, hrest⟩ := List.forall_mem_cons.1 hall
        exact ih _ (hd.insert he) hrest
  exact hadd entries [] ordered_nil h

end Dict

namespace Value

variable {v w : Value} {key : String}

theorem field_mapping {d : Dict Value} (h : Dict.get? d key = some v) :
    (mapping d).field key = v :=
  congrArg (fun found => found.getD Value.null) h

/-- A field that has entries is found. -/
theorem get?_of_entries_ne_nil (h : (v.field key).entries ≠ []) :
    v.get? key = some (v.field key) := by
  unfold field at h ⊢
  cases hfound : v.get? key with
  | none =>
      rw [hfound] at h
      exact absurd rfl h
  | some w => rfl

/-- What has entries is a mapping. -/
theorem eq_mapping_of_entries_ne_nil (h : v.entries ≠ []) : v = .mapping v.entries := by
  cases v with
  | mapping entries => rfl
  | _ => exact absurd rfl h

theorem ordered_entries (h : v.isOrdered = true) : v.entries.Ordered := by
  cases v with
  | mapping entries => exact h
  | _ => exact Dict.ordered_nil

theorem isOrdered_field (h : v.isOrdered = true) (key : String) :
    (v.field key).isOrdered = true := by
  unfold field Value.get?
  cases hfound : Dict.get? v.entries key with
  | none => rfl
  | some w => exact (ordered_entries h).get? hfound

/-! ## The normal form keeps a document ordered -/

theorem ordered_foldTypes {d : Dict Value} (h : d.Ordered) : (foldTypes d).Ordered := by
  unfold foldTypes
  split
  · exact h
  · dsimp only
    have hflagged : ∀ b : Bool,
        (if b then Dict.insert "nullable" (.bool true) d else d).Ordered := by
      intro b
      split
      · exact h.insert rfl
      · exact h
    split
    · exact (hflagged _).filter _
    · exact (hflagged _).insert rfl

theorem ordered_dropBound {d : Dict Value} (h : d.Ordered) (key : String) :
    (dropBound key d).Ordered := by
  unfold dropBound
  split
  · split
    · exact h.filter _
    · exact h
  · exact h

theorem fold_of_scalar (hlist : v.list? = none) (hmapping : v.mapping? = none) : v.fold = v := by
  cases v with
  | list => cases hlist
  | mapping => cases hmapping
  | _ => rw [fold]

theorem foldItems_eq_map (items : List Value) : foldItems items = items.map fold := by
  induction items with
  | nil => rfl
  | cons v rest ih => rw [foldItems, ih, List.map_cons]

theorem foldEntries_eq_mapValues (entries : Dict Value) :
    foldEntries entries = Dict.mapValues fold entries := by
  induction entries with
  | nil => rfl
  | cons e rest ih =>
      rw [foldEntries, ih]
      rfl

/-- Folding keywords keeps a value ordered. -/
theorem isOrdered_fold (v : Value) (h : v.isOrdered = true) : v.fold.isOrdered = true := by
  induction v using induction_on_parts with
  | scalar v hlist hmapping =>
      rw [fold_of_scalar hlist hmapping]
      exact h
  | list items ih =>
      rw [fold, foldItems_eq_map, isOrdered_list, List.forall_mem_map]
      exact fun v hv => ih v hv (isOrdered_list.1 h v hv)
  | mapping entries ih =>
      -- the values are folded first, and then the keywords of the mapping itself
      obtain ⟨hsorted, hall⟩ := isOrdered_mapping.1 h
      have hfolded : (Dict.mapValues fold entries).Ordered :=
        Dict.ordered_iff.2 ⟨hsorted.mapValues fold,
          List.forall_mem_map.2 (fun e he => ih e he (hall e he))⟩
      rw [fold, foldEntries_eq_mapValues]
      exact ordered_dropBound (ordered_dropBound (ordered_foldTypes hfolded) _) _

theorem isOrdered_dropPathExtensions (h : v.isOrdered = true) :
    v.dropPathExtensions.isOrdered = true := by
  cases v with
  | mapping entries =>
      unfold dropPathExtensions
      dsimp only
      split
      case h_1 paths hpaths =>
        obtain ⟨w, hw, hmapping⟩ := Option.bind_eq_some_iff.1 hpaths
        refine Dict.Ordered.insert h (Dict.Ordered.filter (d := paths) ?_ _)
        cases w with
        | mapping =>
            cases hmapping
            exact Dict.Ordered.get? h hw
        | _ => cases hmapping
      case h_2 => exact h
  | _ => exact h

/-- The normal form of an ordered document is ordered. -/
theorem isOrdered_normalize (h : v.isOrdered = true) : v.normalize.isOrdered = true :=
  isOrdered_fold _ (isOrdered_dropPathExtensions h)

end Value

/-! ## Fields that are written exactly -/

namespace Dict

variable {α : Type} {d : Dict α}

/-- A key above all others goes to the end. -/
theorem insert_eq_concat {key : String} {value : α} (h : ∀ e ∈ d, e.1 < key) :
    Dict.insert key value d = d ++ [(key, value)] := by
  induction d with
  | nil => rfl
  | cons first rest ih =>
      obtain ⟨k, v⟩ := first
      obtain ⟨hfirst, hrest⟩ := List.forall_mem_cons.1 h
      rw [Dict.insert, if_neg (fun hlt => String.lt_irrefl _ (String.lt_trans hlt hfirst)),
        if_neg (String.ne_of_lt hfirst).symm, ih hrest, List.cons_append]

/-- Sorted entries that are put in one after the other stay as they are. -/
theorem Sorted.foldl_insert {entries : List (String × α)} (h : Sorted (d ++ entries)) :
    entries.foldl (fun d e => Dict.insert e.1 e.2 d) d = d ++ entries := by
  induction entries generalizing d with
  | nil => exact (List.append_nil d).symm
  | cons e rest ih =>
      have habove : ∀ e' ∈ d, e'.1 < e.1 :=
        fun e' he' => (List.pairwise_append.1 h).2.2 e' he' e List.mem_cons_self
      rw [List.append_cons] at h ⊢
      rw [List.foldl_cons, insert_eq_concat habove]
      exact ih h

end Dict

namespace Field

variable {name : String} {entries : Dict Value}

/-- Every key that matches a field is written as its name. -/
def Exact (name : String) (entries : Dict Value) : Prop :=
  ∀ e ∈ entries, isFor name e.1 = true → e.1 = name

instance (name : String) (entries : Dict Value) : Decidable (Exact name entries) :=
  inferInstanceAs (Decidable (∀ e ∈ entries, _))

/-- Of a field that is written exactly there is at most one value. -/
theorem all_of_exact (hsorted : entries.Sorted) (h : Exact name entries) :
    all name entries = (Dict.get? entries name).toList := by
  have hself : isFor name name = true := by simp [isFor]
  induction entries with
  | nil => rfl
  | cons e rest ih =>
      obtain ⟨key, v⟩ := e
      obtain ⟨habove, hsorted⟩ := List.pairwise_cons.1 hsorted
      obtain ⟨hkey, hrest⟩ := List.forall_mem_cons.1 h
      by_cases heq : key = name
      · subst heq
        -- the keys behind this one are above it, so none of them is the field again
        have hnone : rest.filter (fun e => isFor key e.1) = [] := by
          refine List.filter_eq_nil_iff.2 (fun e he hfor => ?_)
          have hlt := habove e he
          rw [hrest e he hfor] at hlt
          exact String.lt_irrefl _ hlt
        rw [all, List.filter_cons, if_pos hself, hnone, Dict.get?, List.lookup_cons_self]
        rfl
      · have hskip : ¬ isFor name key = true := fun hfor => heq (hkey hfor)
        have hlookup : Dict.get? ((key, v) :: rest) name = Dict.get? rest name := by
          rw [Dict.get?, List.lookup_cons, beq_eq_false_iff_ne.2 (Ne.symm heq)]
          rfl
        rw [hlookup, ← ih hsorted hrest, all, List.filter_cons, if_neg hskip]
        rfl

theorem value_of_exact (hsorted : entries.Sorted) (h : Exact name entries) :
    value name entries = (Dict.get? entries name).getD .null := by
  rw [value, all_of_exact hsorted h]
  cases Dict.get? entries name <;> rfl

theorem text_of_exact (hsorted : entries.Sorted) (h : Exact name entries) :
    text name entries = ((Dict.get? entries name).getD .null).textOrEmpty := by
  rw [text, all_of_exact hsorted h]
  cases Dict.get? entries name with
  | none => rfl
  | some v => cases v <;> rfl

theorem list_of_exact (hsorted : entries.Sorted) (h : Exact name entries) :
    list name entries = ((Dict.get? entries name).bind Value.list?).getD [] := by
  rw [list, value_of_exact hsorted h]
  cases Dict.get? entries name <;> rfl

/-- The entries of a field that is written exactly are those that are stored. -/
theorem dict_of_exact (hordered : entries.Ordered) (h : Exact name entries) :
    dict name entries = ((Dict.get? entries name).getD .null).entries := by
  rw [dict, all_of_exact hordered.sorted h]
  cases hfound : Dict.get? entries name with
  | none => rfl
  | some v =>
      cases v with
      | mapping stored =>
          have hstored : Dict.Sorted ([] ++ stored) :=
            (Value.ordered_entries (hordered.get? hfound)).sorted
          exact hstored.foldl_insert
      | _ => rfl

end Field

end TypedClient

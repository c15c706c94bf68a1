import TypedClient.Proofs.Document.BodyMerge
import TypedClient.Proofs.Draft.Anonymous
import TypedClient.Proofs.Draft.Told
import TypedClient.TypeScript.Method

/-!
# One body per operation

The method of an operation sends the first of its bodies. `ofDocument_one_body` says when this
loses nothing. An operation of version 3 has at most one body. One of version 2 has at most one
where mending sees all of its content, and where there is only one way in which it sends any.

Mending counts what stands in the list of a call. A body that is described elsewhere or that
belongs to the path is not counted, and `second_body` shows what comes of it when there is another.
-/

namespace TypedClient

/-- A mapping in a field stands under a key that matches the field. -/
theorem Field.exists_of_value {name : String} {entries d : Dict Value}
    (h : value name entries = .mapping d) :
    ∃ key, (key, .mapping d) ∈ entries ∧ isFor name key = true := by
  unfold value at h
  cases hlast : (all name entries).getLast? with
  | none =>
      rw [hlast] at h
      cases h
  | some v =>
      rw [hlast] at h
      obtain rfl : v = .mapping d := h
      obtain ⟨⟨key, v⟩, he, rfl⟩ := List.mem_map.1 (List.mem_of_getLast? hlast)
      obtain ⟨he, hfor⟩ := List.mem_filter.1 he
      exact ⟨key, he, hfor⟩

namespace Parameter

/-- The number of bodies among parameters. -/
def bodyCount (ps : List Parameter) : Nat :=
  ps.countP (fun p => p.location = .body)

theorem bodyCount_append (ps qs : List Parameter) :
    bodyCount (ps ++ qs) = bodyCount ps + bodyCount qs :=
  List.countP_append

/-- The number of bodies is told by the locations. -/
theorem bodyCount_of_locations {ps qs : List Parameter}
    (h : ps.map Parameter.location = qs.map Parameter.location) : bodyCount ps = bodyCount qs := by
  have hcount : ∀ ps : List Parameter,
      bodyCount ps = (ps.map Parameter.location).countP (fun l => l = .body) := by
    intro ps
    rw [bodyCount, List.countP_map]
    rfl
  rw [hcount, hcount, h]

/-- A parameter that is placed adds no body but itself. -/
theorem bodyCount_replaceLast? {p : Parameter} {ps replaced : List Parameter}
    (h : replaceLast? p ps = some replaced) :
    bodyCount replaced ≤ bodyCount ps + bodyCount [p] := by
  induction ps generalizing replaced with
  | nil => cases h
  | cons first rest ih =>
      rw [← List.singleton_append, bodyCount_append]
      unfold replaceLast? at h
      split at h
      case h_1 replaced' hrest =>
        cases h
        rw [← List.singleton_append, bodyCount_append]
        have := ih hrest
        omega
      case h_2 =>
        split at h
        · cases h
          rw [← List.singleton_append, bodyCount_append]
          omega
        · cases h

theorem bodyCount_place (ps : List Parameter) (p : Parameter) :
    bodyCount (place ps p) ≤ bodyCount ps + bodyCount [p] := by
  unfold place
  cases hreplaced : replaceLast? p ps with
  | none => exact (bodyCount_append ps [p]).le
  | some replaced => exact bodyCount_replaceLast? hreplaced

/-- Merging adds no bodies. -/
theorem bodyCount_merge (ofPath own : List Parameter) :
    bodyCount (merge ofPath own) ≤ bodyCount ofPath + bodyCount own := by
  have hplaced : bodyCount (own.foldl place ofPath) ≤ bodyCount ofPath + bodyCount own := by
    induction own generalizing ofPath with
    | nil => exact Nat.le_refl _
    | cons first rest ih =>
        rw [List.foldl_cons, ← List.singleton_append, bodyCount_append]
        have := bodyCount_place ofPath first
        have := ih (place ofPath first)
        omega
  have hsettled : bodyCount ((own.foldl place ofPath).map settle) =
      bodyCount (own.foldl place ofPath) := by
    refine bodyCount_of_locations ?_
    rw [List.map_map]
    refine List.map_congr_left (fun p _ => ?_)
    unfold Function.comp settle
    split <;> rfl
  have hsorted := List.countP_eq_countP_filter_add ((own.foldl place ofPath).map settle)
    (fun p => p.location = .body) Parameter.required
  rw [merge, requiredFirst, bodyCount_append]
  exact (hsorted.symm.trans hsettled).trans_le hplaced

/-- Where there is at most one body, every body is the first. -/
theorem find?_of_bodyCount {ps : List Parameter} (hcount : bodyCount ps ≤ 1) {p : Parameter}
    (hp : p ∈ ps) (hbody : p.location = .body) :
    ps.find? (fun p => p.location = .body) = some p := by
  have hmem : p ∈ ps.filter (fun p => p.location = .body) :=
    List.mem_filter.2 ⟨hp, decide_eq_true hbody⟩
  rw [bodyCount, List.countP_eq_length_filter] at hcount
  rw [← List.head?_filter]
  cases hbodies : ps.filter (fun p => p.location = .body) with
  | nil =>
      rw [hbodies] at hmem
      cases hmem
  | cons first rest =>
      rw [hbodies, List.length_cons] at hcount
      obtain rfl : rest = [] := List.length_eq_zero_iff.1 (by omega)
      rw [hbodies] at hmem
      rw [List.mem_singleton.1 hmem, List.head?_cons]

end Parameter

namespace V2

/-! ## Bodies of version 2 -/

/-- The entries of the call under a method. -/
def callAt (m : Method) (item : Dict Value) : Dict Value :=
  (Field.value m.label item).entries

/-- The place of a parameter in lower case, as it is written where the parameter is described. -/
def Parameter.describedPlace (doc : Value) (p : Parameter) : String :=
  if p.ref = "" then Text.lower p.location
  else match doc.dereference "" p.ref with
    | .ok (_, v) => Text.lower (Parameter.ofEntries v.entries).location
    | .error _ => ""

/-- The places of listed parameters, in lower case. -/
def placesOf (doc : Value) (es : Dict Value) : List String :=
  (Field.list "parameters" es).map
    (fun v => (Parameter.ofEntries v.entries).describedPlace doc)

/-- The places of content. -/
def contentPlaces : List String :=
  ["body", "formdata"]

/-- In how many ways parameters at some places send content: each body is one, and the form is
one. -/
def waysOf (places : List String) : Nat :=
  places.count "body" + if "formdata" ∈ places then 1 else 0

/-- A call sends content in at most one way, by its own parameters and those of its path. -/
def OneWay (doc : Value) (item : Dict Value) (m : Method) : Prop :=
  waysOf (placesOf doc item ++ placesOf doc (callAt m item)) ≤ 1

/-- Mending sees all content of a call: the call is known for one, its path sends no content, and
its own content stands in its list, under the keys where mending looks for it. -/
@[mk_iff]
structure Seen (doc : Value) (item : Dict Value) (m : Method) : Prop where
  named : ∀ e ∈ item, Field.isFor m.label e.1 = true → BodyMerge.namesOperation e.1 = true
  shared : ∀ place ∈ placesOf doc item, place ∉ contentPlaces
  parameters : Field.Exact "parameters" (callAt m item)
  place : ∀ v ∈ Field.list "parameters" (callAt m item), Field.Exact "in" v.entries
  described : ∀ v ∈ Field.list "parameters" (callAt m item),
    (Parameter.ofEntries v.entries).ref ≠ "" →
      (Parameter.ofEntries v.entries).describedPlace doc ∉ contentPlaces

instance (doc : Value) (item : Dict Value) (m : Method) : Decidable (Seen doc item m) :=
  decidable_of_iff' _ (seen_iff doc item m)

/-- Mending sees all content of each call of a path, or the call sends content in at most one way.
Behind the reference of a path nothing is mended. -/
@[mk_iff]
structure PathMended (doc : Value) (item : Dict Value) : Prop where
  inPlace : (PathItem.ofEntries item).ref = "" →
    ∀ m ∈ methods, Seen doc item m ∨ OneWay doc item m
  elsewhere : (PathItem.ofEntries item).ref ≠ "" →
    ∀ target ∈ (doc.dereference "" (PathItem.ofEntries item).ref).toOption,
      ∀ m ∈ methods, OneWay doc target.2.entries m

instance (doc : Value) (item : Dict Value) (m : Method) : Decidable (OneWay doc item m) :=
  inferInstanceAs (Decidable (_ ≤ _))

instance (doc : Value) (item : Dict Value) : Decidable (PathMended doc item) :=
  decidable_of_iff' _ (pathMended_iff doc item)

/-- The paths of a document are found where mending looks for them, and are mended. -/
@[mk_iff]
structure PathsMended (doc : Value) : Prop where
  paths : Field.Exact "paths" doc.entries
  items : ∀ e ∈ (doc.field "paths").entries, PathMended doc e.2.entries

instance (doc : Value) : Decidable (PathsMended doc) :=
  decidable_of_iff' _ (pathsMended_iff doc)

namespace Parameter

variable {doc : Value} {consumes : List String} {pointer place : String}

/-- A settled parameter has the place that is written where it is described. -/
theorem lower_settle {p q : Parameter} (h : p.settle doc pointer = .ok (q, place)) :
    Text.lower q.location = p.describedPlace doc := by
  unfold settle at h
  unfold describedPlace
  split at h
  case isTrue href =>
    cases h
    rw [if_pos href]
  case isFalse href =>
    obtain ⟨v, hchase, rfl⟩ := Value.dereference_of_readTarget h ""
    rw [if_neg href, hchase]

/-- Whether a role is that of a body. -/
def Role.isBody : Role → Bool
  | .plain p => p.location = .body
  | _ => false

/-- Whether a role is that of a part of the form. -/
def Role.isForm : Role → Bool
  | .form _ => true
  | _ => false

theorem lower_of_isBody (p : Parameter) (place : String) (r : Role)
    (hr : p.role doc consumes place = .ok r) (h : r.isBody = true) :
    Text.lower p.location = "body" := by
  cases r with
  | plain q =>
      obtain ⟨hlocation, -, -⟩ | ⟨-, hne, -⟩ := role_eq_plain hr
      · exact hlocation
      · exact absurd (of_decide_eq_true h) hne
  | _ => cases h

theorem lower_of_isForm (p : Parameter) (place : String) (r : Role)
    (hr : p.role doc consumes place = .ok r) (h : r.isForm = true) :
    Text.lower p.location = "formdata" := by
  cases r with
  | form q => exact (role_eq_form hr).1
  | _ => cases h

/-- The roles of one sort are no more than the listed parameters that can have them. -/
theorem countP_roles_le {test : Role → Bool} {raw : Value → Bool} {i : Nat} {vs : List Value}
    {rs : List Role} (h : roles doc consumes pointer i
      (vs.map (Field.optional Parameter.ofEntries)) = .ok rs)
    (htest : ∀ v ∈ vs, v.mapping?.isSome = true → ∀ (q : Parameter) (place : String),
      Text.lower q.location = (Parameter.ofEntries v.entries).describedPlace doc →
      ∀ r, q.role doc consumes place = .ok r → test r = true → raw v = true) :
    rs.countP test ≤ vs.countP raw := by
  induction vs generalizing i rs with
  | nil =>
      cases h
      exact Nat.le_refl _
  | cons v rest ih =>
      obtain ⟨hv, hrest⟩ := List.forall_mem_cons.1 htest
      rw [List.countP_cons]
      cases v with
      | mapping es =>
          obtain ⟨⟨q, place⟩, hsettle, h⟩ := bind_eq_ok_iff.1 h
          obtain ⟨r, hr, h⟩ := bind_eq_ok_iff.1 h
          obtain ⟨rs', hroles, h⟩ := bind_eq_ok_iff.1 h
          cases h
          have hle := ih hroles hrest
          have hfirst := hv rfl q place (lower_settle hsettle) r hr
          rw [List.countP_cons]
          split
          case isTrue hrole =>
            rw [if_pos (hfirst hrole)]
            omega
          case isFalse => omega
      | _ => exact Nat.le_trans (ih h hrest) (Nat.le_add_right _ _)

end Parameter

/-- The bodies among the plain parameters are those among the roles. -/
theorem bodyCount_plainOf (rs : List Parameter.Role) :
    TypedClient.Parameter.bodyCount (plainOf rs) = rs.countP Parameter.Role.isBody := by
  rw [TypedClient.Parameter.bodyCount, plainOf, List.countP_filterMap]
  refine List.countP_congr (fun r _ => ?_)
  cases r <;> simp [Parameter.Role.isBody]

theorem length_formOf (rs : List Parameter.Role) :
    (formOf rs).length = rs.countP Parameter.Role.isForm := by
  induction rs with
  | nil => rfl
  | cons r rest ih =>
      rw [List.countP_cons, ← ih]
      cases r <;> rfl

theorem bodyCount_formBody {consumes : List String} {pointer : String}
    {parts : List TypedClient.Parameter} {body : TypedClient.Parameter}
    (h : formBody consumes pointer parts = .ok body) :
    TypedClient.Parameter.bodyCount [body] = 1 := by
  obtain ⟨properties, -, h⟩ := bind_eq_ok_iff.1 h
  obtain rfl := Except.ok.inj h
  rfl

/-- The bodies of a call are no more than those that are listed, and one for the form if there is
a part of it. -/
theorem bodyCount_parametersFrom {doc : Value} {consumes : List String}
    {itemPointer pointer : String} {shared own : List (Option Parameter)}
    {ps : List TypedClient.Parameter}
    (h : parametersFrom doc consumes itemPointer pointer shared own = .ok ps) :
    ∃ sharedRoles ownRoles,
      Parameter.roles doc consumes (itemPointer ++ "/parameters") 0 shared = .ok sharedRoles ∧
      Parameter.roles doc consumes (pointer ++ "/parameters") 0 own = .ok ownRoles ∧
      TypedClient.Parameter.bodyCount ps ≤
        sharedRoles.countP Parameter.Role.isBody + ownRoles.countP Parameter.Role.isBody +
          if 0 < sharedRoles.countP Parameter.Role.isForm + ownRoles.countP Parameter.Role.isForm
          then 1 else 0 := by
  obtain ⟨sharedRoles, hshared, h⟩ := bind_eq_ok_iff.1 h
  obtain ⟨ownRoles, hown, h⟩ := bind_eq_ok_iff.1 h
  refine ⟨sharedRoles, ownRoles, hshared, hown, ?_⟩
  have hplain := TypedClient.Parameter.bodyCount_merge (plainOf sharedRoles) (plainOf ownRoles)
  rw [bodyCount_plainOf, bodyCount_plainOf] at hplain
  split at h
  case h_1 =>
    cases h
    omega
  case h_2 parts hparts =>
    obtain ⟨body, hbody, h⟩ := bind_eq_ok_iff.1 h
    cases h
    -- parts that are merged come from a list, so one of the two lists has a part of the form
    have hpart : 0 < sharedRoles.countP Parameter.Role.isForm +
        ownRoles.countP Parameter.Role.isForm := by
      rw [← length_formOf, ← length_formOf]
      by_contra hnone
      have hsharedNil : formOf sharedRoles = [] := List.length_eq_zero_iff.1 (by omega)
      have hownNil : formOf ownRoles = [] := List.length_eq_zero_iff.1 (by omega)
      exact hparts (by rw [hsharedNil, hownNil]; rfl)
    have hmerge := TypedClient.Parameter.bodyCount_merge
      (TypedClient.Parameter.merge (plainOf sharedRoles) (plainOf ownRoles)) [body]
    have hone := bodyCount_formBody hbody
    rw [if_pos hpart]
    omega

section Counting

variable {doc : Value} {consumes : List String} {pointer : String} {rs : List Parameter.Role}
  {test : Parameter.Role → Bool} {word : String}

/-- The roles of one sort are no more than the listed parameters at its place. -/
theorem countP_roles_le_count {es : Dict Value}
    (h : Parameter.roles doc consumes pointer 0 (parametersOf es) = .ok rs)
    (htest : ∀ (q : Parameter) (place : String) (r : Parameter.Role),
      q.role doc consumes place = .ok r → test r = true → Text.lower q.location = word) :
    rs.countP test ≤ (placesOf doc es).count word := by
  rw [placesOf, List.count, List.countP_map]
  refine Parameter.countP_roles_le h (fun v _ _ q place hplace r hrole hr => ?_)
  rw [Function.comp_apply, ← hplace, htest q place r hrole hr, beq_self_eq_true]

/-- Where mending sees all content of a call, the roles of one sort are no more than the parameters
that it counts. -/
theorem countP_roles_le_seen {item : Dict Value} {m : Method} (place : String)
    (h : Parameter.roles doc consumes pointer 0 (parametersOf (callAt m item)) = .ok rs)
    (hordered : (callAt m item).Ordered) (hseen : Seen doc item m)
    (htest : ∀ (q : Parameter) (place : String) (r : Parameter.Role),
      q.role doc consumes place = .ok r → test r = true → Text.lower q.location = word)
    (hword : word ∈ contentPlaces)
    (hchars : ∀ c ∈ word.toList, 0 < c.toNat ∧ c.toNat < 0x80 ∧ c ≠ 'i' ∧ c ≠ 'k')
    (hplace : place.toList.map Char.toLower = word.toList) :
    rs.countP test ≤ (BodyMerge.parameters (callAt m item)).countP (BodyMerge.isAt place) := by
  have hlist := Field.list_of_exact hordered.sorted hseen.parameters
  rw [BodyMerge.parameters, ← hlist, List.countP_filter]
  refine Parameter.countP_roles_le h (fun v hv hmapping q there hdescribed r hrole hr => ?_)
  have hlower := htest q there r hrole hr
  have href : (Parameter.ofEntries v.entries).ref = "" := by
    by_contra href
    exact hseen.described v hv href (hdescribed ▸ hlower ▸ hword)
  have hwritten : Text.lower (v.field "in").textOrEmpty = word := by
    have hsorted := (Value.ordered_entries (hordered.listed v (hlist ▸ hv))).sorted
    have htext := Field.text_of_exact hsorted (hseen.place v hv)
    rw [← hlower, hdescribed, Parameter.describedPlace, if_pos href]
    exact congrArg Text.lower htext.symm
  rw [hmapping, Bool.and_true]
  exact Text.sameLetters_of_lower hwritten hchars hplace

end Counting

section Calls

variable {doc : Value} {consumes : List String} {itemPointer pointer : String}
  {item : Dict Value} {m : Method} {ps : List TypedClient.Parameter}

/-- A call that sends content in at most one way has at most one body. -/
theorem bodyCount_of_oneWay (hway : OneWay doc item m)
    (h : parametersFrom doc consumes itemPointer pointer (parametersOf item)
      (parametersOf (callAt m item)) = .ok ps) :
    TypedClient.Parameter.bodyCount ps ≤ 1 := by
  obtain ⟨shared, own, hshared, hown, hle⟩ := bodyCount_parametersFrom h
  have hsharedBody := countP_roles_le_count hshared Parameter.lower_of_isBody
  have hsharedForm := countP_roles_le_count hshared Parameter.lower_of_isForm
  have hownBody := countP_roles_le_count hown Parameter.lower_of_isBody
  have hownForm := countP_roles_le_count hown Parameter.lower_of_isForm
  rw [OneWay, waysOf, List.count_append] at hway
  split at hle
  case isTrue hforms =>
    have hmem : "formdata" ∈ placesOf doc item ++ placesOf doc (callAt m item) := by
      rw [← List.count_pos_iff, List.count_append]
      omega
    rw [if_pos hmem] at hway
    omega
  case isFalse => omega

/-- A call all of whose content mending sees has at most one body when it does not offend. -/
theorem bodyCount_of_seen (hseen : Seen doc item m) (hordered : (callAt m item).Ordered)
    (hoffending : BodyMerge.isOffending (callAt m item) = false)
    (h : parametersFrom doc consumes itemPointer pointer (parametersOf item)
      (parametersOf (callAt m item)) = .ok ps) :
    TypedClient.Parameter.bodyCount ps ≤ 1 := by
  obtain ⟨shared, own, hshared, hown, hle⟩ := bodyCount_parametersFrom h
  have hnone : ∀ word ∈ contentPlaces, (placesOf doc item).count word = 0 :=
    fun word hword => List.count_eq_zero.2 (fun hmem => hseen.shared word hmem hword)
  have hsharedBody := countP_roles_le_count hshared Parameter.lower_of_isBody
  have hsharedForm := countP_roles_le_count hshared Parameter.lower_of_isForm
  rw [hnone _ (by decide)] at hsharedBody hsharedForm
  have hownBody := countP_roles_le_seen "body" hown hordered hseen Parameter.lower_of_isBody
    (by decide) (by simp) (by decide)
  have hownForm := countP_roles_le_seen "formData" hown hordered hseen Parameter.lower_of_isForm
    (by decide) (by simp) (by decide)
  -- what mending leaves is a body or a form, never both
  obtain ⟨hone, hform⟩ := BodyMerge.counts_of_isOffending hoffending
  rw [BodyMerge.bodyCount] at hone hform
  split at hle
  case isTrue hforms =>
    have := hform (by omega)
    omega
  case isFalse => omega

end Calls

/-- The parameters of an operation are those of a call under a method. -/
theorem PathItem.exists_call {doc : Value} {filter : TagFilter} {t : Document}
    {path pointer : String} {es : Dict Value} {ops : List TypedClient.Operation}
    (h : ((PathItem.ofEntries es).operations.filter (fun c => filter.allows c.2.tags)).mapM
      (fun c => c.2.drafted doc t path (PathItem.ofEntries es) pointer c.1) = .ok ops) :
    ∀ op ∈ ops, ∃ m ∈ methods, ∃ consumes, Field.value m.label es = .mapping (callAt m es) ∧
      parametersFrom doc consumes pointer (pointer ++ "/" ++ m.label) (parametersOf es)
        (parametersOf (callAt m es)) = .ok op.parameters := by
  intro op hop
  obtain ⟨⟨m, o⟩, -, hc, ho⟩ := exists_left_of_forall₂ (forall₂_of_mapM h) hop
  obtain ⟨m', hm, hread⟩ := List.mem_filterMap.1 (List.mem_filter.1 hc).1
  obtain ⟨o', hread, heq⟩ := Option.map_eq_some_iff.1 hread
  obtain ⟨rfl, rfl⟩ := Prod.mk.inj heq
  cases hvalue : Field.value m'.label es with
  | mapping call =>
      rw [hvalue] at hread
      cases hread
      obtain ⟨parameters, hparameters, ho⟩ := bind_eq_ok_iff.1 ho
      obtain ⟨responses, -, ho⟩ := bind_eq_ok_iff.1 ho
      obtain rfl := Except.ok.inj ho
      obtain rfl : callAt m' es = call := congrArg Value.entries hvalue
      exact ⟨m', hm, _, hvalue, hparameters⟩
  | _ =>
      rw [hvalue] at hread
      cases hread

/-- The calls of a mended path have at most one body each. -/
theorem PathItem.bodyCount_drafted {doc : Value} {filter : TagFilter} {t : Document}
    {path : String} {es : Dict Value} {ops : List TypedClient.Operation} (hordered : es.Ordered)
    (hmended : PathMended doc es)
    (hcalls : ∀ call ∈ BodyMerge.operationsOf (.mapping es), BodyMerge.isOffending call = false)
    (h : (PathItem.ofEntries es).drafted doc filter t path = .ok ops) :
    ∀ op ∈ ops, TypedClient.Parameter.bodyCount op.parameters ≤ 1 := by
  intro op hop
  obtain ⟨⟨settled, pointer⟩, hsettled, h⟩ := bind_eq_ok_iff.1 (PathItem.drafted_eq .. ▸ h)
  rw [settledItem] at hsettled
  split at hsettled
  -- a path that is described in place was mended with its document
  case isTrue href =>
    obtain ⟨rfl, -⟩ := Prod.mk.inj (Except.ok.inj hsettled)
    obtain ⟨m, hm, consumes, hvalue, hparameters⟩ := exists_call h op hop
    rcases hmended.inPlace href m hm with hseen | hway
    · obtain ⟨key, hkey, hfor⟩ := Field.exists_of_value hvalue
      have hmem : callAt m es ∈ BodyMerge.operationsOf (.mapping es) :=
        List.mem_filterMap.2 ⟨_, List.mem_filter.2 ⟨hkey, hseen.named _ hkey hfor⟩, rfl⟩
      exact bodyCount_of_seen hseen ((Dict.ordered_iff.1 hordered).2 _ hkey)
        (hcalls _ hmem) hparameters
    · exact bodyCount_of_oneWay hway hparameters
  case isFalse href =>
    obtain ⟨v, hchase, rfl⟩ := Value.dereference_of_readTarget hsettled ""
    obtain ⟨m, hm, consumes, -, hparameters⟩ := exists_call h op hop
    have hway := hmended.elsewhere href
    rw [hchase] at hway
    exact bodyCount_of_oneWay (hway _ rfl m hm) hparameters

/-- The operations of a mended document have at most one body each. -/
theorem Document.bodyCount_operations {doc : Value} {filter : TagFilter}
    {ops : List TypedClient.Operation} (hordered : doc.isOrdered = true)
    (hmended : PathsMended doc)
    (hcalls : ∀ e ∈ (doc.field "paths").entries, ∀ call ∈ BodyMerge.operationsOf e.2,
      BodyMerge.isOffending call = false)
    (h : (Document.ofEntries doc.entries).operations doc filter = .ok ops) :
    ∀ op ∈ ops, TypedClient.Parameter.bodyCount op.parameters ≤ 1 := by
  rw [Document.operations_eq] at h
  refine forall_mem_draftedPaths (fun path item ops hitem hops => ?_) h
  obtain ⟨⟨key, v⟩, he, hread⟩ := List.mem_map.1 hitem
  rw [Field.dict_of_exact (Value.ordered_entries hordered) hmended.paths] at he
  cases v with
  | mapping es =>
      cases hread
      have hes := (Dict.ordered_iff.1 (Value.ordered_entries (Value.isOrdered_field hordered
        "paths"))).2 _ he
      exact PathItem.bodyCount_drafted hes (hmended.items _ he) (hcalls _ he) hops
  | _ => cases hread

end V2

namespace V3

/-- A parameter that stands in a list is no body. -/
theorem Parameter.bodyCount_draftedAll {doc : Value} {pointer : String} {i : Nat}
    {ps : List (Option (OrReference Parameter))} {qs : List TypedClient.Parameter}
    (h : draftedAll doc pointer i ps = .ok qs) : TypedClient.Parameter.bodyCount qs = 0 := by
  induction ps generalizing i qs with
  | nil =>
      cases h
      rfl
  | cons first rest ih =>
      cases first with
      | none => exact ih h
      | some r =>
          obtain ⟨⟨p, place⟩, -, h⟩ := bind_eq_ok_iff.1 h
          obtain ⟨drafted, hdrafted, h⟩ := bind_eq_ok_iff.1 h
          obtain ⟨qs', hrest, h⟩ := bind_eq_ok_iff.1 h
          cases h
          rw [TypedClient.Parameter.bodyCount_append, ih hrest, Nat.add_zero]
          cases drafted with
          | none => rfl
          | some q =>
              have hlocation : q.location ≠ .body := by
                unfold Parameter.drafted at hdrafted
                split at hdrafted
                · cases hdrafted
                · cases hdrafted
                case h_3 location hbody _ =>
                  obtain ⟨m, -, h⟩ := bind_eq_ok_iff.1 hdrafted
                  obtain ⟨_, hq, h⟩ := bind_eq_ok_iff.1 h
                  obtain ⟨-, rfl⟩ := TypedClient.Parameter.withModel_eq_ok_iff.1 hq
                  obtain rfl := Option.some.inj (Except.ok.inj h)
                  exact hbody
              simp [TypedClient.Parameter.bodyCount, hlocation]

theorem RequestBody.bodyCount_drafted {doc : Value} {place : String} {b : RequestBody}
    {body : TypedClient.Parameter} (h : b.drafted doc place = .ok body) :
    TypedClient.Parameter.bodyCount [body] = 1 := by
  obtain ⟨m, -, h⟩ := bind_eq_ok_iff.1 h
  obtain rfl := Except.ok.inj h
  rfl

/-- An operation has at most one body, that of its request. -/
theorem Operation.bodyCount_draftedParameters {doc : Value} {pointer : String}
    {shared ps : List TypedClient.Parameter} {o : Operation}
    (hshared : TypedClient.Parameter.bodyCount shared = 0)
    (h : o.draftedParameters doc pointer shared = .ok ps) :
    TypedClient.Parameter.bodyCount ps ≤ 1 := by
  obtain ⟨own, hown, h⟩ := bind_eq_ok_iff.1 h
  have hown := Parameter.bodyCount_draftedAll hown
  have hmerged := TypedClient.Parameter.bodyCount_merge shared own
  split at h
  · cases h
    omega
  · obtain ⟨⟨b, place⟩, -, h⟩ := bind_eq_ok_iff.1 h
    obtain ⟨body, hbody, h⟩ := bind_eq_ok_iff.1 h
    cases h
    have hmerge := TypedClient.Parameter.bodyCount_merge
      (TypedClient.Parameter.merge shared own) [body]
    have hone := RequestBody.bodyCount_drafted hbody
    omega

/-- The operations of a document have at most one body each. -/
theorem Document.bodyCount_operations {doc : Value} {t : Document} {filter : TagFilter}
    {ops : List TypedClient.Operation} (h : t.operations doc filter = .ok ops) :
    ∀ op ∈ ops, TypedClient.Parameter.bodyCount op.parameters ≤ 1 := by
  rw [Document.operations_eq] at h
  refine forall_mem_draftedPaths (fun path item ops _ hitem op hop => ?_) h
  obtain ⟨⟨settled, pointer⟩, -, hitem⟩ := bind_eq_ok_iff.1 (PathItem.drafted_eq .. ▸ hitem)
  obtain ⟨shared, hshared, hcalls⟩ := bind_eq_ok_iff.1 hitem
  obtain ⟨c, -, -, hc⟩ := exists_left_of_forall₂ (forall₂_of_mapM hcalls) hop
  obtain ⟨parameters, hparameters, hc⟩ := bind_eq_ok_iff.1 hc
  obtain ⟨responses, -, hc⟩ := bind_eq_ok_iff.1 hc
  obtain rfl := Except.ok.inj hc
  exact Operation.bodyCount_draftedParameters (Parameter.bodyCount_draftedAll hshared) hparameters

end V3

namespace Version

/-- The calls of a prepared document are mended where they need it. In version 3 none does. -/
def BodiesMended (version : Version) (doc : Value) : Prop :=
  match version with
  | v2 => V2.PathsMended doc
  | v3 => True

instance (version : Version) (doc : Value) : Decidable (version.BodiesMended doc) :=
  match version with
  | v2 => inferInstanceAs (Decidable (V2.PathsMended doc))
  | v3 => inferInstanceAs (Decidable True)

/-- The operations of a mended document have at most one body each. -/
theorem bodyCount_operations {version : Version} {filter : TagFilter} {doc : Value}
    {ops : List Operation} (hordered : doc.isOrdered = true)
    (hmended : version.BodiesMended (version.prepared doc))
    (h : version.operations filter (version.prepared doc) = .ok ops) :
    ∀ op ∈ ops, Parameter.bodyCount op.parameters ≤ 1 := by
  cases version with
  | v2 =>
      refine V2.Document.bodyCount_operations ?_ hmended (fun e => BodyMerge.isOffending_mend) h
      exact BodyMerge.isOrdered_mend (Value.isOrdered_normalize hordered)
  | v3 => exact V3.Document.bodyCount_operations h

end Version

namespace Operation

/-- The places of the parameters of an operation. -/
def locations (op : Operation) : List Location :=
  op.parameters.map Parameter.location

theorem locations_mapModels (f : Model → Model) (op : Operation) :
    (op.mapModels f).locations = op.locations := by
  rw [locations, mapModels, List.map_map]
  rfl

/-- What is told of parameters says where they travel. -/
theorem locations_of_told {op op' : Operation} (h : op.told = op'.told) :
    op.locations = op'.locations := by
  have hlocations : ∀ op : Operation, op.locations = op.told.map Parameter.location := by
    intro op
    rw [locations, told, List.map_map]
    rfl
  rw [hlocations, hlocations, h]

end Operation

namespace Draft

variable {d : Draft}

/-- The operations of a draft have at most one body each. -/
structure OneBody (d : Draft) : Prop where
  bodyCount_le : ∀ op ∈ d.operations, Parameter.bodyCount op.parameters ≤ 1
  /-- Of the bodies that a method of the finished client is given none is lost: what it sends is
  what it would send if it were given that body alone. -/
  sent : ∀ digest out named, d.resolveBy digest = .ok out → out.named = .ok named →
    ∀ s ∈ named.finish.services, ∀ op ∈ s.operations, ∀ p ∈ op.parameters,
      p.location = .body →
        TypeScript.requestBody op = TypeScript.requestBody { op with parameters := [p] }

/-- Resolving, naming and finishing add no bodies. -/
theorem oneBody_of_bodyCount_le
    (h : ∀ op ∈ d.operations, Parameter.bodyCount op.parameters ≤ 1) : OneBody d := by
  refine ⟨h, fun digest out named hout hnamed s hs op hop p hp hbody => ?_⟩
  obtain ⟨before, hbefore, htold⟩ := exists_told hout hnamed hs hop
  have hcount : Parameter.bodyCount op.parameters ≤ 1 :=
    (Parameter.bodyCount_of_locations (Operation.locations_of_told htold)).symm.trans_le
      (h before hbefore)
  have halone : [p].find? (fun p => p.location = .body) = some p :=
    List.find?_cons_of_pos (decide_eq_true hbody)
  simp only [TypeScript.requestBody, halone, Parameter.find?_of_bodyCount hcount hp hbody]

/-- The operations of a mended document have at most one body each, and the methods of the finished
client send it. -/
theorem ofDocument_one_body {version : Version} {filter : TagFilter} {doc : Value}
    (h : ofDocument filter doc = .ok d) (hordered : doc.isOrdered = true)
    (hversion : Version.detect doc = .ok version)
    (hmended : version.BodiesMended (version.prepared doc)) : OneBody d := by
  obtain ⟨version', ops, hversion', hassembled⟩ := exists_assembled h
  obtain rfl := Except.ok.inj (hversion.symm.trans hversion')
  -- lifting models out of an operation leaves its parameters where they travel
  refine oneBody_of_bodyCount_le (fun op hop => ?_)
  obtain ⟨before, hbefore, rfl⟩ := hassembled.mem_operations_iff.1 hop
  rw [Parameter.bodyCount_of_locations (Operation.locations_mapModels Model.lifted before)]
  exact Version.bodyCount_operations hordered hmended hassembled.operations_eq before hbefore

/-- A body parameter of text type. -/
def textBody (name : String) : Value :=
  .mapping
    [("in", .text "body"), ("name", .text name), ("schema", .mapping [("type", .text "string")])]

/-- A form parameter of text type. -/
def textForm (name : String) : Value :=
  .mapping [("in", .text "formData"), ("name", .text name), ("type", .text "string")]

/-- A document of version 2 with a body that is described elsewhere, and with a call that posts
for each path. -/
def posting (calls : List (String × List Value)) : Value :=
  .mapping
    [("info", .mapping [("title", .text "pets"), ("version", .text "1")]),
     ("parameters", .mapping [("Note", textBody "note")]),
     ("paths", .mapping (calls.map (fun c => (c.1, .mapping [("post", .mapping
       [("parameters", .list c.2),
        ("responses", .mapping [("200", .mapping [("description", .text "ok")])])])])))),
     ("swagger", .text "2.0")]

/-- A reference to the body that is described elsewhere. -/
def noteElsewhere : Value :=
  .mapping [("$ref", .text "#/parameters/Note")]

/-- A call with a body beside a form, one whose body is described elsewhere, and one with two
bodies. -/
def posted : Value :=
  posting
    [("/files", [textBody "label", textForm "file"]), ("/notes", [noteElsewhere]),
     ("/pets", [textBody "pet", textBody "note"])]

/-- The calls of `posted` have one body each, as `ofDocument_one_body` says. -/
theorem ofDocument_one_body_posted :
    ∃ d, ofDocument {} posted = .ok d ∧
      d.operations.map (fun op => op.parameters.map (fun p => (p.name, p.location))) =
        [[("formData", .body)], [("note", .body)], [("body", .body)]] ∧ OneBody d := by
  have hd : (ofDocument {} posted).toOption.map (fun d =>
      d.operations.map (fun op => op.parameters.map (fun p => (p.name, p.location)))) =
        some [[("formData", .body)], [("note", .body)], [("body", .body)]] := by decide +kernel
  have hversion : Version.detect posted = .ok .v2 := eq_ok_of_toOption (by decide +kernel)
  have hmended : Version.v2.BodiesMended (Version.v2.prepared posted) := by decide +kernel
  obtain ⟨d, hd, hparameters⟩ := Option.map_eq_some_iff.1 hd
  exact ⟨d, eq_ok_of_toOption hd, hparameters,
    ofDocument_one_body (eq_ok_of_toOption hd) (by decide +kernel) hversion hmended⟩

/-- A call with a body in its list and one that is described elsewhere. -/
def noted : Value :=
  posting [("/pets", [textBody "pet", noteElsewhere])]

/-- The call of `noted` has two bodies. Its method takes both and sends the first. -/
theorem second_body :
    ∃ d out named, ofDocument {} noted = .ok d ∧
      d.operations.map (fun op => Parameter.bodyCount op.parameters) = [2] ∧
      d.resolveBy (fun _ => 0) = .ok out ∧ out.named = .ok named ∧
      (named.finish.services.flatMap Service.operations).map (fun op =>
        (op.parameters.map Parameter.exportName, TypeScript.requestBody op)) =
        [(["pet", "note"],
          "\n            body: pet,\n            mediaType: 'application/json',")] := by
  have hall : (ofDocument {} noted).toOption.bind (fun d =>
      (d.merged (fun _ => 0)).named.toOption.map (fun named =>
        (d.operations.map (fun op => Parameter.bodyCount op.parameters),
          (d.merged (fun _ => 0)).models.isEmpty &&
            (d.merged (fun _ => 0)).danglingOperation?.isNone,
          (named.finish.services.flatMap Service.operations).map (fun op =>
            (op.parameters.map Parameter.exportName, TypeScript.requestBody op))))) =
      some ([2], true, [(["pet", "note"],
        "\n            body: pet,\n            mediaType: 'application/json',")]) := by
    decide +kernel
  obtain ⟨d, hd, hall⟩ := Option.bind_eq_some_iff.1 hall
  obtain ⟨named, hnamed, hfacts⟩ := Option.map_eq_some_iff.1 hall
  simp only [Prod.mk.injEq, Bool.and_eq_true, List.isEmpty_iff, Option.isNone_iff_eq_none]
    at hfacts
  obtain ⟨hcount, ⟨hmodels, hdangling⟩, htexts⟩ := hfacts
  have hempty : ∀ e : Draft, e.models = [] → e = { e with models := marked [] [] e.models } := by
    rintro ⟨⟩ rfl
    rfl
  have hout : d.resolveBy (fun _ => 0) = .ok (d.merged (fun _ => 0)) :=
    resolveBy_eq_ok_iff.2 ⟨[], by rw [hmodels]; rfl, hdangling, hempty _ hmodels⟩
  exact ⟨d, _, named, eq_ok_of_toOption hd, hcount, hout, eq_ok_of_toOption hnamed, htexts⟩

end Draft

end TypedClient

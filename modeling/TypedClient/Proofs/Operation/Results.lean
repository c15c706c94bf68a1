import TypedClient.Operation.Status
import TypedClient.Proofs.Draft.Order

/-!
# Successes and failures

The results of an operation are made from its responses in status order. `results_sifted` says
which: at most one response is the success, and it comes first. The failures behind it are all
other responses that can be failures, in status order. When no two responses have one status, the
order in which they are declared does not matter.

The responses carry their positions while the success is looked for. `exists_chosen` turns the
position that is found into a split of the list at the success, and all else is said of that split.
-/

namespace TypedClient

namespace Status

/-- A status that can be that of the success: a number from 200 to 299, the range of these numbers
or the default. -/
inductive MaySucceed : Status → Prop where
  | explicit {code : Int} (h : 200 ≤ code ∧ code < 300) : MaySucceed (explicit code)
  | range : MaySucceed (range 200)
  | default : MaySucceed default

/-- A status that is a failure when it is not the success: a number from 300 to 599, one of the
three ranges of these numbers or the default. -/
inductive MayFail : Status → Prop where
  | explicit {code : Int} (h : 300 ≤ code ∧ code ≤ 599) : MayFail (explicit code)
  | range {first : Int} (h : first = 300 ∨ first = 400 ∨ first = 500) : MayFail (range first)
  | default : MayFail default

/-- The status is a number from 200 to 299. -/
def IsExplicitSuccess (s : Status) : Prop :=
  ∃ code, s = explicit code ∧ 200 ≤ code ∧ code < 300

instance (s : Status) : Decidable s.MayFail :=
  match s with
  | explicit code =>
      decidable_of_iff (300 ≤ code ∧ code ≤ 599)
        ⟨.explicit, fun h => match h with | .explicit h => h⟩
  | range first =>
      decidable_of_iff (first = 300 ∨ first = 400 ∨ first = 500)
        ⟨.range, fun h => match h with | .range h => h⟩
  | default => isTrue .default
  | invalid => isFalse (fun h => nomatch h)

theorem successCode?_eq_some_iff {s : Status} {code : Int} :
    s.successCode? = some code ↔ s = explicit code ∧ 200 ≤ code ∧ code < 300 := by
  cases s with
  | explicit c =>
      simp only [successCode?]
      split
      case isTrue h =>
        constructor
        · intro heq
          obtain rfl := Option.some.inj heq
          exact ⟨rfl, h⟩
        · rintro ⟨heq, -⟩
          rw [explicit.inj heq]
      case isFalse h =>
        constructor
        · intro heq
          cases heq
        · rintro ⟨heq, hcode⟩
          exact absurd (explicit.inj heq ▸ hcode) h
  | _ => simp [successCode?]

theorem successCode?_eq_none_iff {s : Status} :
    s.successCode? = none ↔ ¬ s.IsExplicitSuccess := by
  rw [Option.eq_none_iff_forall_ne_some, IsExplicitSuccess, not_exists]
  exact forall_congr' (fun code => not_congr successCode?_eq_some_iff)

/-- The range of a text is one of five. -/
theorem range?_mem {s : List Char} {first : Int} (h : range? s = some first) :
    first ∈ [100, 200, 300, 400, 500] := by
  unfold range? at h
  split at h
  case h_1 d a b =>
    split at h
    case isTrue hd =>
      obtain rfl := Option.some.inj h
      have hlow : 49 ≤ d.toNat := hd.1
      have hhigh : d.toNat ≤ 53 := hd.2.1
      have hzero : ('0' : Char).toNat = 48 := rfl
      simp only [List.mem_cons, List.not_mem_nil, or_false, hzero]
      omega
    case isFalse => cases h
  case h_2 => cases h

/-- The numbers and ranges that texts stand for lie between 100 and 599. -/
theorem bounds_ofText (text : String) :
    (∀ code, ofText text = explicit code → 100 ≤ code ∧ code ≤ 599) ∧
      ∀ first, ofText text = range first → first ∈ [100, 200, 300, 400, 500] := by
  unfold ofText
  dsimp only
  split
  · exact ⟨fun _ h => (nomatch h), fun _ h => (nomatch h)⟩
  · split
    case h_1 first hfirst =>
      refine ⟨fun _ h => (nomatch h), fun _ h => ?_⟩
      obtain rfl := range.inj h
      exact range?_mem hfirst
    case h_2 =>
      split
      case h_1 code _ =>
        split
        case isTrue hcode =>
          refine ⟨fun _ h => ?_, fun _ h => (nomatch h)⟩
          obtain rfl := explicit.inj h
          exact hcode
        case isFalse => exact ⟨fun _ h => (nomatch h), fun _ h => (nomatch h)⟩
      case h_2 => exact ⟨fun _ h => (nomatch h), fun _ h => (nomatch h)⟩

-- a number, a range and the default are written in several ways
example : ["+204", "0200", " 2xX ", "Default", "600", "6XX"].map ofText =
    [explicit 204, explicit 200, range 200, default, invalid, invalid] := by
  decide

end Status

namespace Response

/-- What is known of statuses decides what a failure is. -/
theorem isFailure_meaning (r : Response) :
    r.meaning.isFailure = decide r.meaning.MayFail := by
  obtain ⟨hexplicit, hrange⟩ := Status.bounds_ofText r.status
  rw [Bool.eq_iff_iff, decide_eq_true_iff]
  unfold meaning
  cases hstatus : Status.ofText r.status with
  | explicit code =>
      have hcode := hexplicit code hstatus
      simp only [Status.isFailure, decide_eq_true_iff]
      exact ⟨fun h => .explicit ⟨h, hcode.2⟩, fun h => match h with | .explicit h => h.1⟩
  | range first =>
      have hfirst := hrange first hstatus
      simp only [List.mem_cons, List.not_mem_nil, or_false] at hfirst
      simp only [Status.isFailure, decide_eq_true_iff]
      refine ⟨fun h => .range ?_, fun h => match h with | .range h => ?_⟩
      · omega
      · omega
  | default => exact ⟨fun _ => .default, fun _ => rfl⟩
  | invalid => exact ⟨fun h => (nomatch h), fun h => (nomatch h)⟩

/-- Of responses in status order `r`, between `before` and `after`, is the success: it has the
lowest number from 200 to 299 and is the first that has it, or it is the first range `2XX` and
there is no such number, or it is the last default and there is neither. -/
inductive Chosen (before : List Response) (r : Response) (after : List Response) : Prop where
  | explicit {code : Int} (h : r.meaning = .explicit code) (hcode : 200 ≤ code ∧ code < 300)
      (hbefore : ∀ q ∈ before, ∀ other, q.meaning = .explicit other → 200 ≤ other →
        other < 300 → code < other)
      (hafter : ∀ q ∈ after, ∀ other, q.meaning = .explicit other → 200 ≤ other →
        other < 300 → code ≤ other)
  | range (h : r.meaning = .range 200)
      (hexplicit : ∀ q ∈ before ++ after, ¬ q.meaning.IsExplicitSuccess)
      (hbefore : ∀ q ∈ before, q.meaning ≠ .range 200)
  | default (h : r.meaning = .default)
      (hexplicit : ∀ q ∈ before ++ after, ¬ q.meaning.IsExplicitSuccess)
      (hrange : ∀ q ∈ before ++ after, q.meaning ≠ .range 200)
      (hafter : ∀ q ∈ after, q.meaning ≠ .default)

/-- The success is a response that can be one. -/
theorem Chosen.maySucceed {before after : List Response} {r : Response}
    (h : Chosen before r after) : r.meaning.MaySucceed := by
  cases h with
  | explicit h hcode _ _ => exact h ▸ .explicit hcode
  | range h _ _ => exact h ▸ .range
  | default h _ _ _ => exact h ▸ .default

/-! ## The search for the success -/

variable {numbered : List (Nat × Response)}

theorem lowest?_eq_none_iff :
    lowest? numbered = none ↔ ∀ e ∈ numbered, ¬ e.2.meaning.IsExplicitSuccess := by
  induction numbered with
  | nil => simp [lowest?]
  | cons e rest ih =>
      obtain ⟨i, r⟩ := e
      rw [List.forall_mem_cons, ← ih, ← Status.successCode?_eq_none_iff, lowest?]
      cases r.meaning.successCode? with
      | none => simp
      | some code =>
          cases lowest? rest with
          | none => simp
          | some found =>
              obtain ⟨j, other⟩ := found
              dsimp only
              split <;> simp

/-- The list splits at position `i`, where the lowest number `code` stands first: the numbers
before it are above, and the numbers behind it are not below. -/
def SplitsAtLowest (numbered : List (Nat × Response)) (i : Nat) (code : Int) : Prop :=
  ∃ before r after, numbered = before ++ (i, r) :: after ∧
    r.meaning.successCode? = some code ∧
    (∀ e ∈ before, ∀ other, e.2.meaning.successCode? = some other → code < other) ∧
    ∀ e ∈ after, ∀ other, e.2.meaning.successCode? = some other → code ≤ other

/-- A lowest number stays the lowest behind a response with no number or a greater one. -/
theorem SplitsAtLowest.cons {i : Nat} {code : Int} (h : SplitsAtLowest numbered i code)
    {e : Nat × Response} (he : ∀ own, e.2.meaning.successCode? = some own → code < own) :
    SplitsAtLowest (e :: numbered) i code := by
  obtain ⟨before, r, after, rfl, hr, hbefore, hafter⟩ := h
  exact ⟨e :: before, r, after, rfl, hr, List.forall_mem_cons.2 ⟨he, hbefore⟩, hafter⟩

/-- A number that none behind it is below is the lowest. -/
theorem splitsAtLowest_head {i : Nat} {code : Int} {r : Response}
    (hr : r.meaning.successCode? = some code)
    (h : ∀ e ∈ numbered, ∀ other, e.2.meaning.successCode? = some other → code ≤ other) :
    SplitsAtLowest ((i, r) :: numbered) i code :=
  ⟨[], r, numbered, rfl, hr, fun _ he => absurd he List.not_mem_nil, h⟩

/-- No number of the list is below its lowest. -/
theorem SplitsAtLowest.le {i : Nat} {code : Int} (h : SplitsAtLowest numbered i code) :
    ∀ e ∈ numbered, ∀ other, e.2.meaning.successCode? = some other → code ≤ other := by
  obtain ⟨before, r, after, rfl, hr, hbefore, hafter⟩ := h
  intro e he other hother
  rcases List.mem_append.1 he with he | he
  · exact Int.le_of_lt (hbefore e he other hother)
  · rcases List.mem_cons.1 he with rfl | he
    · rw [hr] at hother
      exact Int.le_of_eq (Option.some.inj hother)
    · exact hafter e he other hother

/-- The search for the lowest number finds where the list splits. -/
theorem splitsAtLowest_of_lowest? {i : Nat} {code : Int} (h : lowest? numbered = some (i, code)) :
    SplitsAtLowest numbered i code := by
  induction numbered generalizing i code with
  | nil => cases h
  | cons e rest ih =>
      obtain ⟨k, q⟩ := e
      rw [lowest?] at h
      cases hq : q.meaning.successCode? with
      | none =>
          simp only [hq] at h
          refine (ih h).cons (fun own hown => ?_)
          rw [hq] at hown
          cases hown
      | some own =>
          cases hrest : lowest? rest with
          | none =>
              simp only [hq, hrest] at h
              cases h
              refine splitsAtLowest_head hq (fun e he other hother => ?_)
              have hnot := lowest?_eq_none_iff.1 hrest e he
              rw [← Status.successCode?_eq_none_iff, hother] at hnot
              cases hnot
          | some found =>
              obtain ⟨j, lower⟩ := found
              simp only [hq, hrest] at h
              split at h
              case isTrue hlt =>
                cases h
                refine (ih hrest).cons (fun own' hown' => ?_)
                rw [hq] at hown'
                exact Option.some.inj hown' ▸ hlt
              case isFalse hnot =>
                cases h
                have hle : code ≤ lower := Int.not_lt.1 hnot
                exact splitsAtLowest_head hq (fun e he other hother =>
                  Int.le_trans hle ((ih hrest).le e he other hother))

/-- The position that is found is that of the success. -/
theorem exists_chosen {i : Nat} (h : successPosition? numbered = some i) :
    ∃ before r after, numbered = before ++ (i, r) :: after ∧
      Chosen (before.map Prod.snd) r (after.map Prod.snd) := by
  rcases Option.or_eq_some_iff.1 h with h | ⟨hnone, h⟩
  · obtain ⟨⟨j, code⟩, hlowest, rfl⟩ := Option.map_eq_some_iff.1 h
    obtain ⟨before, r, after, hsplit, hr, hbefore, hafter⟩ := splitsAtLowest_of_lowest? hlowest
    obtain ⟨hmeaning, hcode⟩ := Status.successCode?_eq_some_iff.1 hr
    refine ⟨before, r, after, hsplit, .explicit hmeaning hcode ?_ ?_⟩
    · refine List.forall_mem_map.2 (fun e he other hother hlow hhigh => ?_)
      exact hbefore e he other (Status.successCode?_eq_some_iff.2 ⟨hother, hlow, hhigh⟩)
    · refine List.forall_mem_map.2 (fun e he other hother hlow hhigh => ?_)
      exact hafter e he other (Status.successCode?_eq_some_iff.2 ⟨hother, hlow, hhigh⟩)
  have hexplicit := lowest?_eq_none_iff.1 (Option.map_eq_none_iff.1 hnone)
  -- what holds of all responses holds of those around the success
  have haround : ∀ {P : Response → Prop} {before after : List (Nat × Response)}
      {e : Nat × Response}, numbered = before ++ e :: after → (∀ e ∈ numbered, P e.2) →
      ∀ q ∈ before.map Prod.snd ++ after.map Prod.snd, P q := by
    intro P before after e hsplit hall q hq
    rw [← List.map_append] at hq
    obtain ⟨e', he', rfl⟩ := List.mem_map.1 hq
    refine hall e' (hsplit ▸ ?_)
    rcases List.mem_append.1 he' with he' | he'
    · exact List.mem_append_left _ he'
    · exact List.mem_append_right _ (List.mem_cons_of_mem _ he')
  rcases Option.or_eq_some_iff.1 h with h | ⟨hnone, h⟩
  · obtain ⟨e, hrange, rfl⟩ := Option.map_eq_some_iff.1 h
    obtain ⟨hr, before, after, hsplit, hbefore⟩ := List.find?_eq_some_iff_append.1 hrange
    refine ⟨before, e.2, after, hsplit, .range (by simpa using hr)
      (haround hsplit hexplicit) (List.forall_mem_map.2 (fun q hq => ?_))⟩
    simpa using hbefore q hq
  · have hrange : ∀ e ∈ numbered, e.2.meaning ≠ .range 200 := by
      intro e he
      simpa using List.find?_eq_none.1 (Option.map_eq_none_iff.1 hnone) e he
    obtain ⟨e, he, rfl⟩ := Option.map_eq_some_iff.1 h
    obtain ⟨hr, before, after, hsplit, hbefore⟩ := List.find?_eq_some_iff_append.1 he
    -- the search for the default goes from the end
    have hsplit' : numbered = after.reverse ++ e :: before.reverse := by
      rw [← List.reverse_reverse numbered, hsplit]
      simp
    refine ⟨after.reverse, e.2, before.reverse, hsplit', .default (by simpa using hr)
      (haround hsplit' hexplicit) (haround hsplit' hrange)
      (List.forall_mem_map.2 (fun q hq => ?_))⟩
    simpa using hbefore q (List.mem_reverse.1 hq)

/-- Where no position is found no response can be the success. -/
theorem not_maySucceed_of_none (h : successPosition? numbered = none) :
    ∀ e ∈ numbered, ¬ e.2.meaning.MaySucceed := by
  simp only [successPosition?, Option.or_eq_none_iff, Option.map_eq_none_iff,
    lowest?_eq_none_iff, List.find?_eq_none, decide_eq_true_iff, List.mem_reverse] at h
  obtain ⟨hexplicit, hrange, hdefault⟩ := h
  intro e he hmay
  cases hmeaning : e.2.meaning with
  | explicit code =>
      rw [hmeaning] at hmay
      cases hmay with
      | explicit hcode => exact hexplicit e he ⟨code, hmeaning, hcode⟩
  | range first =>
      rw [hmeaning] at hmay
      cases hmay with
      | range => exact hrange e he hmeaning
  | default => exact hdefault e he hmeaning
  | invalid =>
      rw [hmeaning] at hmay
      cases hmay

/-! ## The results -/

/-- Among entries with distinct positions that of the success is taken out, and the others stay in
their order. -/
theorem filter_position {before after : List (Nat × Response)} {i : Nat} {r : Response}
    (h : ((before ++ (i, r) :: after).map Prod.fst).Nodup) (keep : Response → Bool) :
    (before ++ (i, r) :: after).filter (fun e => some i = some e.1) = [(i, r)] ∧
      (before ++ (i, r) :: after).filter (fun e => some i ≠ some e.1 && keep e.2) =
        (before ++ after).filter (fun e => keep e.2) := by
  rw [List.map_append, List.map_cons, List.nodup_append, List.nodup_cons] at h
  obtain ⟨-, ⟨hafter, -⟩, hbefore⟩ := h
  have hother : ∀ e ∈ before ++ after, i ≠ e.1 := by
    intro e he heq
    rcases List.mem_append.1 he with he | he
    · exact hbefore e.1 (List.mem_map_of_mem he) i List.mem_cons_self heq.symm
    · exact hafter (List.mem_map.2 ⟨e, he, heq.symm⟩)
  have hother : (∀ e ∈ before, i ≠ e.1) ∧ ∀ e ∈ after, i ≠ e.1 := List.forall_mem_append.1 hother
  constructor
  · rw [List.filter_append, List.filter_cons_of_pos (by simp),
      List.filter_eq_nil_iff.2 (fun e he => by simpa using hother.1 e he),
      List.filter_eq_nil_iff.2 (fun e he => by simpa using hother.2 e he)]
    rfl
  · rw [List.filter_append, List.filter_cons_of_neg (by simp), List.filter_append]
    congr 1
    · exact List.filter_congr (fun e he => by simp [hother.1 e he])
    · exact List.filter_congr (fun e he => by simp [hother.2 e he])

/-- What is made of the entries that are kept is made of the responses that are kept. -/
theorem map_filter_snd (numbered : List (Nat × Response)) (keep : Response → Bool)
    (f : Response → Result) :
    (numbered.filter (fun e => keep e.2)).map (fun e => f e.2) =
      ((numbered.map Prod.snd).filter keep).map f := by
  rw [List.filter_map, List.map_map]
  rfl

/-- What becomes of responses in status order. -/
inductive Sifted (sorted : List Response) : List Result → Prop where
  /-- The success comes first, and the others that can be failures follow. -/
  | success {before after : List Response} {r : Response} (hsplit : sorted = before ++ r :: after)
      (h : Chosen before r after) :
      Sifted sorted (r.toResult .success ::
        ((before ++ after).filter (fun q => q.meaning.MayFail)).map (fun q => q.toResult .failure))
  /-- No response can be the success, and those that can be failures are listed. -/
  | failures (h : ∀ r ∈ sorted, ¬ r.meaning.MaySucceed) :
      Sifted sorted
        ((sorted.filter (fun q => q.meaning.MayFail)).map (fun q => q.toResult .failure))

/-- The responses in status order: the same responses, with their statuses ascending, and those of
one status in the order in which they are declared. -/
structure InStatusOrder (responses sorted : List Response) : Prop where
  perm : sorted.Perm responses
  ascends : sorted.Pairwise (fun a b => a.status ≤ b.status)
  stable : ∀ status, sorted.filter (fun r => r.status = status) =
    responses.filter (fun r => r.status = status)

theorem sortBy_inStatusOrder (responses : List Response) :
    InStatusOrder responses (Draft.sortBy Response.status responses) where
  perm := Draft.sortBy_perm Response.status responses
  ascends := Draft.sortBy_sorted Response.status responses
  stable := Draft.sortBy_stable Response.status responses

/-- The results are those of the responses in status order. -/
theorem sifted_results (responses : List Response) :
    Sifted (Draft.sortBy Response.status responses) (results responses) := by
  generalize hsorted : Draft.sortBy Response.status responses = sorted
  generalize hnumbered : (List.range sorted.length).zip sorted = numbered
  have hpositions : (numbered.map Prod.fst).Nodup := by
    rw [← hnumbered, List.map_fst_zip (by simp)]
    exact List.nodup_range
  have hresponses : numbered.map Prod.snd = sorted := by
    rw [← hnumbered]
    exact List.map_snd_zip (by simp)
  have hresults : results responses =
      (numbered.filter (fun e => successPosition? numbered = some e.1)).map
          (fun e => e.2.toResult .success) ++
        (numbered.filter (fun e => successPosition? numbered ≠ some e.1 &&
          e.2.meaning.MayFail)).map (fun e => e.2.toResult .failure) := by
    subst hnumbered hsorted
    simp only [← isFailure_meaning]
    rfl
  rw [hresults]
  cases hfound : successPosition? numbered with
  | none =>
      simp only [reduceCtorEq, decide_false, List.filter_false, List.map_nil, List.nil_append,
        ne_eq, not_false_eq_true, decide_true, Bool.true_and]
      rw [map_filter_snd numbered (fun q => decide q.meaning.MayFail)
        (fun q => q.toResult .failure), hresponses]
      refine .failures (hresponses ▸ List.forall_mem_map.2 ?_)
      exact not_maySucceed_of_none hfound
  | some i =>
      obtain ⟨before, r, after, rfl, hchosen⟩ := exists_chosen hfound
      obtain ⟨hfirst, hothers⟩ := filter_position hpositions (fun q => q.meaning.MayFail)
      rw [hfirst, hothers]
      rw [map_filter_snd (before ++ after) (fun q => decide q.meaning.MayFail)
        (fun q => q.toResult .failure), List.map_append]
      refine .success ?_ hchosen
      rw [← hresponses, List.map_append, List.map_cons]

/-- A result says of its response what was declared, and its code is the number of an explicit
status and zero for all others. -/
structure IsResultOf (r : Response) (result : Result) : Prop where
  status_eq : result.status = r.status
  description_eq : result.description = r.description
  mediaType_eq : result.mediaType = r.mediaType
  model_eq : result.model = r.model
  code_explicit : ∀ code, r.meaning = .explicit code → result.code = code
  code_other : (∀ code, r.meaning ≠ .explicit code) → result.code = 0

theorem isResultOf_toResult (r : Response) (c : StatusClass) : IsResultOf r (r.toResult c) where
  status_eq := rfl
  description_eq := rfl
  mediaType_eq := rfl
  model_eq := rfl
  code_explicit := by
    intro code hcode
    simp only [toResult, hcode, Status.code]
  code_other := by
    intro hother
    simp only [toResult]
    cases hmeaning : r.meaning with
    | explicit code => exact absurd hmeaning (hother code)
    | _ => rfl

/-- Behind the first result there are failures only. -/
theorem Sifted.statusClass_tail {sorted : List Response} {results : List Result}
    (h : Sifted sorted results) : ∀ result ∈ results.tail, result.statusClass = .failure := by
  intro result hresult
  cases h with
  | success hsplit h =>
      obtain ⟨q, -, rfl⟩ := List.mem_map.1 hresult
      rfl
  | failures h =>
      obtain ⟨q, -, rfl⟩ := List.mem_map.1 (List.mem_of_mem_tail hresult)
      rfl

/-- There is a success exactly when a response can be one. -/
theorem Sifted.exists_success_iff {sorted : List Response} {results : List Result}
    (h : Sifted sorted results) : (∃ result ∈ results, result.statusClass = .success) ↔
      ∃ r ∈ sorted, r.meaning.MaySucceed := by
  cases h with
  | @success before after r hsplit h =>
      have hr : r ∈ sorted := hsplit ▸ List.mem_append_right _ List.mem_cons_self
      exact ⟨fun _ => ⟨r, hr, h.maySucceed⟩, fun _ => ⟨_, List.mem_cons_self, rfl⟩⟩
  | failures h =>
      constructor
      · rintro ⟨result, hresult, hclass⟩
        obtain ⟨q, -, rfl⟩ := List.mem_map.1 hresult
        cases hclass
      · rintro ⟨r, hr, hmay⟩
        exact absurd hmay (h r hr)

/-- Every result is that of a response. -/
theorem Sifted.exists_response {sorted : List Response} {results : List Result}
    (h : Sifted sorted results) : ∀ result ∈ results, ∃ r ∈ sorted, IsResultOf r result := by
  intro result hresult
  cases h with
  | @success before after r hsplit h =>
      subst hsplit
      rcases List.mem_cons.1 hresult with rfl | hresult
      · exact ⟨r, List.mem_append_right _ List.mem_cons_self, isResultOf_toResult r _⟩
      · obtain ⟨q, hq, rfl⟩ := List.mem_map.1 hresult
        refine ⟨q, ?_, isResultOf_toResult q _⟩
        rcases List.mem_append.1 (List.mem_of_mem_filter hq) with hq | hq
        · exact List.mem_append_left _ hq
        · exact List.mem_append_right _ (List.mem_cons_of_mem _ hq)
  | failures h =>
      obtain ⟨q, hq, rfl⟩ := List.mem_map.1 hresult
      exact ⟨q, List.mem_of_mem_filter hq, isResultOf_toResult q _⟩

/-- The results of responses depend on their order only through the order of equal statuses. -/
theorem results_congr {responses other : List Response}
    (h : Draft.sortBy Response.status responses = Draft.sortBy Response.status other) :
    results responses = results other := by
  have hsorted : responses.mergeSort (fun a b => Text.le a.status b.status) =
      other.mergeSort (fun a b => Text.le a.status b.status) := h
  unfold results
  rw [hsorted]

/-- The results are the success, if a response can be one, and behind it all other responses that
can be failures, in status order. Responses with distinct statuses may be declared in any order. -/
theorem results_sifted (responses : List Response) :
    (∃ sorted, InStatusOrder responses sorted ∧ Sifted sorted (results responses)) ∧
      (∀ result ∈ (results responses).tail, result.statusClass = .failure) ∧
      ((∃ result ∈ results responses, result.statusClass = .success) ↔
        ∃ r ∈ responses, r.meaning.MaySucceed) ∧
      (∀ result ∈ results responses, ∃ r ∈ responses, IsResultOf r result) ∧
      ((responses.map Response.status).Nodup →
        ∀ other, other.Perm responses → results other = results responses) := by
  have horder := sortBy_inStatusOrder responses
  have hsifted := sifted_results responses
  refine ⟨⟨_, horder, hsifted⟩, hsifted.statusClass_tail, ?_, ?_, ?_⟩
  · simpa only [horder.perm.mem_iff] using hsifted.exists_success_iff
  · intro result hresult
    obtain ⟨r, hr, hresult⟩ := hsifted.exists_response result hresult
    exact ⟨r, horder.perm.mem_iff.1 hr, hresult⟩
  · intro hdistinct other hperm
    exact results_congr (Draft.sortBy_eq_of_perm hdistinct hperm.symm).symm

end Response

end TypedClient
